import SpecLexicon.Proofs.Json.Strings
import SpecLexicon.Proofs.OrderedMap
import SpecLexicon.Proofs.Text.Span
import SpecLexicon.Settings.EnvironmentFile

/-!
# Variables of a file

A file that gives one variable a value in apostrophes is read as that variable, and its value as it
stands between the apostrophes, apart from the references in it. The JSON text of a list of strings
may stand there if no string holds an apostrophe or a backslash. In any file the last binding of a
name counts.
-/

set_option autoImplicit false

namespace SpecLexicon.EnvironmentFile

open Text

/-!
## Values in apostrophes
-/

/-- A text that stands for itself between apostrophes: it holds none, and no backslash in front of a
character that would be escaped by it. -/
inductive IsLiteral : List Char → Prop where
  | nil : IsLiteral []
  | plain {c : Char} {rest : List Char} :
      c ≠ '\'' → c ≠ '\\' → IsLiteral rest → IsLiteral (c :: rest)
  | pair {c : Char} {rest : List Char} :
      c ≠ '\'' → c ≠ '\\' → IsLiteral rest → IsLiteral ('\\' :: c :: rest)

namespace IsLiteral

variable {text rest : List Char}

theorem append (literal : IsLiteral text) (behind : IsLiteral rest) : IsLiteral (text ++ rest) := by
  induction literal with
  | nil => exact behind
  | plain apostrophe backslash _ ih => exact .plain apostrophe backslash ih
  | pair apostrophe backslash _ ih => exact .pair apostrophe backslash ih

theorem of_plain (plain : ∀ c ∈ text, c ≠ '\'' ∧ c ≠ '\\') : IsLiteral text := by
  induction text with
  | nil => exact .nil
  | cons c rest ih =>
    obtain ⟨apostrophe, backslash⟩ := plain c List.mem_cons_self
    exact .plain apostrophe backslash (ih fun d member => plain d (List.mem_cons_of_mem c member))

theorem readQuoted? (literal : IsLiteral text) (rest : List Char) :
    readQuoted? '\'' (text ++ '\'' :: rest) = some (text, rest) := by
  induction literal with
  | nil => simp [EnvironmentFile.readQuoted?]
  | plain apostrophe backslash _ ih => simp [EnvironmentFile.readQuoted?, apostrophe, backslash, ih]
  | pair _ _ _ ih => simp [EnvironmentFile.readQuoted?, ih]

theorem substitute_escape (literal : IsLiteral text) :
    substitute (escape apostropheEscape?) text = text := by
  have unescaped {c : Char} {rest : List Char} (backslash : c ≠ '\\') :
      escape apostropheEscape? (c :: rest) = none := by
    simp [EnvironmentFile.escape, backslash]
  induction literal with
  | nil => exact substitute_nil _
  | plain _ backslash _ ih => rw [substitute_cons_of_none (unescaped backslash), ih]
  | @pair c rest apostrophe backslash _ ih =>
    have meaningless : escape apostropheEscape? ('\\' :: c :: rest) = none := by
      simp [EnvironmentFile.escape, apostropheEscape?, apostrophe, backslash]
    rw [substitute_cons_of_none meaningless, substitute_cons_of_none (unescaped backslash), ih]

end IsLiteral

/-!
## The text of a list
-/

section Lists

open Json

variable {text : List Char}

theorem isLiteral_of_writesUnit {unit : Nat} (written : WritesUnit text unit) :
    IsLiteral text := by
  have plain : ∀ known ∈ hexValues, known.1 ≠ '\'' ∧ known.1 ≠ '\\' := by decide
  cases written with
  | @digits a b c d _ _ _ _ first second third fourth =>
    refine .of_plain fun e member => ?_
    simp only [List.mem_cons, List.not_mem_nil, or_false] at member
    rcases member with rfl | rfl | rfl | rfl
    · exact plain _ first
    · exact plain _ second
    · exact plain _ third
    · exact plain _ fourth

theorem isLiteral_of_writesChar {c : Char} (written : WritesChar text c) (apostrophe : c ≠ '\'')
    (backslash : c ≠ '\\') : IsLiteral text := by
  cases written with
  | plain => exact .plain apostrophe backslash .nil
  | short known =>
    have letters : ∀ known ∈ shortEscapes, known.2 ≠ '\\' → known.1 ≠ '\'' ∧ known.1 ≠ '\\' := by
      decide
    obtain ⟨apostrophe, backslash⟩ := letters _ known backslash
    exact .pair apostrophe backslash .nil
  | unit digits => exact .pair (by decide) (by decide) (isLiteral_of_writesUnit digits)
  | pair high _ low =>
    have second : IsLiteral ('\\' :: 'u' :: _) :=
      .pair (by decide) (by decide) (isLiteral_of_writesUnit low)
    exact .pair (by decide) (by decide) ((isLiteral_of_writesUnit high).append second)

theorem isLiteral_of_writesString {body : List Char} (written : WritesString text body)
    (plain : ∀ c ∈ body, c ≠ '\'' ∧ c ≠ '\\') : IsLiteral text := by
  induction written with
  | closed => exact .plain (by decide) (by decide) .nil
  | char first _ ih =>
    obtain ⟨apostrophe, backslash⟩ := plain _ List.mem_cons_self
    exact (isLiteral_of_writesChar first apostrophe backslash).append
      (ih fun c member => plain c (List.mem_cons_of_mem _ member))

/-- Apostrophes and backslashes in the text of a list come from its strings. -/
theorem isLiteral_of_spells {texts : List String} (spells : Spells text texts)
    (plain : ∀ string ∈ texts, '\'' ∉ string.toList ∧ '\\' ∉ string.toList) : IsLiteral text := by
  induction spells with
  | nil => exact .nil
  | @mark c rest texts known _ ih =>
    have other : c ≠ '\'' ∧ c ≠ '\\' := by
      constructor <;> rintro rfl <;> exact absurd known (by decide)
    exact .plain other.1 other.2 (ih plain)
  | @string text rest string texts written _ ih =>
    obtain ⟨apostrophe, backslash⟩ := plain string List.mem_cons_self
    have inside : IsLiteral text := isLiteral_of_writesString written fun c member =>
      ⟨ne_of_mem_of_not_mem member apostrophe, ne_of_mem_of_not_mem member backslash⟩
    exact .plain (by decide) (by decide)
      (inside.append (ih fun other listed => plain other (List.mem_cons_of_mem string listed)))

end Lists

/-!
## A file with one variable
-/

/-- A line that gives a variable a value in apostrophes. -/
def assignment (name value : List Char) : List Char :=
  name ++ '=' :: '\'' :: (value ++ ['\''])

theorem unifyLineEnds_append {front : List Char} (rest : List Char) (absent : '\r' ∉ front) :
    unifyLineEnds (front ++ rest) = front ++ unifyLineEnds rest := by
  induction front with
  | nil => rfl
  | cons c front ih =>
    rw [List.mem_cons, not_or] at absent
    have other : c ≠ '\r' := Ne.symm absent.1
    simp [unifyLineEnds, other, ih absent.2]

theorem isBlankText_unifyLineEnds {text : List Char} (blank : IsBlankText text) :
    IsBlankText (unifyLineEnds text) := by
  have feed : isBlank '\n' = true := by decide
  fun_induction unifyLineEnds text with
  | case1 rest ih => simpa [IsBlankText, feed] using ih fun c member => blank c (by simp [member])
  | case2 rest _ ih => simpa [IsBlankText, feed] using ih fun c member => blank c (by simp [member])
  | case3 c rest _ _ ih =>
    have first := blank c List.mem_cons_self
    simpa [IsBlankText, first] using ih fun d member => blank d (by simp [member])
  | case4 => exact blank

/-- Behind a value, blanks up to the end of a line end the statement. -/
theorem readEnd_of_blank {behind : List Char} (blank : IsBlankText behind) :
    ∃ rest, readEnd (skipComment behind) = .ok ((), rest) ∧ IsBlankText rest := by
  have inside : ∀ c ∈ skipInline behind, isBlank c = true := fun c member =>
    blank c ((List.dropWhile_suffix _).subset member)
  have noComment : skipComment behind = behind := by
    rw [skipComment]
    split
    · rename_i rest found
      exact absurd (inside '#' (found ▸ List.mem_cons_self)) (by decide)
    · rfl
  have ends := head?_dropWhile_eq_false isInlineBlank behind
  rw [noComment, readEnd]
  change ∀ c ∈ (skipInline behind).head?, isInlineBlank c = false at ends
  cases front : skipInline behind with
  | nil => exact ⟨[], rfl, by simp [IsBlankText]⟩
  | cons c rest =>
    rw [front] at inside ends
    have feed : c = '\n' := by
      have inline := ends c rfl
      simpa [isInlineBlank, inside c List.mem_cons_self] using inline
    exact ⟨rest, if_pos feed, fun d member => inside d (List.mem_cons_of_mem c member)⟩

theorem isNamePart_of_isWordPart {c : Char} (part : isWordPart c = true) : isNamePart c = true := by
  have blank := isBlank_of_isWordPart part
  have equals : c ≠ '=' := by
    rintro rfl
    exact absurd part (by decide)
  have hash : c ≠ '#' := by
    rintro rfl
    exact absurd part (by decide)
  simp [isNamePart, blank, equals, hash]

section Line

variable {name value behind : List Char} (isWord : IsWord name)

include isWord

/-- No blank follows the name, so it is not the word in front of an exported one. -/
theorem skipExport_name (rest : List Char) :
    skipExport (name ++ '=' :: rest) = name ++ '=' :: rest := by
  rw [skipExport]
  split
  · rename_i c later stripped
    rw [stripOpening?_eq_some_iff] at stripped
    refine if_neg ?_
    have shown : isBlank c = false := by
      rcases List.append_eq_append_iff.mp stripped with
        ⟨middle, opening, behind⟩ | ⟨middle, rfl, behind⟩
      · cases middle with
        | nil =>
          rw [← (List.cons.inj behind).1]
          decide
        | cons d middle =>
          rw [← (List.cons.inj behind).1] at opening
          have inside : '=' ∈ "export".toList := by
            rw [opening]
            exact List.mem_append_right name List.mem_cons_self
          exact absurd inside (by decide)
      · cases middle with
        | nil =>
          rw [(List.cons.inj behind).1]
          decide
        | cons d middle =>
          rw [(List.cons.inj behind).1]
          exact isBlank_of_isWordPart
            (isWord.isWordPart d (List.mem_append_right _ List.mem_cons_self))
    simp [isInlineBlank, shown]
  · rfl

theorem readName_name (rest : List Char) :
    readName (name ++ '=' :: rest) = .ok (some name, '=' :: rest) := by
  have boundary : ∀ c ∈ ('=' :: rest).head?, isNamePart c = false := by
    rintro c ⟨⟩
    decide
  have inside : ∀ c ∈ name, isNamePart c = true := fun c member =>
    isNamePart_of_isWordPart (isWord.isWordPart c member)
  have taken := takeWhile_span inside boundary
  have dropped := dropWhile_span inside boundary
  obtain ⟨first, part, rfl, start, -⟩ := isWord
  rw [List.cons_append] at taken dropped ⊢
  unfold readName
  split
  · rename_i same
    exact absurd ((List.cons.inj same).1 ▸ start) (by decide)
  · rename_i same
    exact absurd ((List.cons.inj same).1 ▸ start) (by decide)
  · rw [taken, dropped]

variable (literal : IsLiteral value) (blank : IsBlankText behind)

include literal blank

theorem readLine_assignment :
    ∃ rest, readLine (assignment name value ++ behind) = .ok (some (name, some value), rest) ∧
      IsBlankText rest := by
  obtain ⟨rest, ended, blankRest⟩ := readEnd_of_blank blank
  refine ⟨rest, ?_, blankRest⟩
  have whole : assignment name value ++ behind =
      name ++ '=' :: '\'' :: (value ++ '\'' :: behind) := by
    simp [assignment]
  have valueRead (flag : Bool) : readValue flag ('\'' :: (value ++ '\'' :: behind)) =
      .ok (value, behind) := by
    rw [readValue, literal.readQuoted?]
    simp only [literal.substitute_escape]
  have assigned : readAssignment ('=' :: '\'' :: (value ++ '\'' :: behind)) =
      .ok (some value, behind) := by
    have equals (text : List Char) : skipInline ('=' :: text) = '=' :: text := rfl
    have quote (text : List Char) : skipInline ('\'' :: text) = '\'' :: text := rfl
    rw [readAssignment, equals]
    simp only [quote, valueRead]
    rfl
  rw [readLine, whole, skipExport_name isWord, readName_name isWord]
  simp only [bind, Except.bind, pure, Except.pure, assigned, ended, Option.map_some]

/-- The file has this one statement. -/
theorem statementsFrom_assignment (line : Nat) :
    statementsFrom line (assignment name value ++ behind) = [.assignment (name, some value)] := by
  obtain ⟨rest, read, blankRest⟩ := readLine_assignment isWord literal blank
  have none_left (line : Nat) : statementsFrom line rest = [] := by
    rw [statementsFrom, dropBlank_eq_nil_iff.mpr blankRest]
  obtain ⟨first, part, rfl, start, -⟩ := isWord
  have starts : assignment (first :: part) value ++ behind =
    first :: (assignment part value ++ behind) := rfl
  have visible := Mnemonic.isBlank_of_isWordStart start
  have kept : dropBlank (first :: (assignment part value ++ behind)) =
      first :: (assignment part value ++ behind) :=
    dropBlank_eq_self (by simpa using visible)
  rw [starts] at read ⊢
  rw [statementsFrom, kept]
  simp only [read, none_left]
  split <;> rfl

variable (unbroken : '\r' ∉ value)

include unbroken

theorem bindings_assignment :
    bindings (assignment name value ++ behind) = [(name, some value)] := by
  have plain : '\r' ∉ assignment name value := by
    have named : '\r' ∉ name := fun member =>
      absurd (isWord.isWordPart _ member) (by decide)
    simp [assignment, named, unbroken]
  have unmarked : dropByteOrderMark (assignment name value ++ behind) =
      assignment name value ++ behind := by
    obtain ⟨first, part, rfl, start, -⟩ := isWord
    have other : first ≠ '\ufeff' := by
      rintro rfl
      exact absurd start (by decide)
    simp [dropByteOrderMark, assignment, other]
  rw [bindings, statements, unmarked, unifyLineEnds_append behind plain,
    statementsFrom_assignment isWord literal (isBlankText_unifyLineEnds blank)]
  rfl

end Line

/-!
## The variables of a file
-/

section Variables

variable {environment : List (String × String)}

theorem bindings_nil : bindings [] = [] := by
  have none_left : statementsFrom 1 [] = [] := by
    rw [statementsFrom]
    rfl
  change List.filterMap _ (statementsFrom 1 []) = []
  rw [none_left]
  rfl

/-- The variables that some bindings make up, one after the other. -/
def variablesOf (environment : List (String × String)) (bindings : List Binding) : Variables :=
  bindings.foldl (addBinding environment) .empty

theorem get?_foldl_addBinding (known : Variables) {key : String} {bindings : List Binding}
    (absent : ∀ binding ∈ bindings, String.ofList binding.1 ≠ key) :
    (bindings.foldl (addBinding environment) known).get? key = known.get? key := by
  induction bindings generalizing known with
  | nil => rfl
  | cons binding rest ih =>
    have later : ∀ other ∈ rest, String.ofList other.1 ≠ key := fun other listed =>
      absent other (List.mem_cons_of_mem binding listed)
    rw [List.foldl_cons, ih _ later, addBinding, OrderedMap.get?_insert,
      if_neg (absent binding List.mem_cons_self)]

/-- A name that no binding has is no variable. -/
theorem get?_variablesOf_eq_none {key : String} {bindings : List Binding}
    (absent : ∀ binding ∈ bindings, String.ofList binding.1 ≠ key) :
    (variablesOf environment bindings).get? key = none :=
  get?_foldl_addBinding .empty absent

theorem exists_of_mem_variablesOf {bindings : List Binding} {entry : String × Option String}
    (listed : entry ∈ (variablesOf environment bindings).toList) :
    ∃ binding ∈ bindings, String.ofList binding.1 = entry.1 := by
  refine Classical.byContradiction fun absent => ?_
  have missing := @get?_variablesOf_eq_none environment entry.1 bindings fun binding member same =>
    absent ⟨binding, member, same⟩
  rw [OrderedMap.get?_eq_some_iff.mpr listed] at missing
  cases missing

/-- The last binding of a name counts. The references in its value are to variables before it. -/
theorem get?_variablesOf {name value : List Char} {before after : List Binding}
    (last : ∀ binding ∈ after, String.ofList binding.1 ≠ String.ofList name) :
    (variablesOf environment (before ++ (name, some value) :: after)).get? (String.ofList name) =
      some (some (String.ofList (substitute
        (reference (resolve environment (variablesOf environment before))) value))) := by
  rw [variablesOf, List.foldl_append, List.foldl_cons, get?_foldl_addBinding _ last, addBinding,
    OrderedMap.get?_insert, if_pos rfl]
  rfl

end Variables

end SpecLexicon.EnvironmentFile
