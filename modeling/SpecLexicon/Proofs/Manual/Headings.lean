import SpecLexicon.Proofs.Manual
import SpecLexicon.Proofs.Text.Split

/-!
# The headings of a manual

The lines of a manual that start with a hash. Names, signatures and descriptions are put into a
manual as they are, so it has a heading per symbol exactly where none of them can start a line with
a hash: no name and no description has a line feed, and no signature a hash.
-/

set_option autoImplicit false

namespace SpecLexicon

namespace Manual

open Text

def isHeading (line : List Char) : Bool :=
  line.head? == some '#'

/-- The lines of a text that start with a hash. -/
def headings (text : String) : List String :=
  ((splitAtMark '\n' text.toList).filter isHeading).map String.ofList

/-!
## Paragraphs
-/

theorem headings_paragraph (front rest : String) :
    headings (front ++ "\n\n" ++ rest) = headings front ++ headings rest := by
  have text : (front ++ "\n\n" ++ rest).toList =
      front.toList ++ '\n' :: ([] ++ '\n' :: rest.toList) := by
    simp
  rw [headings, text, splitAtMark_append_mark, splitAtMark_append_mark, List.filter_append,
    List.map_append]
  rfl

theorem headings_of_not_mem {text : String} (plain : '#' ∉ text.toList) : headings text = [] := by
  rw [headings, List.map_eq_nil_iff]
  apply List.filter_eq_nil_iff.mpr
  intro line member heading
  obtain ⟨rest, starts⟩ := List.head?_eq_some_iff.mp (beq_iff_eq.mp heading)
  exact plain (mem_of_mem_splitAtMark member (starts ▸ List.mem_cons_self))

theorem headings_of_isHeading {line : String} (heading : isHeading line.toList = true)
    (oneLine : '\n' ∉ line.toList) : headings line = [line] := by
  rw [headings, splitAtMark_of_not_mem oneLine, List.filter_cons_of_pos heading]
  simp

/-- No line starts with a hash where a character stands behind all line feeds and in front of all
hashes. -/
theorem filter_isHeading_eq_nil {front tail : List Char} {c : Char} (plain : '#' ∉ front)
    (shield : c ≠ '#') (oneLine : '\n' ∉ c :: tail) :
    (splitAtMark '\n' (front ++ c :: tail)).filter isHeading = [] := by
  induction front with
  | nil =>
    rw [List.nil_append, splitAtMark_of_not_mem oneLine]
    simp [isHeading, shield]
  | cons d front ih =>
    rw [List.mem_cons, not_or] at plain
    have others := ih plain.2
    by_cases feed : d = '\n'
    · simpa [splitAtMark, feed, isHeading] using others
    · simp only [List.cons_append, splitAtMark, if_neg feed]
      cases parts : splitAtMark '\n' (front ++ c :: tail) with
      | nil => exact absurd parts (splitAtMark_ne_nil _ _)
      | cons part later =>
        rw [parts] at others
        rw [List.filter_cons_of_neg (by simp [isHeading, Ne.symm plain.1])]
        exact List.filter_eq_nil_iff.mpr fun line member =>
          List.filter_eq_nil_iff.mp others line (List.mem_cons_of_mem part member)

theorem headings_quoted {signature tail : String} (plain : '#' ∉ signature.toList)
    (oneLine : '\n' ∉ tail.toList) : headings ("`" ++ signature ++ "`" ++ tail) = [] := by
  have text : ("`" ++ signature ++ "`" ++ tail).toList =
      ('`' :: signature.toList) ++ '`' :: tail.toList := by
    simp
  rw [headings, text, filter_isHeading_eq_nil (by simp [plain]) (by decide) (by simp [oneLine])]
  rfl

/-!
## Symbols
-/

/-- A symbol under its name, of which no part can start a line with a hash. -/
structure IsPlain (symbol : String × Item) : Prop where
  name : '\n' ∉ symbol.1.toList
  signature : '#' ∉ symbol.2.signature.toList
  description : ∀ description ∈ symbol.2.description, '\n' ∉ description.toList
  comments : symbol.2.comments = none
  overloads : symbol.2.overloads = none

theorem exists_signatureLine (signature : String) {description : Option String}
    (oneLine : ∀ shown ∈ description, '\n' ∉ shown.toList) :
    ∃ tail, '\n' ∉ tail.toList ∧
      signatureLine signature description = "`" ++ signature ++ "`" ++ tail ++ "\n\n" := by
  unfold signatureLine
  cases found : filled? description with
  | none => exact ⟨"", by decide, String.toList_inj.mp (by simp)⟩
  | some shown =>
    have described : shown ∈ description := (Option.filter_eq_some_iff.mp found).1
    exact ⟨" — " ++ shown, by simp [oneLine shown described], String.toList_inj.mp (by simp)⟩

theorem headings_entry {symbol : String × Item} (plain : IsPlain symbol) (rest : String) :
    headings (entry symbol.1 symbol.2 ++ rest) = ("### " ++ symbol.1) :: headings rest := by
  obtain ⟨tail, oneLine, line⟩ := exists_signatureLine symbol.2.signature plain.description
  have text : entry symbol.1 symbol.2 ++ rest = "### " ++ symbol.1 ++ "\n\n" ++
      ("`" ++ symbol.2.signature ++ "`" ++ tail ++ "\n\n" ++ rest) := by
    rw [entry, line, plain.comments, plain.overloads]
    simp [commentsParagraph, filled?, String.append_assoc]
  rw [text, headings_paragraph, headings_paragraph, headings_quoted plain.signature oneLine,
    headings_of_isHeading (by simp [isHeading]) (by simp [plain.name])]
  rfl

theorem headings_symbols {symbols : List (String × Item)}
    (plain : ∀ symbol ∈ symbols, IsPlain symbol) :
    headings (String.join (symbols.map fun symbol => entry symbol.1 symbol.2)) =
      symbols.map fun symbol => "### " ++ symbol.1 := by
  induction symbols with
  | nil => rfl
  | cons symbol rest ih =>
    rw [List.map_cons, String.join_cons, headings_entry (plain symbol List.mem_cons_self),
      ih fun other member => plain other (List.mem_cons_of_mem symbol member), List.map_cons]

theorem headings_kindSection {label : String} (oneLine : '\n' ∉ label.toList) {items : ItemMap}
    (plain : ∀ symbol ∈ items.toList, IsPlain symbol) :
    headings (kindSection label items) =
      ("## " ++ label) :: items.keys.map fun name => "### " ++ name := by
  rw [kindSection, headings_paragraph, headings_of_isHeading (by simp [isHeading])
    (by simp [oneLine]), headings_symbols plain, OrderedMap.keys, List.map_map]
  rfl

/-!
## Whole manuals
-/

theorem exists_citation :
    ∃ paragraph, citation = paragraph ++ "\n\n" ∧ headings paragraph = [] := by
  have last : "except where otherwise noted.\n\n" = "except where otherwise noted." ++ "\n\n" := rfl
  unfold citation
  rw [last, ← String.append_assoc]
  refine ⟨_, rfl, headings_of_not_mem ?_⟩
  simp only [String.toList_append, List.mem_append, not_or]
  refine ⟨⟨⟨⟨?_, ?_⟩, ?_⟩, ?_⟩, ?_⟩ <;> decide +kernel

def titleLine : String := "# __spec__ Reference Manual"

theorem headings_document {query : Option String} {partition : Partition} {kind : Kind}
    {label : String} {items : ItemMap} (whole : partition.toList = [(kind, items)])
    (labeled : kind.label? = some label) (oneLine : '\n' ∉ label.toList)
    (selected : selects query label = true)
    (plain : ∀ symbol ∈ items.toList, IsPlain symbol) :
    headings (document query partition) =
      titleLine :: ("## " ++ label) :: items.keys.map fun name => "### " ++ name := by
  obtain ⟨paragraph, cited, unheaded⟩ := exists_citation
  have chosen : Manual.selected query partition = [(label, items)] := by
    rw [Manual.selected, whole]
    simp [selectedEntry, labeled, selected]
  have text : document query partition =
      titleLine ++ "\n\n" ++ (paragraph ++ "\n\n" ++ kindSection label items) := by
    rw [document, chosen, cited]
    apply String.toList_inj.mp
    simp [header, titleLine]
  rw [text, headings_paragraph, headings_paragraph, unheaded, headings_kindSection oneLine plain,
    headings_of_isHeading (by decide) (by decide)]
  rfl

end Manual

end SpecLexicon
