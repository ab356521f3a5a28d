import SpecLexicon.Proofs.Template.Rebuild
import SpecLexicon.Proofs.Text.Split

/-!
# Markers

A text falls into its markers and the characters between them. Two markers never share a character,
and what is put in the place of a marker begins with a character that no marker has and holds no
percent sign. So no pass makes or breaks a marker where its replacement meets the text around it,
and the two passes that fill the markers of a body are one replacement of all markers at once.
-/

set_option autoImplicit false

namespace SpecLexicon

namespace Placeholder

open Text

inductive Marker where
  | motor
  | counter
deriving DecidableEq

namespace Marker

/-- The letters of a marker, which follow a percent sign. -/
def letters : Marker → List Char
  | motor => ['M', 'O', 'T']
  | counter => ['C', 'N', 'T']

def text (kind : Marker) : List Char :=
  '%' :: kind.letters

@[simp] theorem text_motor : motor.text = motorMarker := rfl

@[simp] theorem text_counter : counter.text = counterMarker := rfl

theorem percent_not_mem_letters (kind : Marker) : '%' ∉ kind.letters := by
  cases kind <;> decide

/-- No marker is the start of the other one. -/
theorem eq_of_opens_text {kind other : Marker} {rest : List Char}
    (starts : kind.text <+: other.text ++ rest) : kind = other := by
  cases kind <;> cases other <;> simp_all [text, letters, List.cons_prefix_cons]

theorem eq_of_ne {first second other : Marker} (different : first ≠ second)
    (otherwise : other ≠ second) : other = first := by
  cases first <;> cases second <;> cases other <;> simp_all

theorem not_opens_text {kind : Marker} {c : Char} {rest : List Char} (plain : c ≠ '%') :
    ¬kind.text <+: c :: rest :=
  fun starts => plain (List.cons_prefix_cons.mp starts).1.symm

theorem substitute_append {front : List Char} (kind : Marker) (shown rest : List Char)
    (plain : '%' ∉ front) :
    substitute (literal kind.text shown) (front ++ rest) =
      front ++ substitute (literal kind.text shown) rest :=
  substitute_append_of_none rest fun _ member _ =>
    literal_eq_none_iff.mpr (not_opens_text (ne_of_mem_of_not_mem member plain))

theorem infix_of_append {kind : Marker} {front rest : List Char} (plain : '%' ∉ front)
    (found : kind.text <:+: front ++ rest) : kind.text <:+: rest := by
  induction front with
  | nil => exact found
  | cons c front ih =>
    rw [List.mem_cons, not_or] at plain
    rcases List.infix_cons_iff.mp found with starts | later
    · exact absurd starts (not_opens_text (Ne.symm plain.1))
    · exact ih plain.2 later

end Marker

/-!
## The parts of a text
-/

/-- A part of a text is a marker, or a character outside of markers. -/
inductive Part where
  | char (c : Char)
  | marker (kind : Marker)

/-- The text of parts, with a text of its own in the place of each marker. -/
def write (put : Marker → List Char) (parts : List Part) : List Char :=
  parts.flatMap fun
    | .char c => [c]
    | .marker kind => put kind

/-- The parts make up the text, and every occurrence of a marker in it is one of them. -/
structure IsMarked (text : List Char) (parts : List Part) : Prop where
  whole : write Marker.text parts = text
  marked : ∀ kind front rest, text = front ++ (Marker.text kind ++ rest) →
    ∃ before behind, parts = before ++ .marker kind :: behind ∧
      write Marker.text before = front ∧ write Marker.text behind = rest

/-- A text and its parts, from the left: a marker where one starts, a character elsewhere. -/
inductive Parted : List Char → List Part → Prop where
  | nil : Parted [] []
  | marker {rest : List Char} {parts : List Part} (kind : Marker) :
      Parted rest parts → Parted (kind.text ++ rest) (.marker kind :: parts)
  | char {c : Char} {rest : List Char} {parts : List Part} :
      (∀ kind : Marker, ¬kind.text <+: c :: rest) → Parted rest parts →
      Parted (c :: rest) (.char c :: parts)

section Write

variable (put : Marker → List Char)

@[simp] theorem write_nil : write put [] = [] := rfl

@[simp] theorem write_char (c : Char) (parts : List Part) :
    write put (.char c :: parts) = c :: write put parts := rfl

@[simp] theorem write_marker (kind : Marker) (parts : List Part) :
    write put (.marker kind :: parts) = put kind ++ write put parts := rfl

theorem write_append (parts others : List Part) :
    write put (parts ++ others) = write put parts ++ write put others :=
  List.flatMap_append

end Write

theorem exists_parted : ∀ text : List Char, ∃ parts, Parted text parts
  | [] => ⟨[], .nil⟩
  | c :: tail => by
    by_cases starts : ∃ kind : Marker, kind.text <+: c :: tail
    · obtain ⟨kind, rest, whole⟩ := starts
      have shorter : rest.length < (c :: tail).length := by
        rw [← whole, List.length_append]
        exact Nat.lt_add_of_pos_left (Nat.zero_lt_succ _)
      obtain ⟨parts, parted⟩ := exists_parted rest
      exact ⟨.marker kind :: parts, whole ▸ .marker kind parted⟩
    · obtain ⟨parts, parted⟩ := exists_parted tail
      exact ⟨_, .char (not_exists.mp starts) parted⟩
  termination_by text => text.length
  decreasing_by
  · exact shorter
  · exact Nat.lt_succ_self _

namespace Parted

variable {text : List Char} {parts : List Part}

theorem write_text (parted : Parted text parts) : write Marker.text parts = text := by
  induction parted with
  | nil => rfl
  | marker kind _ ih => rw [write_marker, ih]
  | char _ _ ih => rw [write_char, ih]

theorem isMarked (parted : Parted text parts) : IsMarked text parts := by
  refine ⟨parted.write_text, ?_⟩
  intro kind front rest whole
  induction parted generalizing front with
  | nil => simp [Marker.text] at whole
  | @marker tail parts other parted ih =>
    cases front with
    | nil =>
      obtain rfl : kind = other := Marker.eq_of_opens_text ⟨rest, whole.symm⟩
      rw [List.nil_append, List.append_cancel_left_eq] at whole
      exact ⟨[], parts, rfl, rfl, whole ▸ parted.write_text⟩
    | cons c front =>
      -- The occurrence starts behind the marker, which has only one percent sign.
      rw [Marker.text, List.cons_append, List.cons_append, List.cons.injEq] at whole
      obtain ⟨rfl, whole⟩ := whole
      rcases List.append_eq_append_iff.mp whole with ⟨middle, rfl, behind⟩ | ⟨middle, inside, start⟩
      · obtain ⟨before, others, rfl, before_eq, others_eq⟩ := ih middle behind
        refine ⟨.marker other :: before, others, rfl, ?_, others_eq⟩
        rw [write_marker, before_eq]
        rfl
      · cases middle with
        | nil =>
          obtain ⟨before, others, rfl, before_eq, others_eq⟩ := ih [] start.symm
          rw [List.append_nil] at inside
          refine ⟨.marker other :: before, others, rfl, ?_, others_eq⟩
          rw [write_marker, before_eq, List.append_nil, Marker.text, inside]
        | cons d middle =>
          rw [Marker.text, List.cons_append, List.cons_append, List.cons.injEq] at start
          have member : '%' ∈ other.letters := by
            rw [inside, start.1]
            exact List.mem_append_right _ List.mem_cons_self
          exact absurd member other.percent_not_mem_letters
  | @char c tail parts plain parted ih =>
    cases front with
    | nil => exact absurd ⟨rest, whole.symm⟩ (plain kind)
    | cons d front =>
      rw [List.cons_append, List.cons.injEq] at whole
      obtain ⟨rfl, whole⟩ := whole
      obtain ⟨before, behind, rfl, before_eq, behind_eq⟩ := ih front whole
      exact ⟨.char c :: before, behind, rfl, by rw [write_char, before_eq], behind_eq⟩

end Parted

/-!
## Passes over parts
-/

/-- A text that may stand in the place of a marker: it holds no percent sign, and its first
character is in no marker. -/
def IsSealed (text : List Char) : Prop :=
  '%' ∉ text ∧ ∃ first rest, text = first :: rest ∧ ∀ kind : Marker, first ∉ kind.letters

/-- Each marker stands for itself or for a sealed text. -/
def IsPartial (put : Marker → List Char) : Prop :=
  ∀ kind, put kind = kind.text ∨ IsSealed (put kind)

section Passes

variable {put : Marker → List Char} {text : List Char} {parts : List Part}

/-- Letters at the start of what is written were there before. -/
theorem prefix_text_of_prefix_write (isPartial : IsPartial put) {kind : Marker} {word : List Char}
    (letters : ∀ c ∈ word, c ∈ kind.letters) (starts : word <+: write put parts) :
    word <+: write Marker.text parts := by
  induction parts generalizing word with
  | nil => exact starts
  | cons part parts ih =>
    cases word with
    | nil => exact List.nil_prefix
    | cons c word =>
      have letter := letters c List.mem_cons_self
      cases part with
      | char d =>
        rw [write_char, List.cons_prefix_cons] at starts ⊢
        exact ⟨starts.1, ih (fun e member => letters e (List.mem_cons_of_mem c member)) starts.2⟩
      | marker other =>
        rw [write_marker] at starts
        rcases isPartial other with same | ⟨_, first, rest, same, outside⟩
        · rw [same, Marker.text, List.cons_append, List.cons_prefix_cons] at starts
          exact absurd (starts.1 ▸ letter) kind.percent_not_mem_letters
        · rw [same, List.cons_append, List.cons_prefix_cons] at starts
          exact absurd (starts.1 ▸ letter) (outside kind)

theorem not_prefix_write {c : Char} (isPartial : IsPartial put) (parted : Parted text parts)
    (plain : ∀ kind : Marker, ¬kind.text <+: c :: text) (kind : Marker) :
    ¬kind.text <+: c :: write put parts := by
  intro starts
  obtain ⟨rfl, letters⟩ := List.cons_prefix_cons.mp starts
  have source := prefix_text_of_prefix_write isPartial (fun _ member => member) letters
  rw [parted.write_text] at source
  exact plain kind (List.cons_prefix_cons.mpr ⟨rfl, source⟩)

/-- A pass replaces the markers of its kind that are still there, and nothing else. -/
theorem substitute_write (parted : Parted text parts) (isPartial : IsPartial put) {kind : Marker}
    (kept : put kind = kind.text) {filled : Marker → List Char}
    (others : ∀ other, other ≠ kind → filled other = put other) :
    substitute (literal kind.text (filled kind)) (write put parts) = write filled parts := by
  induction parted with
  | nil => exact substitute_nil _
  | @marker rest parts other _ ih =>
    rw [write_marker, write_marker]
    by_cases same : other = kind
    · rw [same, kept, Marker.text, substitute_literal_append, ← Marker.text, ih]
    · rw [others other same]
      rcases isPartial other with source | ⟨plain, _⟩
      · have absent : ¬kind.text <+: '%' :: (other.letters ++ write put parts) := fun starts =>
          same (Marker.eq_of_opens_text starts).symm
        have text : other.text = '%' :: other.letters := rfl
        rw [source, text, List.cons_append,
          substitute_cons_of_none (literal_eq_none_iff.mpr absent),
          kind.substitute_append _ _ other.percent_not_mem_letters, ih, List.cons_append]
      · rw [kind.substitute_append _ _ plain, ih]
  | char plain parted ih =>
    have absent := not_prefix_write isPartial parted plain kind
    rw [write_char, write_char, substitute_cons_of_none (literal_eq_none_iff.mpr absent), ih]

/-- No marker is left, and none has come up, where all markers are replaced. -/
theorem not_infix_write (parted : Parted text parts) (isSealed : ∀ kind, IsSealed (put kind))
    (kind : Marker) : ¬kind.text <:+: write put parts := by
  have isPartial : IsPartial put := fun other => .inr (isSealed other)
  induction parted with
  | nil => simp [Marker.text]
  | marker other _ ih => exact fun found => ih (Marker.infix_of_append (isSealed other).1 found)
  | char plain parted ih =>
    intro found
    rcases List.infix_cons_iff.mp found with starts | later
    · exact not_prefix_write isPartial parted plain kind starts
    · exact ih later

end Passes

/-!
## Filling the markers of a body
-/

section Fill

variable {filled : Marker → List Char} {body : List Char} {parts : List Part}

/-- What stands for the markers behind the pass for the first one. -/
def afterPass (filled : Marker → List Char) (first kind : Marker) : List Char :=
  if kind = first then filled kind else kind.text

theorem isPartial_afterPass {first : Marker} (isSealed : IsSealed (filled first)) :
    IsPartial (afterPass filled first) := by
  intro kind
  rw [afterPass]
  split
  · rename_i same
    exact .inr (same ▸ isSealed)
  · exact .inl rfl

/-- Two passes, one for each marker and in any order, replace all markers at once. -/
theorem passes_eq_write (first second : Marker) (different : first ≠ second)
    (parted : Parted body parts) (isSealed : IsSealed (filled first)) :
    substitute (literal second.text (filled second))
      (substitute (literal first.text (filled first)) body) = write filled parts := by
  have atFirst : afterPass filled first first = filled first := if_pos rfl
  have elsewhere (kind : Marker) (other : kind ≠ first) :
      afterPass filled first kind = kind.text :=
    if_neg other
  have passed : substitute (literal first.text (filled first)) body =
      write (afterPass filled first) parts := by
    rw [← atFirst, ← substitute_write parted (fun _ => .inl rfl) rfl elsewhere,
      parted.write_text]
  rw [passed]
  apply substitute_write parted (isPartial_afterPass isSealed) (elsewhere second different.symm)
  intro other otherwise
  rw [Marker.eq_of_ne different otherwise, atFirst]

end Fill

end Placeholder

namespace Template

open Text Placeholder

/-- The texts that configured names put in the place of the two markers. -/
def choices (motors counters : List String) : Marker → List Char
  | .motor => fill motors "motor".toList
  | .counter => fill counters "counter".toList

theorem isSealed_fill {names : List String} {word : List Char}
    (plain : ∀ name ∈ names, '%' ∉ name.toList) (plainWord : '%' ∉ word) :
    IsSealed (fill names word) := by
  cases names with
  | nil =>
    refine ⟨?_, ':', word, rfl, by rintro (_ | _) <;> decide⟩
    rw [fill, List.mem_cons, not_or]
    exact ⟨by decide, plainWord⟩
  | cons name rest =>
    refine ⟨?_, '|', _, rfl, by rintro (_ | _) <;> decide⟩
    intro member
    change '%' ∈ '|' :: ((",".intercalate (name :: rest)).toList ++ ['|']) at member
    rw [List.mem_cons, List.mem_append] at member
    rcases member with bar | inside | bar
    · exact absurd bar (by decide)
    · rcases mem_intercalate inside with comma | ⟨other, listed, percent⟩
      · exact absurd comma (by decide)
      · exact plain other listed percent
    · exact absurd bar (by decide)

/-- The names between the bars of a choice can be told apart. -/
theorem exists_fill_eq {names : List String} (word : List Char) (filled : names ≠ [])
    (plain : ∀ name ∈ names, ',' ∉ name.toList) :
    ∃ list, fill names word = '|' :: (list ++ ['|']) ∧
      splitAtMark ',' list = names.map String.toList := by
  obtain ⟨name, rest, rfl⟩ := List.exists_cons_of_ne_nil filled
  refine ⟨_, rfl, ?_⟩
  rw [String.toList_intercalate]
  apply splitAtMark_intercalate (by simp)
  intro part listed
  obtain ⟨other, member, rfl⟩ := List.mem_map.mp listed
  exact plain other member

section Names

variable {motors counters : List String} {body : List Char} {parts : List Part}

theorem not_mem_of_isMnemonicName {names : List String} {c : Char}
    (areNames : ∀ name ∈ names, IsMnemonicName name.toList) (other : isWordPart c = false) :
    ∀ name ∈ names, c ∉ name.toList := by
  intro name listed member
  rw [(areNames name listed).1.isWordPart c member] at other
  cases other

theorem areNames_of_words {names : List String}
    (words : ∀ name ∈ names,
      leadingWord? name.toList = some (name.toList, []) ∧ name.toList.length ≤ 7) :
    ∀ name ∈ names, IsMnemonicName name.toList := fun name listed =>
  ⟨isWord_of_leadingWord? (words name listed).1, (words name listed).2⟩

variable (motorNames : ∀ name ∈ motors, IsMnemonicName name.toList)
  (counterNames : ∀ name ∈ counters, IsMnemonicName name.toList)

include motorNames counterNames

theorem isSealed_choices (kind : Marker) : IsSealed (choices motors counters kind) := by
  cases kind with
  | motor => exact isSealed_fill (not_mem_of_isMnemonicName motorNames (by decide)) (by decide)
  | counter => exact isSealed_fill (not_mem_of_isMnemonicName counterNames (by decide)) (by decide)

theorem insertable_eq_write (parted : Parted body parts) :
    insertable motors counters body = write (choices motors counters) parts :=
  passes_eq_write .motor .counter (by decide) parted
    (isSealed_choices motorNames counterNames .motor)

theorem not_infix_insertable (kind : Marker) (body : List Char) :
    ¬kind.text <:+: insertable motors counters body := by
  obtain ⟨parts, parted⟩ := exists_parted body
  rw [insertable_eq_write motorNames counterNames parted]
  exact not_infix_write parted (isSealed_choices motorNames counterNames) kind

end Names

theorem insertable_of_unmarked {body : List Char} (motors counters : List String)
    (absent : ∀ kind : Marker, ¬kind.text <:+: body) : insertable motors counters body = body := by
  have motorAbsent : ¬motorMarker <:+: body := absent .motor
  have counterAbsent : ¬counterMarker <:+: body := absent .counter
  rw [insertable, fillMarkers, substitute_literal_of_absent _ motorAbsent,
    substitute_literal_of_absent _ counterAbsent]

/-- All markers of a body are filled at once, whichever pass comes first, and none is left. So
filling them again changes nothing, and in each choice stand the configured names in their order. -/
theorem insertable_fills_at_once {motors counters : List String}
    (motorNames : ∀ name ∈ motors, IsMnemonicName name.toList)
    (counterNames : ∀ name ∈ counters, IsMnemonicName name.toList) (body : List Char) :
    (∃ parts, IsMarked body parts ∧
      insertable motors counters body = write (choices motors counters) parts) ∧
    substitute (literal motorMarker (choices motors counters .motor))
      (substitute (literal counterMarker (choices motors counters .counter)) body) =
        insertable motors counters body ∧
    (∀ kind : Marker, ¬kind.text <:+: insertable motors counters body) ∧
    insertable motors counters (insertable motors counters body) =
      insertable motors counters body ∧
    (∀ names, choices [] names .motor = ":motor".toList ∧
      choices names [] .counter = ":counter".toList) ∧
    ∀ names ∈ [motors, counters], ∀ word, names ≠ [] →
      ∃ list, fill names word = '|' :: (list ++ ['|']) ∧
        splitAtMark ',' list = names.map String.toList := by
  obtain ⟨parts, parted⟩ := exists_parted body
  have written := insertable_eq_write motorNames counterNames parted
  have absent (kind : Marker) := not_infix_insertable motorNames counterNames kind body
  refine ⟨⟨parts, parted.isMarked, written⟩, ?_, absent,
    insertable_of_unmarked motors counters absent, fun _ => ⟨rfl, rfl⟩, ?_⟩
  · rw [written]
    exact passes_eq_write .counter .motor (by decide) parted
      (isSealed_choices motorNames counterNames .counter)
  · intro names listed word filled
    have areNames : ∀ name ∈ names, IsMnemonicName name.toList := by
      rcases List.mem_cons.mp listed with rfl | single
      · exact motorNames
      · exact List.mem_singleton.mp single ▸ counterNames
    exact exists_fill_eq word filled (not_mem_of_isMnemonicName areNames (by decide))

/-- A marker for a counter that a marker for a motor splits does not come together. -/
theorem insertable_of_split_marker :
    (∀ name ∈ ["th", "tth"], IsMnemonicName name.toList) ∧
      (∀ name ∈ ["mon"], IsMnemonicName name.toList) ∧
      ¬counterMarker <:+: insertable ["th", "tth"] ["mon"] "x %C%MOTNT $\x7b1%CNT\x7d".toList := by
  have motorNames : ∀ name ∈ ["th", "tth"], IsMnemonicName name.toList :=
    areNames_of_words (by decide)
  have counterNames : ∀ name ∈ ["mon"], IsMnemonicName name.toList :=
    areNames_of_words (by decide)
  exact ⟨motorNames, counterNames,
    (insertable_fills_at_once motorNames counterNames _).2.2.1 .counter⟩

end Template

end SpecLexicon
