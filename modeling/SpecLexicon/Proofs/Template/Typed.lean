import SpecLexicon.Proofs.Template.Forms
import SpecLexicon.Proofs.Template.Markers

/-!
# Typed placeholders

A typed placeholder is a numbered placeholder with nothing but a marker behind its number. It is
what the insertable body is to expand; labeled placeholders, choice placeholders and plain text are
to stay. They do stay where they hold no marker. But a marker is filled wherever it stands, so a
body has only its typed placeholders expanded exactly if it has no marker anywhere else.
-/

set_option autoImplicit false

namespace SpecLexicon

namespace Placeholder

open Text

/-!
## Typed placeholders and their expansion
-/

/-- What stands around the marker of a typed placeholder: the opening of a numbered placeholder ends
in front of it, and a brace closes behind it. -/
def IsTyped (front rest : List Char) : Prop :=
  ∃ before opening behind, IsNumbered opening ∧ front = before ++ opening ∧ rest = '}' :: behind

/-- A text with its typed placeholders expanded: each has a text in the place of its marker, and all
else is as it was. -/
inductive Expands (put : Marker → List Char) : List Char → List Char → Prop where
  | nil : Expands put [] []
  | typed {opening rest shown : List Char} (kind : Marker) :
      IsNumbered opening → Expands put rest shown →
      Expands put (opening ++ (kind.text ++ '}' :: rest)) (opening ++ (put kind ++ '}' :: shown))
  | char {c : Char} {rest shown : List Char} :
      (∀ opening (kind : Marker) behind, IsNumbered opening →
        c :: rest ≠ opening ++ (kind.text ++ '}' :: behind)) →
      Expands put rest shown → Expands put (c :: rest) (c :: shown)

theorem IsTyped.append {front rest : List Char} (before : List Char) (typed : IsTyped front rest) :
    IsTyped (before ++ front) rest := by
  obtain ⟨others, opening, behind, numbered, rfl, closed⟩ := typed
  exact ⟨before ++ others, opening, behind, numbered, (List.append_assoc ..).symm, closed⟩

/-- A closing brace ends a placeholder, so the opening of the next one lies behind it. -/
theorem IsTyped.of_append {before front rest : List Char}
    (typed : IsTyped (before ++ '}' :: front) rest) : IsTyped front rest := by
  obtain ⟨others, opening, behind, numbered, whole, closed⟩ := typed
  rcases List.append_eq_append_iff.mp whole with ⟨middle, rfl, start⟩ | ⟨middle, rfl, start⟩
  · cases middle with
    | nil =>
      obtain ⟨inner, rfl⟩ := numbered.exists_cons
      exact absurd (List.cons.inj start).1 (by decide)
    | cons c middle =>
      obtain ⟨rfl, rfl⟩ := List.cons.inj start
      exact ⟨middle, opening, behind, numbered, rfl, closed⟩
  · have member : '}' ∈ opening := by
      rw [start]
      exact List.mem_append_right middle List.mem_cons_self
    exact absurd member (numbered.not_mem (by decide) (by decide))

/-- A text that does not hold the first character of another one lies before it. -/
theorem exists_of_append_eq_append {c : Char} {plain front rest behind : List Char}
    (absent : c ∉ plain) (same : front ++ c :: rest = plain ++ behind) :
    ∃ middle, front = plain ++ middle ∧ middle ++ c :: rest = behind := by
  rcases List.append_eq_append_iff.mp same with ⟨middle, rfl, start⟩ | ⟨middle, rfl, start⟩
  · cases middle with
    | nil => exact ⟨[], by simp, start⟩
    | cons d middle =>
      obtain ⟨rfl, _⟩ := List.cons.inj start
      exact absurd (List.mem_append_right front List.mem_cons_self) absent
  · exact ⟨middle, rfl, start.symm⟩

/-!
## Markers outside of typed placeholders
-/

namespace Expands

variable {put : Marker → List Char} {text shown : List Char}

theorem exists_append {front rest : List Char} (plain : '$' ∉ front)
    (expands : Expands put (front ++ rest) shown) : ∃ others, shown = front ++ others := by
  induction front generalizing shown with
  | nil => exact ⟨shown, rfl⟩
  | cons c front ih =>
    rw [List.mem_cons, not_or] at plain
    rw [List.cons_append] at expands
    generalize whole : c :: (front ++ rest) = text at expands
    cases expands with
    | nil => cases whole
    | typed kind numbered _ =>
      obtain ⟨inner, rfl⟩ := numbered.exists_cons
      exact absurd (List.cons.inj whole).1.symm plain.1
    | char _ expands =>
      obtain ⟨rfl, rfl⟩ := List.cons.inj whole
      obtain ⟨others, rfl⟩ := ih plain.2 expands
      exact ⟨others, rfl⟩

/-- A marker that is in no typed placeholder stays in the text. -/
theorem isTyped_or_inside (expands : Expands put text shown) {kind : Marker}
    {front rest : List Char} (found : text = front ++ (kind.text ++ rest)) :
    IsTyped front rest ∨ kind.text <:+: shown := by
  induction expands generalizing front with
  | nil => simp [Marker.text] at found
  | @typed opening behind shown other numbered _ ih =>
    have occurrence : front ++ '%' :: (kind.letters ++ rest) =
        opening ++ (other.text ++ '}' :: behind) := found.symm
    obtain ⟨middle, rfl, inside⟩ := exists_of_append_eq_append
      (numbered.not_mem (by decide) (by decide)) occurrence
    cases middle with
    | nil =>
      have inside : kind.text ++ rest = other.text ++ '}' :: behind := inside
      obtain rfl : kind = other := Marker.eq_of_opens_text ⟨rest, inside⟩
      exact .inl ⟨[], opening, behind, numbered, List.append_nil _, List.append_cancel_left inside⟩
    | cons c middle =>
      have plain : '%' ∉ other.letters ++ ['}'] := by
        rw [List.mem_append, not_or]
        exact ⟨other.percent_not_mem_letters, by decide⟩
      have later : middle ++ '%' :: (kind.letters ++ rest) = other.letters ++ ['}'] ++ behind := by
        simpa using (List.cons.inj inside).2
      obtain ⟨last, rfl, behind_eq⟩ := exists_of_append_eq_append plain later
      refine (ih behind_eq.symm).imp (fun typed => ?_) fun inside => ?_
      · have whole := typed.append (opening ++ c :: (other.letters ++ ['}']))
        simpa using whole
      · exact inside.trans (((List.suffix_cons _ _).trans (List.suffix_append _ _)).trans
          (List.suffix_append _ _)).isInfix
  | @char c behind shown _ expands ih =>
    cases front with
    | nil =>
      rw [List.nil_append, Marker.text, List.cons_append] at found
      obtain ⟨rfl, rfl⟩ := List.cons.inj found
      obtain ⟨others, rfl⟩ := expands.exists_append (by cases kind <;> decide)
      exact .inr ⟨[], others, rfl⟩
    | cons d front =>
      obtain ⟨rfl, rfl⟩ := List.cons.inj found
      exact (ih rfl).imp (IsTyped.append [c]) List.infix_cons

end Expands

/-- Texts have their parts apart if the second one starts with a character of no marker. -/
theorem Parted.append {front rest : List Char} {c : Char} {parts others : List Part}
    (parted : Parted front parts) (behind : Parted (c :: rest) others)
    (plain : ∀ kind : Marker, c ∉ kind.text) :
    Parted (front ++ c :: rest) (parts ++ others) := by
  induction parted with
  | nil => exact behind
  | marker kind _ ih =>
    rw [List.append_assoc]
    exact .marker kind ih
  | char absent _ ih =>
    exact .char (fun kind starts => absent kind (prefix_of_prefix_append (plain kind) starts)) ih

end Placeholder

namespace Template

open Text Placeholder

section Names

variable {motors counters : List String}
  (motorNames : ∀ name ∈ motors, IsMnemonicName name.toList)
  (counterNames : ∀ name ∈ counters, IsMnemonicName name.toList)

include motorNames counterNames

theorem insertable_marker (kind : Marker) (rest : List Char) :
    insertable motors counters (kind.text ++ rest) =
      choices motors counters kind ++ insertable motors counters rest := by
  obtain ⟨parts, parted⟩ := exists_parted rest
  rw [insertable_eq_write motorNames counterNames parted,
    insertable_eq_write motorNames counterNames (.marker kind parted), write_marker]

theorem insertable_cons {c : Char} {rest : List Char}
    (plain : ∀ kind : Marker, ¬kind.text <+: c :: rest) :
    insertable motors counters (c :: rest) = c :: insertable motors counters rest := by
  obtain ⟨parts, parted⟩ := exists_parted rest
  rw [insertable_eq_write motorNames counterNames parted,
    insertable_eq_write motorNames counterNames (.char plain parted), write_char]

theorem insertable_append_of_plain {front : List Char} (rest : List Char) (plain : '%' ∉ front) :
    insertable motors counters (front ++ rest) = front ++ insertable motors counters rest := by
  induction front with
  | nil => rfl
  | cons c front ih =>
    rw [List.mem_cons, not_or] at plain
    rw [List.cons_append, insertable_cons motorNames counterNames fun kind =>
      Marker.not_opens_text (Ne.symm plain.1), ih plain.2, List.cons_append]

/-- A body that has markers in typed placeholders only has only these expanded. -/
theorem expands_insertable : ∀ body : List Char,
    (∀ (kind : Marker) front rest, body = front ++ (kind.text ++ rest) → IsTyped front rest) →
    Expands (choices motors counters) body (insertable motors counters body)
  | [], _ => by
    rw [insertable_of_unmarked motors counters fun kind => by simp [Marker.text]]
    exact .nil
  | c :: tail, typed => by
    by_cases starts : ∃ opening kind behind, IsNumbered opening ∧
        c :: tail = opening ++ (Marker.text kind ++ '}' :: behind)
    · obtain ⟨opening, kind, behind, numbered, whole⟩ := starts
      have shorter : behind.length < (c :: tail).length := by
        rw [whole]
        simp only [List.length_append, List.length_cons]
        omega
      have later := expands_insertable behind fun other front rest found => by
        have around := typed other (opening ++ (kind.text ++ '}' :: front)) rest
          (by rw [whole, found]; simp)
        rw [← List.append_assoc] at around
        exact around.of_append
      rw [whole, insertable_append_of_plain motorNames counterNames _
          (numbered.not_mem (by decide) (by decide)),
        insertable_marker motorNames counterNames,
        insertable_cons motorNames counterNames fun _ => Marker.not_opens_text (by decide)]
      exact .typed kind numbered later
    · have plain (kind : Marker) : ¬kind.text <+: c :: tail := by
        rintro ⟨rest, whole⟩
        obtain ⟨before, opening, _, numbered, empty, _⟩ := typed kind [] rest whole.symm
        obtain ⟨inner, rfl⟩ := numbered.exists_cons
        cases before <;> cases empty
      have later := expands_insertable tail fun kind front rest found => by
        obtain ⟨before, opening, behind, numbered, ends, closed⟩ :=
          typed kind (c :: front) rest (by rw [found]; rfl)
        cases before with
        | nil =>
          refine absurd ⟨opening, kind, behind, numbered, ?_⟩ starts
          rw [found, closed, ← List.cons_append, ends, List.nil_append]
        | cons d before => exact ⟨before, opening, behind, numbered, (List.cons.inj ends).2, closed⟩
      rw [insertable_cons motorNames counterNames plain]
      refine .char (fun opening kind behind numbered whole => ?_) later
      exact starts ⟨opening, kind, behind, numbered, whole⟩
  termination_by body => body.length
  decreasing_by
  · exact shorter
  · exact Nat.lt_succ_self _

theorem insertable_append {front : List Char} {c : Char} (rest : List Char)
    (plain : ∀ kind : Marker, c ∉ kind.text) :
    insertable motors counters (front ++ c :: rest) =
      insertable motors counters front ++ insertable motors counters (c :: rest) := by
  obtain ⟨parts, parted⟩ := exists_parted front
  obtain ⟨others, behind⟩ := exists_parted (c :: rest)
  rw [insertable_eq_write motorNames counterNames parted,
    insertable_eq_write motorNames counterNames behind,
    insertable_eq_write motorNames counterNames (parted.append behind plain), write_append]

/-- The text around a placeholder and the placeholder are filled apart. -/
theorem insertable_around {placeholder : List Char}
    (known : IsLabeled placeholder ∨ IsChoice placeholder) (front behind : List Char) :
    insertable motors counters (front ++ (placeholder ++ behind)) =
      insertable motors counters front ++
        (insertable motors counters placeholder ++ insertable motors counters behind) := by
  obtain ⟨inner, rfl⟩ := exists_of_isLabeled_or_isChoice known
  have brace (rest : List Char) : insertable motors counters ('}' :: rest) =
      '}' :: insertable motors counters rest :=
    insertable_cons motorNames counterNames fun _ => Marker.not_opens_text (by decide)
  have closing (rest : List Char) : insertable motors counters ('$' :: inner ++ '}' :: rest) =
      insertable motors counters ('$' :: inner) ++ '}' :: insertable motors counters rest := by
    rw [insertable_append motorNames counterNames rest (by rintro (_ | _) <;> decide), brace]
  have whole : '$' :: (inner ++ ['}']) ++ behind = '$' :: inner ++ '}' :: behind := by simp
  have alone : '$' :: (inner ++ ['}']) = '$' :: inner ++ '}' :: [] := rfl
  have none : insertable motors counters [] = [] :=
    insertable_of_unmarked motors counters fun kind => by simp [Marker.text]
  rw [whole, alone, closing [], none, List.cons_append,
    insertable_append motorNames counterNames _ (by rintro (_ | _) <;> decide),
    ← List.cons_append, closing behind]
  simp

end Names

/-- Only typed placeholders are expanded exactly if no marker stands outside of them. In every body
a labeled placeholder or a choice placeholder stays in its place, and it is as it was exactly if it
holds no marker. -/
theorem insertable_expands_typed {motors counters : List String}
    (motorNames : ∀ name ∈ motors, IsMnemonicName name.toList)
    (counterNames : ∀ name ∈ counters, IsMnemonicName name.toList) (body : List Char) :
    (Expands (choices motors counters) body (insertable motors counters body) ↔
      ∀ (kind : Marker) front rest, body = front ++ (kind.text ++ rest) → IsTyped front rest) ∧
    ∀ front placeholder behind, body = front ++ (placeholder ++ behind) →
      IsLabeled placeholder ∨ IsChoice placeholder →
        insertable motors counters body = insertable motors counters front ++
          (insertable motors counters placeholder ++ insertable motors counters behind) ∧
        (insertable motors counters placeholder = placeholder ↔
          ∀ kind : Marker, ¬kind.text <:+: placeholder) := by
  refine ⟨⟨?_, expands_insertable motorNames counterNames body⟩, ?_⟩
  · intro expands kind front rest found
    exact (expands.isTyped_or_inside found).resolve_right
      (not_infix_insertable motorNames counterNames kind body)
  · rintro front placeholder behind rfl known
    refine ⟨insertable_around motorNames counterNames known front behind, ?_,
      insertable_of_unmarked motors counters⟩
    intro same kind
    rw [← same]
    exact not_infix_insertable motorNames counterNames kind placeholder

/-- A label without a marker stays as it is between two typed placeholders. -/
theorem insertable_of_label_between :
    (∀ name ∈ ["th", "tth"], IsMnemonicName name.toList) ∧
      (∀ name ∈ ["mon"], IsMnemonicName name.toList) ∧
      IsLabeled "$\x7b2:100%\x7d".toList ∧
      insertable ["th", "tth"] ["mon"]
        "mv $\x7b1%MOT\x7d $\x7b2:100%\x7d $\x7b3%CNT\x7d".toList =
          insertable ["th", "tth"] ["mon"] "mv $\x7b1%MOT\x7d ".toList ++
            ("$\x7b2:100%\x7d".toList ++
              insertable ["th", "tth"] ["mon"] " $\x7b3%CNT\x7d".toList) := by
  have motorNames : ∀ name ∈ ["th", "tth"], IsMnemonicName name.toList :=
    areNames_of_words (by decide)
  have counterNames : ∀ name ∈ ["mon"], IsMnemonicName name.toList :=
    areNames_of_words (by decide)
  have numbered : IsNumbered ['$', '\x7b', '2'] :=
    .digits (List.cons_ne_nil _ _) (List.all_eq_true.mp (by decide))
  have label : IsLabeled (['$', '\x7b', '2'] ++ ':' :: (['1', '0', '0', '%'] ++ ['\x7d'])) :=
    .label numbered (List.cons_ne_nil _ _) (by simp [isBrace])
  have isLabeled : IsLabeled "$\x7b2:100%\x7d".toList := by simpa using label
  have plain (kind : Marker) : ¬kind.text <:+: "$\x7b2:100%\x7d".toList := by
    intro found
    have letter : 'T' ∈ kind.text := by cases kind <;> decide
    simpa using found.subset letter
  obtain ⟨_, around⟩ := insertable_expands_typed motorNames counterNames
    "mv $\x7b1%MOT\x7d $\x7b2:100%\x7d $\x7b3%CNT\x7d".toList
  obtain ⟨whole, same⟩ := around "mv $\x7b1%MOT\x7d ".toList "$\x7b2:100%\x7d".toList
    " $\x7b3%CNT\x7d".toList (by simp) (.inl isLabeled)
  rw [same.mpr plain] at whole
  exact ⟨motorNames, counterNames, isLabeled, whole⟩

/-- A labeled placeholder whose label has a marker does not appear in the insertable body. -/
theorem insertable_breaks_label :
    (∀ name ∈ ["th"], IsMnemonicName name.toList) ∧ IsLabeled "$\x7b1:%MOT\x7d".toList ∧
      ¬"$\x7b1:%MOT\x7d".toList <:+: insertable ["th"] [] "mv $\x7b1:%MOT\x7d".toList := by
  have motorNames : ∀ name ∈ ["th"], IsMnemonicName name.toList := areNames_of_words (by decide)
  have numbered : IsNumbered ['$', '\x7b', '1'] :=
    .digits (List.cons_ne_nil _ _) (List.all_eq_true.mp (by decide))
  have label : IsLabeled (['$', '\x7b', '1'] ++ ':' :: (['%', 'M', 'O', 'T'] ++ ['\x7d'])) :=
    .label numbered (List.cons_ne_nil _ _) (by simp [isBrace])
  have isLabeled : IsLabeled "$\x7b1:%MOT\x7d".toList := by simpa using label
  have marked : Marker.motor.text <:+: "$\x7b1:%MOT\x7d".toList :=
    ⟨['$', '\x7b', '1', ':'], ['\x7d'], by simp [motorMarker]⟩
  refine ⟨motorNames, isLabeled, fun unchanged => ?_⟩
  exact not_infix_insertable motorNames (fun _ member => absurd member List.not_mem_nil) .motor _
    (marked.trans unchanged)

end Template

end SpecLexicon
