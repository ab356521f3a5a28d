import SpecLexicon.Proofs.OrderedMap
import SpecLexicon.Proofs.Text.Span
import SpecLexicon.Proofs.Text.Substitution
import SpecLexicon.Settings.EnvironmentFile

/-!
# References in a file

What a reference in braces looks like, and what is left of a text whose references name no variable:
each of them is lost with its dollar sign. A text without references stays as it is.
-/

set_option autoImplicit false

namespace SpecLexicon.EnvironmentFile

open Text

/-- The text of a reference: its name, and what stands for a variable that there is not. -/
inductive IsReference : List Char → List Char → Option (List Char) → Prop where
  | bare {name : List Char} :
      '\x7d' ∉ name → ':' ∉ name → IsReference ('$' :: '\x7b' :: (name ++ ['\x7d'])) name none
  | orElse {name absent : List Char} :
      '\x7d' ∉ name → ':' ∉ name → '\x7d' ∉ absent →
      IsReference ('$' :: '\x7b' :: (name ++ ':' :: '-' :: (absent ++ ['\x7d']))) name (some absent)

/-- A reference to a variable stands in the text. -/
def Refers (text name : List Char) : Prop :=
  ∃ front form absent behind, IsReference form name absent ∧ text = front ++ (form ++ behind)

section Spans

variable {name absent rest : List Char} (closed : '\x7d' ∉ name) (marked : ':' ∉ name)

include closed marked

/-- The name of a reference ends at the first brace or colon. -/
theorem span_name {mark : Char} (ends : mark = '\x7d' ∨ mark = ':') :
    ((name ++ mark :: rest).takeWhile fun c => c != '\x7d' && c != ':') = name ∧
      ((name ++ mark :: rest).dropWhile fun c => c != '\x7d' && c != ':') = mark :: rest := by
  have inside : ∀ c ∈ name, (c != '\x7d' && c != ':') = true := by
    intro c member
    simp [ne_of_mem_of_not_mem member closed, ne_of_mem_of_not_mem member marked]
  have boundary : ∀ c ∈ (mark :: rest).head?, (c != '\x7d' && c != ':') = false := by
    rintro c ⟨⟩
    rcases ends with rfl | rfl <;> rfl
  exact ⟨takeWhile_span inside boundary, dropWhile_span inside boundary⟩

end Spans

theorem span_closed {text rest : List Char} (closed : '\x7d' ∉ text) :
    (text ++ '\x7d' :: rest).takeWhile (· != '\x7d') = text ∧
      (text ++ '\x7d' :: rest).dropWhile (· != '\x7d') = '\x7d' :: rest := by
  have inside : ∀ c ∈ text, (c != '\x7d') = true := by
    intro c member
    simp [ne_of_mem_of_not_mem member closed]
  have boundary : ∀ c ∈ ('\x7d' :: rest).head?, (c != '\x7d') = false := by
    rintro c ⟨⟩
    rfl
  exact ⟨takeWhile_span inside boundary, dropWhile_span inside boundary⟩

section Reference

variable {value : List Char → Option (List Char) → List Char} {text shown rest : List Char}

theorem IsReference.reference_append {form name : List Char} {absent : Option (List Char)}
    (isReference : IsReference form name absent) (rest : List Char) :
    reference value (form ++ rest) = some (value name absent, rest) := by
  cases isReference with
  | bare closed marked =>
    have whole : stripOpening? ['$', '\x7b'] ('$' :: '\x7b' :: (name ++ ['\x7d']) ++ rest) =
        some (name ++ '\x7d' :: rest) :=
      stripOpening?_eq_some_iff.mpr (by simp)
    obtain ⟨taken, dropped⟩ := @span_name name rest closed marked '\x7d' (.inl rfl)
    rw [reference, whole]
    simp only [taken, dropped]
  | @orElse _ shown closed marked unclosed =>
    have whole : stripOpening? ['$', '\x7b']
        ('$' :: '\x7b' :: (name ++ ':' :: '-' :: (shown ++ ['\x7d'])) ++ rest) =
        some (name ++ ':' :: '-' :: (shown ++ '\x7d' :: rest)) :=
      stripOpening?_eq_some_iff.mpr (by simp)
    obtain ⟨taken, dropped⟩ :=
      @span_name name ('-' :: (shown ++ '\x7d' :: rest)) closed marked ':' (.inr rfl)
    obtain ⟨shownTaken, shownDropped⟩ := @span_closed shown rest unclosed
    rw [reference, whole]
    simp only [taken, dropped, shownTaken, shownDropped]

theorem exists_of_reference (found : reference value text = some (shown, rest)) :
    ∃ form name absent, IsReference form name absent ∧ text = form ++ rest ∧
      shown = value name absent := by
  unfold reference at found
  split at found
  · cases found
  · rename_i inner opened
    rw [stripOpening?_eq_some_iff] at opened
    have whole := @List.takeWhile_append_dropWhile _ (fun c => c != '\x7d' && c != ':') inner
    have plain : ∀ c ∈ inner.takeWhile fun c => c != '\x7d' && c != ':',
        (c != '\x7d' && c != ':') = true :=
      forall_mem_takeWhile _ inner
    dsimp only at found
    generalize (inner.takeWhile fun c => c != '\x7d' && c != ':') = name at found whole plain
    have closed : '\x7d' ∉ name := fun member => absurd (plain _ member) (by decide)
    have marked : ':' ∉ name := fun member => absurd (plain _ member) (by decide)
    split at found
    · rename_i behind dropped
      cases found
      refine ⟨_, name, none, .bare closed marked, ?_, rfl⟩
      rw [opened, ← whole, dropped]
      simp
    · rename_i behind dropped
      have inside := @List.takeWhile_append_dropWhile _ (· != '\x7d') behind
      have unclosed : '\x7d' ∉ behind.takeWhile (· != '\x7d') := fun member =>
        absurd (forall_mem_takeWhile _ behind _ member) (by decide)
      have boundary := head?_dropWhile_eq_false (· != '\x7d') behind
      generalize behind.takeWhile (· != '\x7d') = absent at found inside unclosed
      split at found
      · rename_i closing last ends
        rw [ends] at inside boundary
        obtain rfl : closing = '\x7d' := by simpa using boundary closing rfl
        cases found
        refine ⟨_, name, some absent, .orElse closed marked unclosed, ?_, rfl⟩
        rw [opened, ← whole, dropped, ← inside]
        simp
      · cases found
    · cases found

theorem IsReference.refers {form name : List Char} {absent : Option (List Char)}
    (isReference : IsReference form name absent) {start : List Char} (suffix : start <:+ text)
    (starts : start = form ++ rest) : Refers text name := by
  obtain ⟨front, rfl⟩ := suffix
  exact ⟨front, form, absent, rest, isReference, by rw [starts]⟩

/-- A reference is replaced and the pass goes on behind it. -/
theorem IsReference.substitute_append {form name : List Char} {absent : Option (List Char)}
    (isReference : IsReference form name absent) (rest : List Char) :
    substitute (reference value) (form ++ rest) =
      value name absent ++ substitute (reference value) rest := by
  have found := @IsReference.reference_append value _ _ _ isReference rest
  cases isReference <;>
    exact substitute_cons_of_some found (List.suffix_append _ rest).length_le

/-- A pass over a text without references changes nothing. -/
theorem substitute_reference_eq_self (plain : ∀ name, ¬Refers text name) :
    substitute (reference value) text = text := by
  refine substitute_eq_self fun start suffix => ?_
  cases found : reference value start with
  | none => rfl
  | some result =>
    obtain ⟨form, name, absent, isReference, starts, -⟩ := exists_of_reference found
    exact absurd (isReference.refers suffix starts) (plain name)

end Reference

/-!
## References to no variable
-/

/-- What a reference gives if there is no such variable. -/
def absentValue (_ : List Char) (absent : Option (List Char)) : List Char :=
  absent.getD []

/-- Whether a reference stands in a text is seen where it starts. -/
theorem exists_refers_iff {text : List Char} : (∃ name, Refers text name) ↔
    ∃ start ≤ text.length, (reference absentValue (text.drop start)).isSome = true := by
  constructor
  · rintro ⟨name, front, form, absent, behind, isReference, rfl⟩
    refine ⟨front.length, by simp, ?_⟩
    rw [List.drop_left, isReference.reference_append]
    rfl
  · rintro ⟨start, _, found⟩
    obtain ⟨⟨shown, rest⟩, found⟩ := Option.isSome_iff_exists.mp found
    obtain ⟨form, name, absent, isReference, starts, -⟩ := exists_of_reference found
    exact ⟨name, isReference.refers (List.drop_suffix start text) starts⟩

instance (text : List Char) : Decidable (∃ name, Refers text name) :=
  decidable_of_iff _ exists_refers_iff.symm

theorem suffix_of_reference {value : List Char → Option (List Char) → List Char}
    {text shown rest : List Char} (found : reference value text = some (shown, rest)) :
    rest <:+ text := by
  obtain ⟨form, _, _, _, rfl, _⟩ := exists_of_reference found
  exact List.suffix_append form rest

theorem IsReference.sublist {form name : List Char} {absent : Option (List Char)}
    (isReference : IsReference form name absent) :
    ∃ others, form = '$' :: others ∧ (absentValue name absent).Sublist others := by
  cases isReference with
  | bare => exact ⟨_, rfl, List.nil_sublist _⟩
  | @orElse _ shown =>
    refine ⟨_, rfl, ?_⟩
    have inside : shown <:+: '\x7b' :: (name ++ ':' :: '-' :: (shown ++ ['\x7d'])) :=
      ⟨'\x7b' :: (name ++ [':', '-']), ['\x7d'], by simp⟩
    exact inside.sublist

theorem loses_reference : (reference absentValue).Loses '$' := by
  intro text shown rest found
  obtain ⟨form, name, absent, isReference, rfl, rfl⟩ := exists_of_reference found
  obtain ⟨others, rfl, inside⟩ := isReference.sublist
  refine ⟨List.suffix_append _ rest, ?_⟩
  have fewer := inside.count_le '$'
  rw [List.count_append, List.count_cons_self]
  omega

theorem avoids_reference (c : Char) : (reference absentValue).Avoids c := by
  intro text shown rest found outside
  obtain ⟨form, name, absent, isReference, rfl, rfl⟩ := exists_of_reference found
  obtain ⟨others, rfl, inside⟩ := isReference.sublist
  rw [List.mem_append, not_or] at outside
  exact ⟨fun member => outside.1 (List.mem_cons_of_mem _ (inside.subset member)), outside.2⟩

section Unknown

variable {environment : List (String × String)} {known : Variables} {text : List Char}
  (unknown : ∀ name, Refers text name →
    known.get? (String.ofList name) = none ∧ String.ofList name ∉ environment.map Prod.fst)

include unknown

theorem substitute_resolve_eq :
    substitute (reference (resolve environment known)) text =
      substitute (reference absentValue) text := by
  refine substitute_congr (fun _ _ _ => suffix_of_reference) fun start suffix => ?_
  have same {name : List Char} (absent : Option (List Char)) (refers : Refers text name) :
      resolve environment known name absent = absentValue name absent := by
    obtain ⟨unbound, unset⟩ := unknown name refers
    have missing : (OrderedMap.ofList environment).get? (String.ofList name) = none := by
      rw [OrderedMap.get?_ofList, OrderedMap.lookup_eq_none_iff, List.map_reverse,
        List.mem_reverse]
      exact unset
    simp only [resolve, unbound, missing, absentValue]
  by_cases found : ∃ form name absent rest, IsReference form name absent ∧ start = form ++ rest
  · obtain ⟨form, name, absent, rest, isReference, rfl⟩ := found
    rw [isReference.reference_append, isReference.reference_append,
      same absent (isReference.refers suffix rfl)]
  · have none_found (value : List Char → Option (List Char) → List Char) :
        reference value start = none := by
      rw [Option.eq_none_iff_forall_ne_some]
      rintro ⟨shown, rest⟩ read
      obtain ⟨form, name, absent, isReference, starts, -⟩ := exists_of_reference read
      exact found ⟨form, name, absent, rest, isReference, starts⟩
    rw [none_found, none_found]

/-- A reference to no variable is lost with its dollar sign. -/
theorem count_substitute_resolve (refers : ∃ name, Refers text name) :
    (substitute (reference (resolve environment known)) text).count '$' < text.count '$' := by
  rw [substitute_resolve_eq unknown]
  obtain ⟨name, front, form, absent, behind, isReference, rfl⟩ := refers
  refine (loses_reference.count_substitute _).2 ⟨form ++ behind, List.suffix_append _ _, ?_⟩
  rw [isReference.reference_append]
  exact Option.some_ne_none _

theorem not_mem_substitute_resolve {c : Char} (outside : c ∉ text) :
    c ∉ substitute (reference (resolve environment known)) text := by
  rw [substitute_resolve_eq unknown]
  exact (avoids_reference c).substitute outside

end Unknown

end SpecLexicon.EnvironmentFile
