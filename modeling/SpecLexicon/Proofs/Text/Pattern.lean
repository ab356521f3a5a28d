import SpecLexicon.Text.Blank

/-!
# Patterns

A pattern describes the start of a text by runs of characters of a class, which follow one another.
A run takes as many characters as it can, or as few. So a pattern matches in several ways, and they
have an order of preference: a way that differs first in an earlier run is preferred by that run.
The first of all ways counts.
-/

set_option autoImplicit false

namespace SpecLexicon.Text

/-- How many characters a run takes if it may choose. -/
inductive Appetite where
  | most
  | least

/-- A pattern for the start of a text. The end of a text lies also before a final line feed. -/
inductive Pattern where
  | one (test : Char → Bool)
  | run (appetite : Appetite) (fewest : Nat) (test : Char → Bool)
  | sequence (first second : Pattern)
  | option (inner : Pattern)
  | group (number : Nat) (inner : Pattern)
  | finish

/-- A way to match: the text that is taken, the numbered parts of it, and the text that is left. -/
structure Match where
  taken : List Char
  groups : List (Nat × List Char)
  rest : List Char

namespace Match

def skip (rest : List Char) : Match := ⟨[], [], rest⟩

def split (length : Nat) (text : List Char) : Match := ⟨text.take length, [], text.drop length⟩

def followedBy (first second : Match) : Match :=
  ⟨first.taken ++ second.taken, first.groups ++ second.groups, second.rest⟩

def grouped (number : Nat) (found : Match) : Match :=
  { found with groups := (number, found.taken) :: found.groups }

def group? (number : Nat) (found : Match) : Option (List Char) :=
  found.groups.lookup number

end Match

namespace Pattern

/-- The lengths that a run may have, the preferred ones first. -/
def lengths (appetite : Appetite) (fewest most : Nat) : List Nat :=
  match appetite with
  | .least => List.range' fewest (most + 1 - fewest)
  | .most => (List.range' fewest (most + 1 - fewest)).reverse

/-- All ways in which a pattern matches at the start of a text, the preferred ones first. -/
def ways : Pattern → List Char → List Match
  | one _, [] => []
  | one test, c :: rest => if test c then [⟨[c], [], rest⟩] else []
  | run appetite fewest test, text =>
    (lengths appetite fewest (text.takeWhile test).length).map fun length =>
      Match.split length text
  | sequence first second, text =>
    (ways first text).flatMap fun found => (ways second found.rest).map found.followedBy
  | option inner, text => ways inner text ++ [Match.skip text]
  | group number inner, text => (ways inner text).map (Match.grouped number)
  | finish, text => if text = [] ∨ text = ['\n'] then [Match.skip text] else []

@[simp] theorem ways_one_nil (test : Char → Bool) : (one test).ways [] = [] := rfl

@[simp] theorem ways_one_cons (test : Char → Bool) (c : Char) (rest : List Char) :
    (one test).ways (c :: rest) = if test c then [⟨[c], [], rest⟩] else [] := rfl

@[simp] theorem ways_run (appetite : Appetite) (fewest : Nat) (test : Char → Bool)
    (text : List Char) : (run appetite fewest test).ways text =
      (lengths appetite fewest (text.takeWhile test).length).map fun length =>
        Match.split length text := rfl

@[simp] theorem ways_sequence (first second : Pattern) (text : List Char) :
    (sequence first second).ways text = (first.ways text).flatMap fun found =>
      (second.ways found.rest).map found.followedBy := rfl

@[simp] theorem ways_option (inner : Pattern) (text : List Char) :
    (option inner).ways text = inner.ways text ++ [Match.skip text] := rfl

@[simp] theorem ways_group (number : Nat) (inner : Pattern) (text : List Char) :
    (group number inner).ways text = (inner.ways text).map (Match.grouped number) := rfl

@[simp] theorem ways_finish (text : List Char) :
    finish.ways text = if text = [] ∨ text = ['\n'] then [Match.skip text] else [] := rfl

def first? (pattern : Pattern) (text : List Char) : Option Match :=
  (pattern.ways text).head?

/-!
## Going back

The ways of a sequence are tried in their order: where the rest of the pattern fails, the one before
it goes on with its next way.
-/

/-- The result of the first way from which it is possible to go on. -/
def firstResult? {α : Type} (pattern : Pattern) (text : List Char) (goOn : Match → Option α) :
    Option α :=
  (pattern.ways text).findSome? goOn

variable {α : Type} {text : List Char} {goOn : Match → Option α}

theorem first?_eq_firstResult? (pattern : Pattern) (text : List Char) :
    pattern.first? text = pattern.firstResult? text some := by
  rw [first?, firstResult?]
  cases pattern.ways text <;> rfl

private theorem findSome?_flatMap {β γ δ : Type} (f : β → List γ) (g : γ → Option δ)
    (items : List β) :
    (items.flatMap f).findSome? g = items.findSome? fun item => (f item).findSome? g := by
  induction items with
  | nil => rfl
  | cons item rest ih =>
    rw [List.flatMap_cons, List.findSome?_append, ih, List.findSome?_cons]
    cases (f item).findSome? g <;> rfl

@[simp] theorem firstResult?_sequence (first second : Pattern) :
    (sequence first second).firstResult? text goOn = first.firstResult? text fun found =>
      second.firstResult? found.rest fun next => goOn (found.followedBy next) := by
  simp only [firstResult?, ways_sequence, findSome?_flatMap, List.findSome?_map, Function.comp_def]

@[simp] theorem firstResult?_group (number : Nat) (inner : Pattern) :
    (group number inner).firstResult? text goOn = inner.firstResult? text fun found =>
      goOn (found.grouped number) := by
  simp only [firstResult?, ways_group, List.findSome?_map, Function.comp_def]

@[simp] theorem firstResult?_option (inner : Pattern) :
    (option inner).firstResult? text goOn =
      (inner.firstResult? text goOn).or (goOn (.skip text)) := by
  simp [firstResult?, List.findSome?_append]

theorem firstResult?_one_cons {test : Char → Bool} {c : Char} (passes : test c = true) :
    (one test).firstResult? (c :: text) goOn = goOn ⟨[c], [], text⟩ := by
  simp [firstResult?, passes]

theorem firstResult?_one_eq_none {test : Char → Bool}
    (stops : ∀ c ∈ text.head?, test c = false) : (one test).firstResult? text goOn = none := by
  cases text with
  | nil => rfl
  | cons c rest => simp [firstResult?, stops c rfl]

@[simp] theorem firstResult?_finish_nil : finish.firstResult? [] goOn = goOn (.skip []) := by
  simp [firstResult?]

/-!
## Runs
-/

section Run

variable {test : Char → Bool} {fewest : Nat} {result : α}

/-- A run fails if it is not possible to go on from any length. -/
theorem firstResult?_run_eq_none {appetite : Appetite}
    (fails : ∀ length, fewest ≤ length → length ≤ (text.takeWhile test).length →
      goOn (.split length text) = none) :
    (run appetite fewest test).firstResult? text goOn = none := by
  rw [firstResult?, ways_run, List.findSome?_map, List.findSome?_eq_none_iff]
  intro length member
  have bounds : fewest ≤ length ∧
      length < fewest + ((text.takeWhile test).length + 1 - fewest) := by
    cases appetite with
    | most => simpa [lengths] using member
    | least => simpa [lengths] using member
  exact fails length (by omega) (by omega)

/-- A greedy run takes the greatest length from which it is possible to go on. -/
theorem firstResult?_run_most (best : Nat) (enough : fewest ≤ best)
    (fits : best ≤ (text.takeWhile test).length)
    (fails : ∀ length, best < length → length ≤ (text.takeWhile test).length →
      goOn (.split length text) = none)
    (found : goOn (.split best text) = some result) :
    (run .most fewest test).firstResult? text goOn = some result := by
  rw [firstResult?, ways_run, List.findSome?_map, List.findSome?_eq_some_iff]
  refine ⟨(List.range' (best + 1) ((text.takeWhile test).length - best)).reverse, best,
    (List.range' fewest (best - fewest)).reverse, ?_, found, ?_⟩
  · have whole : List.range' fewest ((text.takeWhile test).length + 1 - fewest) =
        List.range' fewest (best - fewest) ++
          (best :: List.range' (best + 1) ((text.takeWhile test).length - best)) := by
      rw [← List.range'_succ, show (text.takeWhile test).length + 1 - fewest =
        (best - fewest) + ((text.takeWhile test).length - best + 1) by omega,
        ← List.range'_append_1, Nat.add_sub_cancel' enough]
    rw [lengths, whole]
    simp
  · intro length member
    rw [List.mem_reverse, List.mem_range'_1] at member
    exact fails length (by omega) (by omega)

theorem split_length_takeWhile (test : Char → Bool) (text : List Char) :
    Match.split (text.takeWhile test).length text =
      ⟨text.takeWhile test, [], text.dropWhile test⟩ := by
  rw [Match.split]
  congr 1
  · conv => lhs; arg 2; rw [← List.takeWhile_append_dropWhile (p := test) (l := text)]
    rw [List.take_left]
  · conv => lhs; arg 2; rw [← List.takeWhile_append_dropWhile (p := test) (l := text)]
    rw [List.drop_left]

/-- A greedy run goes on from its greatest length if that is the only one to go on from. -/
theorem firstResult?_run_most_longest (enough : fewest ≤ (text.takeWhile test).length)
    (fails : ∀ length, length < (text.takeWhile test).length →
      goOn (.split length text) = none) :
    (run .most fewest test).firstResult? text goOn =
      goOn ⟨text.takeWhile test, [], text.dropWhile test⟩ := by
  rw [← split_length_takeWhile]
  cases found : goOn (.split (text.takeWhile test).length text) with
  | some result => exact firstResult?_run_most _ enough (Nat.le_refl _) (by omega) found
  | none =>
    apply firstResult?_run_eq_none
    intro length _ fits
    rcases Nat.lt_or_eq_of_le fits with shorter | same
    · exact fails length shorter
    · exact same ▸ found

/-- A lazy run takes the least length from which it is possible to go on. -/
theorem firstResult?_run_least (best : Nat) (enough : fewest ≤ best)
    (fits : best ≤ (text.takeWhile test).length)
    (fails : ∀ length, fewest ≤ length → length < best → goOn (.split length text) = none)
    (found : goOn (.split best text) = some result) :
    (run .least fewest test).firstResult? text goOn = some result := by
  rw [firstResult?, ways_run, List.findSome?_map, List.findSome?_eq_some_iff]
  refine ⟨List.range' fewest (best - fewest), best,
    List.range' (best + 1) ((text.takeWhile test).length - best), ?_, found, ?_⟩
  · rw [lengths, ← List.range'_succ, show (text.takeWhile test).length + 1 - fewest =
      (best - fewest) + ((text.takeWhile test).length - best + 1) by omega,
      ← List.range'_append_1, Nat.add_sub_cancel' enough]
  · intro length member
    rw [List.mem_range'_1] at member
    exact fails length (by omega) (by omega)

/-- A run that needs a character fails where the text starts with none of its class. -/
theorem firstResult?_run_eq_none_of_head {appetite : Appetite} (needed : 1 ≤ fewest)
    (stops : ∀ c ∈ text.head?, test c = false) :
    (run appetite fewest test).firstResult? text goOn = none := by
  apply firstResult?_run_eq_none
  intro length enough fits
  have empty : text.takeWhile test = [] := by
    cases text with
    | nil => rfl
    | cons c rest => simp [stops c rfl]
  rw [empty, List.length_nil] at fits
  omega

end Run

/-!
## Bounded runs
-/

/-- As many characters of a class as there are, but no more than a bound. -/
def upTo (test : Char → Bool) : Nat → Pattern
  | 0 => .run .most 0 fun _ => false
  | bound + 1 => .option (.sequence (.one test) (upTo test bound))

section Bounded

variable {test : Char → Bool} {c : Char}

@[simp] theorem firstResult?_none (pattern : Pattern) :
    pattern.firstResult? text (fun _ => (none : Option α)) = none := by
  simp [firstResult?, List.findSome?_eq_none_iff]

theorem firstResult?_run_of_head (stops : ∀ c ∈ text.head?, test c = false) :
    (run .most 0 test).firstResult? text goOn = goOn (.skip text) := by
  cases text with
  | nil => simp [firstResult?, lengths, Match.split, Match.skip]
  | cons c rest => simp [firstResult?, lengths, Match.split, Match.skip, stops c rfl]

theorem lengths_most_succ (most : Nat) :
    lengths .most 0 (most + 1) = (lengths .most 0 most).map (· + 1) ++ [0] := by
  have shifted : List.range' (0 + 1) (most + 1) = (List.range' 0 (most + 1)).map (· + 1) := by
    rw [Nat.add_comm, ← List.map_add_range']
    exact List.map_congr_left fun length _ => Nat.add_comm 1 length
  rw [lengths, lengths, Nat.sub_zero, Nat.sub_zero, List.range'_succ, List.reverse_cons, shifted,
    List.map_reverse]

/-- A greedy run prefers to take a character. -/
theorem firstResult?_run_cons (passes : test c = true) :
    (run .most 0 test).firstResult? (c :: text) goOn =
      ((run .most 0 test).firstResult? text fun found =>
        goOn (Match.followedBy ⟨[c], [], text⟩ found)).or (goOn (.skip (c :: text))) := by
  have taken : ((c :: text).takeWhile test).length = (text.takeWhile test).length + 1 := by
    rw [List.takeWhile_cons_of_pos passes, List.length_cons]
  simp only [firstResult?, ways_run, taken, lengths_most_succ, List.map_append, List.map_map,
    List.findSome?_append, List.findSome?_map, List.map_cons, List.map_nil,
    List.findSome?_singleton]
  rfl

/-- A bounded run is a run that does not go on beyond the bound. -/
theorem firstResult?_upTo (bound : Nat) :
    (upTo test bound).firstResult? text goOn =
      (run .most 0 test).firstResult? text fun found =>
        if found.taken.length ≤ bound then goOn found else none := by
  induction bound generalizing text goOn with
  | zero =>
    rw [upTo, firstResult?_run_of_head fun _ _ => rfl]
    cases text with
    | nil => rw [firstResult?_run_of_head (by simp)]; rfl
    | cons c rest =>
      by_cases passes : test c = true
      · rw [firstResult?_run_cons passes]
        simp [Match.followedBy, Match.skip]
      · rw [firstResult?_run_of_head (by simpa using passes)]
        rfl
  | succ bound ih =>
    rw [upTo, firstResult?_option, firstResult?_sequence]
    cases text with
    | nil => rw [firstResult?_one_eq_none (by simp), firstResult?_run_of_head (by simp)]; rfl
    | cons c rest =>
      by_cases passes : test c = true
      · rw [firstResult?_one_cons passes, ih, firstResult?_run_cons passes]
        simp [Match.followedBy, Match.skip]
      · have stops : ∀ d ∈ (c :: rest).head?, test d = false := by simpa using passes
        rw [firstResult?_one_eq_none stops, firstResult?_run_of_head stops]
        rfl

end Bounded

end Pattern

end SpecLexicon.Text
