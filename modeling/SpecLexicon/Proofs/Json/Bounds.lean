import SpecLexicon.Proofs.Json.Grammar
import SpecLexicon.Proofs.Json.Reads

/-!
# What a dialect lets through

No dialect reads a whole number of more digits than it allows, and a strict one reads no half of a
surrogate pair. Both hold in every part of what is read.
-/

set_option autoImplicit false

namespace SpecLexicon.Json

variable {dialect : Dialect}

/-!
## Numbers
-/

theorem natAbs_toInt_lt {numeral : Numeral} {limit : Nat}
    (digits : ∀ c ∈ numeral.whole, c.isDigit = true) (short : numeral.whole.length ≤ limit) :
    numeral.toInt.natAbs < 10 ^ limit := by
  have small : digitsValue numeral.whole < 10 ^ limit :=
    Nat.lt_of_lt_of_le (digitsValue_lt_pow digits) (Nat.pow_le_pow_right (by decide) short)
  rw [Numeral.toInt]
  split
  · omega
  · omega

/-- Whatever a dialect reads keeps its bound on whole numbers, and has halves of surrogate pairs
only if the dialect has them. -/
abbrev Passes (dialect : Dialect) : Json → Prop :=
  Holds (·.natAbs < 10 ^ dialect.digits) True
    fun text => dialect.halfPairs = false → text.isText = true

theorem passes_readNumber {text rest : List Char} {value : Json}
    (read : readNumber dialect text = .ok (value, rest)) : Passes dialect value := by
  rw [readNumber] at read
  dsimp only at read
  split at read
  · cases read
  · split at read
    · cases read
    · rename_i short
      simp only [Except.ok.injEq, Prod.mk.injEq] at read
      rw [← read.1, ofNumeral]
      split
      · rename_i whole
        exact .integer (natAbs_toInt_lt
          (fun c member => List.all_eq_true.mp List.all_takeWhile c member)
          (Nat.not_lt.mp fun long => short ⟨long, .inl whole⟩))
      · exact .real trivial

theorem passes_readAtom {text rest : List Char} {value : Json}
    (read : readAtom dialect text = .ok (value, rest)) : Passes dialect value := by
  rw [readAtom] at read
  split at read
  · rename_i found named
    obtain ⟨entry, member, stripped⟩ := List.exists_of_findSome?_eq_some named
    obtain ⟨behind, _, rfl⟩ := Option.map_eq_some_iff.mp stripped
    simp only [Except.ok.injEq, Prod.mk.injEq] at read
    rw [← read.1]
    simp only [names, List.mem_cons, List.not_mem_nil, or_false] at member
    rcases member with rfl | rfl | rfl | rfl | rfl | rfl
    · exact .null
    · exact .bool _
    · exact .bool _
    · exact .real trivial
    · exact .real trivial
    · exact .real trivial
  · exact passes_readNumber read

/-!
## Texts
-/

section Strict

variable (strict : dialect.halfPairs = false)

include strict

theorem exists_char_of_readCodePoint? {text rest : List Char} {point : CodePoint}
    (read : readCodePoint? dialect text = some (point, rest)) : ∃ c, point = .char c := by
  rw [readCodePoint?] at read
  simp only [strict] at read
  split at read
  · cases read
  · split at read
    · split at read
      · split at read
        · split at read
          · cases read
            exact ⟨_, rfl⟩
          · cases read
        · cases read
      · cases read
    · split at read
      · cases read
      · cases read
        exact ⟨_, rfl⟩

theorem exists_char_of_readChar? {text rest : List Char} {point : CodePoint}
    (read : readChar? dialect text = some (point, rest)) : ∃ c, point = .char c := by
  cases text with
  | nil => cases read
  | cons first behind =>
    rw [readChar?] at read
    split at read
    · unfold readEscape? at read
      split at read
      case h_9 => exact exists_char_of_readCodePoint? strict read
      case h_10 => cases read
      all_goals
        cases read
        exact ⟨_, rfl⟩
    · split at read
      · cases read
      · cases read
        exact ⟨_, rfl⟩

theorem exists_chars_of_readString? {fuel : Nat} {text rest : List Char} {points : List CodePoint}
    (read : readString? dialect fuel text = some (points, rest)) :
    ∃ body : List Char, points = body.map .char := by
  induction fuel generalizing text rest points with
  | zero => cases read
  | succ fuel ih =>
    unfold readString? at read
    split at read
    · cases read
      exact ⟨[], rfl⟩
    · split at read
      · cases read
      · rename_i first
        split at read
        · cases read
        · rename_i others
          cases read
          obtain ⟨c, rfl⟩ := exists_char_of_readChar? strict first
          obtain ⟨body, rfl⟩ := ih others
          exact ⟨c :: body, rfl⟩

theorem isText_of_readQuoted {text rest : List Char} {found : LooseText}
    (read : readQuoted dialect text = .ok (found, rest)) : found.isText = true := by
  rw [readQuoted] at read
  split at read
  · rename_i points behind chars
    cases read
    obtain ⟨body, rfl⟩ := exists_chars_of_readString? strict chars
    rw [LooseText.ofPoints_map_char]
    rfl
  · cases read

end Strict

/-!
## Values
-/

/-- Whatever is read with some fuel passes. -/
structure ReadsPassing (dialect : Dialect) (fuel : Nat) : Prop where
  value : ∀ {depth : Nat} {text rest : List Char} {value : Json},
    readValue dialect fuel depth text = .ok (value, rest) → Passes dialect value
  items : ∀ {depth : Nat} {text rest : List Char} {items : List Json},
    readItems dialect fuel depth text = .ok (items, rest) → Passes dialect (.list items)
  fields : ∀ {depth : Nat} {text rest : List Char} {fields : List (LooseText × Json)},
    readFields dialect fuel depth text = .ok (fields, rest) → Passes dialect (.object fields)

theorem Passes.single {item : Json} (first : Passes dialect item) :
    Passes dialect (.list [item]) :=
  .list (List.forall_mem_singleton.mpr first)

theorem Passes.cons {item : Json} {items : List Json} (first : Passes dialect item)
    (others : Passes dialect (.list items)) : Passes dialect (.list (item :: items)) := by
  cases others with
  | list parts => exact .list (List.forall_mem_cons.mpr ⟨first, parts⟩)

section Fields

variable {text rest : List Char} {name : LooseText} {value : Json}

theorem Passes.singleField (quoted : readQuoted dialect text = .ok (name, rest))
    (first : Passes dialect value) : Passes dialect (.object [(name, value)]) :=
  .object (List.forall_mem_singleton.mpr fun strict => isText_of_readQuoted strict quoted)
    (List.forall_mem_singleton.mpr first)

theorem Passes.consField {fields : List (LooseText × Json)}
    (quoted : readQuoted dialect text = .ok (name, rest)) (first : Passes dialect value)
    (others : Passes dialect (.object fields)) :
    Passes dialect (.object ((name, value) :: fields)) := by
  cases others with
  | object keys parts =>
    refine .object (List.forall_mem_cons.mpr ⟨fun strict => ?_, keys⟩)
      (List.forall_mem_cons.mpr ⟨first, parts⟩)
    exact isText_of_readQuoted strict quoted

end Fields

section Steps

variable {fuel depth : Nat} {text rest : List Char} (passing : ReadsPassing dialect fuel)

include passing

theorem passes_readValue {value : Json}
    (read : readValue dialect (fuel + 1) depth text = .ok (value, rest)) :
    Passes dialect value := by
  cases readsValue_of_readValue read with
  | string quoted => exact .string fun strict => isText_of_readQuoted strict quoted
  | emptyList _ => exact .list fun _ member => absurd member List.not_mem_nil
  | list inner => exact passing.items inner
  | emptyObject _ =>
    exact .object (fun _ member => absurd member List.not_mem_nil)
      fun _ member => absurd member List.not_mem_nil
  | object inner => exact passing.fields inner
  | atom found => exact passes_readAtom found

theorem passes_readItems {items : List Json}
    (read : readItems dialect (fuel + 1) depth text = .ok (items, rest)) :
    Passes dialect (.list items) := by
  cases readsItems_of_readItems read with
  | last first _ => exact .single (passing.value first)
  | more first _ others => exact .cons (passing.value first) (passing.items others)

theorem passes_readFields {fields : List (LooseText × Json)}
    (read : readFields dialect (fuel + 1) depth text = .ok (fields, rest)) :
    Passes dialect (.object fields) := by
  cases readsFields_of_readFields read with
  | last quoted _ first _ => exact .singleField quoted (passing.value first)
  | more quoted _ first _ others =>
    exact .consField quoted (passing.value first) (passing.fields others)

end Steps

theorem readsPassing (dialect : Dialect) (fuel : Nat) : ReadsPassing dialect fuel := by
  induction fuel with
  | zero =>
    refine ⟨fun read => ?_, fun read => ?_, fun read => ?_⟩
    · cases read
    · cases read
    · cases read
  | succ fuel ih => exact ⟨passes_readValue ih, passes_readItems ih, passes_readFields ih⟩

theorem passes_readText {text : List Char} {value : Json}
    (read : readText dialect text = .ok value) : Passes dialect value := by
  rw [readText] at read
  split at read
  · cases read
  · rename_i found rest valueRead
    split at read
    · cases read
      exact (readsPassing dialect _).value valueRead
    · cases read

theorem Passes.isBounded {value : Json} (passes : Passes dialect value) :
    IsBounded dialect.digits value :=
  passes.mono (fun _ small => small) id fun _ _ => trivial

theorem Passes.isTextual {value : Json} (passes : Passes dialect value)
    (strict : dialect.halfPairs = false) : IsTextual value :=
  passes.mono (fun _ _ => trivial) id fun _ admitted => admitted strict

end SpecLexicon.Json
