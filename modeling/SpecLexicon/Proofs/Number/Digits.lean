import SpecLexicon.Number.Numeral

/-!
# The value of digits

Digits stand for less than the power of ten of their number, and for no less than the next lower
power unless the first of them is a zero. So the digits of a number without needless zeros are as
many as its size demands.
-/

set_option autoImplicit false

namespace SpecLexicon

variable {digits : List Char}

theorem digitsValue_eq_ofDigitChars (digits : List Char) :
    digitsValue digits = Nat.ofDigitChars 10 digits 0 :=
  Nat.ofDigitChars_eq_foldl.symm

theorem digitsValue_toDigits (value : Nat) : digitsValue (Nat.toDigits 10 value) = value := by
  rw [digitsValue_eq_ofDigitChars, Nat.ofDigitChars_ten_toDigits]

theorem digitsValue_cons (first : Char) (rest : List Char) :
    digitsValue (first :: rest) =
      10 ^ rest.length * (first.toNat - '0'.toNat) + digitsValue rest := by
  rw [digitsValue_eq_ofDigitChars, digitsValue_eq_ofDigitChars, Nat.ofDigitChars_cons,
    Nat.ofDigitChars_eq_ofDigitChars_zero, Nat.mul_zero, Nat.zero_add]

theorem toNat_of_isDigit {c : Char} (digit : c.isDigit = true) : 48 ≤ c.toNat ∧ c.toNat ≤ 57 := by
  simp only [Char.isDigit, Bool.and_eq_true, decide_eq_true_eq] at digit
  exact ⟨UInt32.le_iff_toNat_le.mp digit.1, UInt32.le_iff_toNat_le.mp digit.2⟩

theorem digitsValue_lt_pow (inside : ∀ c ∈ digits, c.isDigit = true) :
    digitsValue digits < 10 ^ digits.length := by
  induction digits with
  | nil => exact Nat.one_pos
  | cons first rest ih =>
    have others := ih fun c member => inside c (List.mem_cons_of_mem first member)
    have size := toNat_of_isDigit (inside first List.mem_cons_self)
    have first_le : first.toNat - '0'.toNat ≤ 9 := Nat.sub_le_of_le_add size.2
    calc
      digitsValue (first :: rest)
        = 10 ^ rest.length * (first.toNat - '0'.toNat) + digitsValue rest :=
          digitsValue_cons first rest
      _ < 10 ^ rest.length * 9 + 10 ^ rest.length :=
          Nat.add_lt_add_of_le_of_lt (Nat.mul_le_mul_left _ first_le) others
      _ = 10 ^ (first :: rest).length := by rw [List.length_cons, Nat.pow_succ]; omega

theorem pow_le_digitsValue {first : Char} (rest : List Char) (digit : first.isDigit = true)
    (nonzero : first ≠ '0') : 10 ^ rest.length ≤ digitsValue (first :: rest) := by
  have size := toNat_of_isDigit digit
  have different : first.toNat ≠ 48 := fun same => nonzero (Char.toNat_inj.mp same)
  have one_le : 1 ≤ first.toNat - '0'.toNat := Nat.le_sub_of_add_le (by
    have : '0'.toNat = 48 := rfl
    omega)
  rw [digitsValue_cons]
  exact Nat.le_add_right_of_le (Nat.le_mul_of_pos_right _ one_le)

structure IsDigits (digits : List Char) : Prop where
  inside : ∀ c ∈ digits, c.isDigit = true
  ne_nil : digits ≠ []

/-- The digits of a whole number without needless zeros. -/
structure IsWhole (digits : List Char) : Prop extends IsDigits digits where
  short : digits.head? = some '0' → digits = ['0']

/-- So many digits are enough for a number exactly if it is below that power of ten. -/
theorem IsWhole.digitsValue_lt_pow_iff (whole : IsWhole digits) {limit : Nat}
    (positive : 0 < limit) : digitsValue digits < 10 ^ limit ↔ digits.length ≤ limit := by
  constructor
  · intro small
    obtain ⟨first, rest, rfl⟩ := List.exists_cons_of_ne_nil whole.ne_nil
    by_cases zero : first = '0'
    · have single := whole.short (congrArg some zero)
      rw [single]
      exact positive
    · have large := pow_le_digitsValue rest (whole.inside first List.mem_cons_self) zero
      exact (Nat.pow_lt_pow_iff_right (by decide)).mp (Nat.lt_of_le_of_lt large small)
  · intro short
    exact Nat.lt_of_lt_of_le (digitsValue_lt_pow whole.inside)
      (Nat.pow_le_pow_right (by decide) short)

theorem isWhole_toDigits (value : Nat) : IsWhole (Nat.toDigits 10 value) := by
  have inside : ∀ c ∈ Nat.toDigits 10 value, c.isDigit = true := fun c member =>
    Nat.isDigit_of_mem_toDigits (by decide) (by decide) member
  refine ⟨⟨inside, Nat.toDigits_ne_nil⟩, ?_⟩
  intro zero
  obtain ⟨rest, written⟩ := List.head?_eq_some_iff.mp zero
  rw [written] at inside ⊢
  have small : value < 10 ^ rest.length := by
    rw [← digitsValue_toDigits value, written, digitsValue_cons, Nat.sub_self, Nat.mul_zero,
      Nat.zero_add]
    exact digitsValue_lt_pow fun c member => inside c (List.mem_cons_of_mem _ member)
  cases rest with
  | nil => rfl
  | cons second others =>
    have shorter := (Nat.length_toDigits_le_iff (by decide) (Nat.succ_pos _)).mpr small
    rw [written] at shorter
    exact absurd shorter (Nat.not_succ_le_self _)

end SpecLexicon
