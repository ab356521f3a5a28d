import SpecLexicon.Text.Substitution

/-!
# What a pass leaves

A pass changes nothing where no form starts, and brings in no character that neither the text nor
what is put in the place of a form has. If every form has more of some character than what is put in
its place, a pass that finds a form leaves less of that character.
-/

set_option autoImplicit false

namespace SpecLexicon.Text

/-- A pass keeps the start of a text at whose characters no form begins. -/
theorem substitute_append_of_none {form? : Recognizer} {front : List Char} (rest : List Char)
    (absent : ∀ c ∈ front, ∀ tail, form? (c :: tail) = none) :
    substitute form? (front ++ rest) = front ++ substitute form? rest := by
  induction front with
  | nil => rfl
  | cons c front ih =>
    rw [List.cons_append, substitute_cons_of_none (absent c List.mem_cons_self _),
      ih fun d member => absent d (List.mem_cons_of_mem c member), List.cons_append]

/-- Forms that start with two certain characters do not start in a text without the second one, nor
do they reach from its end into what stands behind it. -/
theorem substitute_append_of_closed {form? : Recognizer} {c d : Char} {front rest : List Char}
    (opens : ∀ text, form? text ≠ none → [c, d] <+: text) (closed : d ∉ front)
    (boundary : rest.head? ≠ some d) :
    substitute form? (front ++ rest) = front ++ substitute form? rest := by
  induction front with
  | nil => rfl
  | cons e front ih =>
    rw [List.mem_cons, not_or] at closed
    have absent : form? (e :: (front ++ rest)) = none := by
      apply Decidable.byContradiction
      intro found
      have second := (List.cons_prefix_cons.mp (opens _ found)).2
      cases front with
      | nil =>
        obtain ⟨tail, whole⟩ := second
        exact boundary (by rw [← List.nil_append rest, ← whole]; rfl)
      | cons f front => exact closed.2 ((List.cons_prefix_cons.mp second).1 ▸ List.mem_cons_self)
    rw [List.cons_append, substitute_cons_of_none absent, ih closed.2, List.cons_append]

theorem substitute_eq_self {form? : Recognizer} {text : List Char}
    (absent : ∀ rest, rest <:+ text → form? rest = none) : substitute form? text = text := by
  induction text with
  | nil => exact substitute_nil _
  | cons c tail ih =>
    rw [substitute_cons_of_none (absent _ List.suffix_rfl),
      ih fun rest suffix => absent rest (suffix.trans (List.suffix_cons c tail))]

theorem substitute_congr {form? other? : Recognizer} {text : List Char}
    (consumes : ∀ start shown rest, form? start = some (shown, rest) → rest <:+ start)
    (same : ∀ start, start <:+ text → form? start = other? start) :
    substitute form? text = substitute other? text := by
  fun_induction substitute form? text with
  | case1 => rw [substitute_nil]
  | case2 c tail shown rest found shorter ih =>
    have suffix := consumes _ _ _ found
    rw [ih fun start inside => same start (inside.trans suffix)]
    rw [same _ List.suffix_rfl] at found
    rw [substitute_cons_of_some found shorter]
  | case3 c tail shown rest found longer ih =>
    rw [ih fun start inside => same start (inside.trans (List.suffix_cons c tail))]
    rw [same _ List.suffix_rfl] at found
    rw [substitute, found]
    simp only [if_neg longer]
  | case4 c tail missing ih =>
    rw [ih fun start inside => same start (inside.trans (List.suffix_cons c tail))]
    rw [same _ List.suffix_rfl] at missing
    rw [substitute_cons_of_none missing]

/-!
## One literal form
-/

theorem literal_eq_none_iff {opening shown text : List Char} :
    literal opening shown text = none ↔ ¬opening <+: text := by
  rw [literal, Option.map_eq_none_iff, Option.eq_none_iff_forall_ne_some]
  constructor
  · rintro absent ⟨rest, whole⟩
    exact absent rest (stripOpening?_eq_some_iff.mpr whole.symm)
  · intro absent rest found
    exact absent ⟨rest, (stripOpening?_eq_some_iff.mp found).symm⟩

theorem substitute_literal_append {c : Char} (opening shown rest : List Char) :
    substitute (literal (c :: opening) shown) (c :: opening ++ rest) =
      shown ++ substitute (literal (c :: opening) shown) rest := by
  have found : literal (c :: opening) shown (c :: (opening ++ rest)) = some (shown, rest) := by
    rw [literal, stripOpening?_eq_some_iff.mpr (List.cons_append).symm, Option.map_some]
  exact substitute_cons_of_some found (by simp)

/-- A pass changes nothing in a text that does not hold its form. -/
theorem substitute_literal_of_absent {opening text : List Char} (shown : List Char)
    (absent : ¬opening <:+: text) : substitute (literal opening shown) text = text :=
  substitute_eq_self fun _ suffix => literal_eq_none_iff.mpr fun starts =>
    absent (starts.isInfix.trans suffix.isInfix)

/-!
## Characters
-/

/-- A form does not bring a character into a text that does not hold it. -/
def Recognizer.Avoids (form? : Recognizer) (c : Char) : Prop :=
  ∀ text shown rest, form? text = some (shown, rest) → c ∉ text → c ∉ shown ∧ c ∉ rest

theorem Recognizer.Avoids.substitute {form? : Recognizer} {c : Char} (avoids : form?.Avoids c)
    {text : List Char} (absent : c ∉ text) : c ∉ substitute form? text := by
  fun_induction Text.substitute form? text with
  | case1 => exact absent
  | case2 d tail shown rest found shorter ih =>
    obtain ⟨outside, behind⟩ := avoids _ _ _ found absent
    rw [List.mem_append, not_or]
    exact ⟨outside, ih behind⟩
  | case3 d tail shown rest found longer ih =>
    rw [List.mem_cons, not_or] at absent ⊢
    exact ⟨absent.1, ih absent.2⟩
  | case4 d tail missing ih =>
    rw [List.mem_cons, not_or] at absent ⊢
    exact ⟨absent.1, ih absent.2⟩

theorem avoids_literal {opening shown : List Char} {c : Char} (absent : c ∉ shown) :
    (literal opening shown).Avoids c := by
  intro text written rest found outside
  obtain ⟨behind, stripped, same⟩ := Option.map_eq_some_iff.mp found
  cases same
  rw [stripOpening?_eq_some_iff.mp stripped, List.mem_append, not_or] at outside
  exact ⟨absent, outside.2⟩

/-- A form does not take a character away from a text that holds it. -/
def Recognizer.Keeps (form? : Recognizer) (c : Char) : Prop :=
  ∀ text shown rest, form? text = some (shown, rest) → c ∈ text → c ∈ shown ∨ c ∈ rest

theorem Recognizer.Keeps.substitute {form? : Recognizer} {c : Char} (keeps : form?.Keeps c)
    {text : List Char} (member : c ∈ text) : c ∈ substitute form? text := by
  fun_induction Text.substitute form? text with
  | case1 => exact member
  | case2 d tail shown rest found shorter ih =>
    exact List.mem_append.mpr ((keeps _ _ _ found member).imp_right ih)
  | case3 d tail shown rest found longer ih =>
    exact List.mem_cons.mpr ((List.mem_cons.mp member).imp_right ih)
  | case4 d tail missing ih =>
    exact List.mem_cons.mpr ((List.mem_cons.mp member).imp_right ih)

theorem keeps_literal {opening shown : List Char} {c : Char} (absent : c ∉ opening) :
    (literal opening shown).Keeps c := by
  intro text written rest found member
  obtain ⟨behind, stripped, same⟩ := Option.map_eq_some_iff.mp found
  cases same
  rw [stripOpening?_eq_some_iff.mp stripped, List.mem_append] at member
  exact .inr (member.resolve_left absent)

/-- Every form has more of the character than what is put in its place. -/
def Recognizer.Loses (form? : Recognizer) (c : Char) : Prop :=
  ∀ text shown rest, form? text = some (shown, rest) →
    rest <:+ text ∧ shown.count c + rest.count c < text.count c

/-- Every form has more of the characters of a class than what is put in its place. -/
def Recognizer.Lightens (form? : Recognizer) (test : Char → Bool) : Prop :=
  ∀ text shown rest, form? text = some (shown, rest) →
    rest <:+ text ∧ shown.countP test + rest.countP test < text.countP test

/-- A pass does not add to the characters of the class, and takes some of them away if it finds a
form. -/
theorem Recognizer.Lightens.countP_substitute {form? : Recognizer} {test : Char → Bool}
    (lightens : form?.Lightens test) (text : List Char) :
    (substitute form? text).countP test ≤ text.countP test ∧
      ((∃ start, start <:+ text ∧ form? start ≠ none) →
        (substitute form? text).countP test < text.countP test) := by
  fun_induction substitute form? text with
  | case1 =>
    refine ⟨Nat.le_refl _, ?_⟩
    rintro ⟨start, suffix, found⟩
    obtain ⟨⟨shown, rest⟩, found⟩ := Option.ne_none_iff_exists'.mp found
    have fewer := (lightens start shown rest found).2
    rw [List.suffix_nil.mp suffix] at fewer
    exact absurd fewer (Nat.not_lt_zero _)
  | case2 d tail shown rest found shorter ih =>
    have fewer := (lightens _ shown rest found).2
    rw [List.countP_append]
    have behind := ih.1
    exact ⟨by omega, fun _ => by omega⟩
  | case3 d tail shown rest found longer ih =>
    obtain ⟨suffix, fewer⟩ := lightens _ shown rest found
    -- What stands behind a form in which something is lost is shorter than the text.
    have whole := suffix.eq_of_length_le (Nat.lt_of_not_le longer)
    rw [whole] at fewer
    omega
  | case4 d tail missing ih =>
    rw [List.countP_cons, List.countP_cons]
    refine ⟨Nat.add_le_add_right ih.1 _, ?_⟩
    rintro ⟨start, suffix, found⟩
    rcases List.suffix_cons_iff.mp suffix with rfl | later
    · exact absurd missing found
    · exact Nat.add_lt_add_right (ih.2 ⟨start, later, found⟩) _

/-- A pass does not add to the character, and takes some of it away if it finds a form. -/
theorem Recognizer.Loses.count_substitute {form? : Recognizer} {c : Char} (loses : form?.Loses c)
    (text : List Char) :
    (substitute form? text).count c ≤ text.count c ∧
      ((∃ start, start <:+ text ∧ form? start ≠ none) →
        (substitute form? text).count c < text.count c) := by
  have lightens : form?.Lightens (· == c) := loses
  exact lightens.countP_substitute text

/-!
## Shapes
-/

/-- A form is found exactly where a text of its shape stands. -/
def Recognizer.Finds (form? : Recognizer) (IsShape : List Char → Prop) : Prop :=
  ∀ text, form? text ≠ none ↔ ∃ form, IsShape form ∧ form <+: text

theorem finds_literal (opening shown : List Char) :
    (literal opening shown).Finds (· = opening) := by
  intro text
  rw [Ne, literal_eq_none_iff, Decidable.not_not]
  simp

theorem Recognizer.Finds.absent_iff {form? : Recognizer} {IsShape : List Char → Prop}
    (finds : form?.Finds IsShape) {text : List Char} :
    (∀ start, start <:+ text → form? start = none) ↔ ∀ form, IsShape form → ¬form <:+: text := by
  constructor
  · intro absent form shape inside
    obtain ⟨start, starts, suffix⟩ := List.infix_iff_prefix_suffix.mp inside
    exact (finds start).mpr ⟨form, shape, starts⟩ (absent start suffix)
  · intro absent start suffix
    apply Decidable.byContradiction
    intro found
    obtain ⟨form, shape, starts⟩ := (finds start).mp found
    exact absent form shape (List.infix_iff_prefix_suffix.mpr ⟨start, starts, suffix⟩)

end SpecLexicon.Text
