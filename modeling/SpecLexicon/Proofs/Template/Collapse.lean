import SpecLexicon.Proofs.Template.Nesting
import SpecLexicon.Proofs.Template.Plain

/-!
# Collapsed texts

A text is collapsed if nothing stands in it that a pass of the signature looks for. The passes leave
exactly the collapsed texts as they are. Every form has a percent sign or an opening brace that is
not in what replaces it, so the passes make any other text lighter, and repeated often enough they
end at a collapsed one. Once is enough for flat templates, but not for a placeholder in a label.
-/

set_option autoImplicit false

namespace SpecLexicon.Template

open Text Placeholder

/-- The forms that the passes of the signature look for. -/
def IsForm (form : List Char) : Prop :=
  (∃ kind : Marker, form = kind.text) ∨ IsLabeled form ∨ IsChoice form

def IsCollapsed (text : List Char) : Prop :=
  ∀ form, IsForm form → ¬form <:+: text

/-- The characters of which a form has more than what replaces it. -/
def isHeavy (c : Char) : Bool :=
  c == '%' || c == '{'

def weight (text : List Char) : Nat :=
  text.countP isHeavy

/-- The passes of the signature, all of them a number of times. -/
def rounds : Nat → List Char → List Char
  | 0, text => text
  | count + 1, text => rounds count (signature text)

theorem weight_append (front rest : List Char) :
    weight (front ++ rest) = weight front + weight rest :=
  List.countP_append

theorem weight_pos_of_mem {c : Char} {text : List Char} (heavy : isHeavy c = true)
    (member : c ∈ text) : 0 < weight text :=
  List.countP_pos_iff.mpr ⟨c, member, heavy⟩

theorem exists_heavy_of_isForm {form : List Char} (isForm : IsForm form) :
    ∃ c ∈ form, isHeavy c = true := by
  have brace {opening : List Char} (numbered : IsNumbered opening) (rest : List Char) :
      '{' ∈ opening ++ rest :=
    (numbered.opens rest).subset (List.mem_cons_of_mem _ List.mem_cons_self)
  rcases isForm with ⟨kind, rfl⟩ | ⟨numbered, _, _⟩ | ⟨numbered, _, _⟩
  · exact ⟨'%', List.mem_cons_self, rfl⟩
  · exact ⟨'{', brace numbered _, rfl⟩
  · exact ⟨'{', brace numbered _, rfl⟩

/-- A text without percent signs and opening braces is collapsed. -/
theorem isCollapsed_of_light {text : List Char} (light : ∀ c ∈ text, isHeavy c = false) :
    IsCollapsed text := by
  intro form isForm inside
  obtain ⟨c, member, heavy⟩ := exists_heavy_of_isForm isForm
  rw [light c (inside.subset member)] at heavy
  cases heavy

/-!
## Passes that make a text lighter
-/

/-- A pass changes nothing in a text that holds none of its forms, and makes any other text
lighter. -/
structure Reduces (IsShape : List Char → Prop) (pass : List Char → List Char) : Prop where
  keeps : ∀ text, (∀ form, IsShape form → ¬form <:+: text) → pass text = text
  lightens : ∀ text, (∀ form, IsShape form → ¬form <:+: text) ∨ weight (pass text) < weight text

namespace Reduces

variable {IsShape : List Char → Prop} {pass : List Char → List Char}

theorem weight_le (reduces : Reduces IsShape pass) (text : List Char) :
    weight (pass text) ≤ weight text := by
  rcases reduces.lightens text with absent | lighter
  · exact Nat.le_of_eq (congrArg weight (reduces.keeps text absent))
  · exact Nat.le_of_lt lighter

theorem eq_self_iff (reduces : Reduces IsShape pass) (text : List Char) :
    pass text = text ↔ ∀ form, IsShape form → ¬form <:+: text := by
  refine ⟨fun same => ?_, reduces.keeps text⟩
  rcases reduces.lightens text with absent | lighter
  · exact absent
  · exact absurd (congrArg weight same) (Nat.ne_of_lt lighter)

theorem substitute {form? : Recognizer} (finds : form?.Finds IsShape)
    (lightens : form?.Lightens isHeavy) : Reduces IsShape (substitute form?) where
  keeps _ absent := substitute_eq_self (finds.absent_iff.mpr absent)
  lightens text := by
    by_cases found : ∃ start, start <:+ text ∧ form? start ≠ none
    · exact .inr ((lightens.countP_substitute text).2 found)
    · refine .inl (finds.absent_iff.mp fun start suffix => ?_)
      exact Decidable.byContradiction fun starts => found ⟨start, suffix, starts⟩

/-- Two passes look for the forms of both. -/
theorem comp {IsOther : List Char → Prop} {next : List Char → List Char}
    (reduces : Reduces IsShape pass) (others : Reduces IsOther next) :
    Reduces (fun form => IsShape form ∨ IsOther form) (next ∘ pass) where
  keeps text absent := by
    have first := reduces.keeps text fun form shape => absent form (.inl shape)
    have second := others.keeps text fun form shape => absent form (.inr shape)
    rw [Function.comp_apply, first, second]
  lightens text := by
    rw [Function.comp_apply]
    -- The second pass sees the text itself if the first one found nothing, else a lighter one.
    rcases reduces.lightens text with absent | lighter
    · rw [reduces.keeps text absent]
      exact (others.lightens text).imp_left fun missing form => Or.rec (absent form) (missing form)
    · exact .inr (Nat.lt_of_le_of_lt (others.weight_le _) lighter)

end Reduces

/-!
## The passes of the signature
-/

theorem weight_opening_pos {opening : List Char} (numbered : IsNumbered opening) :
    0 < weight opening := by
  obtain ⟨_, _⟩ := numbered
  exact weight_pos_of_mem (c := '{') rfl (List.mem_cons_of_mem _ List.mem_cons_self)

theorem lightens_marker (kind : Marker) {shown : List Char} (light : weight shown = 0) :
    (literal kind.text shown).Lightens isHeavy := by
  intro text written rest found
  obtain ⟨behind, stripped, same⟩ := Option.map_eq_some_iff.mp found
  cases same
  rw [stripOpening?_eq_some_iff.mp stripped]
  refine ⟨List.suffix_append _ _, ?_⟩
  have marked : 0 < weight kind.text := weight_pos_of_mem (c := '%') rfl List.mem_cons_self
  change weight shown + weight rest < weight (kind.text ++ rest)
  rw [weight_append]
  omega

theorem lightens_labeled : Recognizer.Lightens labeled isHeavy := by
  intro text shown rest found
  obtain ⟨opening, numbered, _, _, rfl⟩ := labeled_eq_some_iff.mp found
  have opened := weight_opening_pos numbered
  have whole : opening ++ ':' :: (shown ++ '}' :: rest) =
      opening ++ ([':'] ++ (shown ++ (['}'] ++ rest))) := rfl
  constructor
  · exact ⟨opening ++ ':' :: (shown ++ ['}']), by simp⟩
  · change weight shown + weight rest < weight _
    rw [whole, weight_append, weight_append, weight_append, weight_append]
    omega

theorem lightens_choice : Recognizer.Lightens choice isHeavy := by
  intro text shown rest found
  obtain ⟨rfl, opening, choices, numbered, _, _, rfl⟩ := choice_eq_some_iff.mp found
  have opened := weight_opening_pos numbered
  have light : weight "choice".toList = 0 := by decide
  have whole : opening ++ '|' :: (choices ++ '|' :: '}' :: rest) =
      opening ++ (['|'] ++ (choices ++ (['|', '}'] ++ rest))) := rfl
  constructor
  · exact ⟨opening ++ '|' :: (choices ++ ['|', '}']), by simp⟩
  · change weight "choice".toList + weight rest < weight _
    rw [whole, weight_append, weight_append, weight_append, weight_append, light]
    omega

theorem isForm_iff (form : List Char) :
    ((form = Marker.motor.text ∨ form = Marker.counter.text) ∨ IsLabeled form) ∨ IsChoice form ↔
      IsForm form := by
  rw [IsForm, or_assoc]
  refine or_congr_left ⟨?_, ?_⟩
  · rintro (same | same)
    · exact ⟨.motor, same⟩
    · exact ⟨.counter, same⟩
  · rintro ⟨_ | _, same⟩
    · exact .inl same
    · exact .inr same

/-- One round of passes leaves a text as it is exactly if it is collapsed, and makes any other text
lighter. -/
theorem reduces_signature : Reduces IsForm signature := by
  have markers (kind : Marker) :
      Reduces (· = kind.text) (Text.substitute (literal kind.text (':' :: kind.word))) :=
    .substitute (finds_literal _ _) (lightens_marker kind (by cases kind <;> decide))
  have passes := (((markers .motor).comp (markers .counter)).comp
    (.substitute finds_labeled lightens_labeled)).comp (.substitute finds_choice lightens_choice)
  simp only [isForm_iff] at passes
  exact passes

theorem signature_eq_self_iff (text : List Char) : signature text = text ↔ IsCollapsed text :=
  reduces_signature.eq_self_iff text

/-- Some number of rounds, no more than the text is heavy, leaves a collapsed text. -/
theorem exists_isCollapsed_rounds (text : List Char) :
    ∃ count, count ≤ weight text ∧ IsCollapsed (rounds count text) := by
  generalize bound : weight text = limit
  -- By induction on the weight, which every round that changes something lowers.
  induction limit using Nat.strongRecOn generalizing text with
  | ind limit ih =>
    rcases reduces_signature.lightens text with collapsed | lighter
    · exact ⟨0, Nat.zero_le _, collapsed⟩
    · rw [bound] at lighter
      obtain ⟨count, within, collapsed⟩ := ih _ lighter (signature text) rfl
      exact ⟨count + 1, Nat.lt_of_le_of_lt within lighter, collapsed⟩

theorem not_mem_rounds {c : Char} {body : List Char} (other : c ∉ standIns) (absent : c ∉ body)
    (count : Nat) : c ∉ rounds count body := by
  induction count generalizing body with
  | zero => exact absent
  | succ count ih => exact ih (not_mem_signature other absent)

/-!
## Rounds over nested templates
-/

theorem Segment.exists_isForm (part : Segment) (deep : part.depth ≠ 0) :
    ∃ form, IsForm form ∧ form <:+: part.source := by
  cases part with
  | plain => exact absurd rfl deep
  | typed number kind =>
    exact ⟨kind.text, .inl ⟨kind, rfl⟩, number.opening, ['}'], by simp [Segment.source]⟩
  | labeled number label filled simple =>
    exact ⟨_, .inr (.inl (.label number.isNumbered filled fun c member => (simple c member).2)),
      List.infix_rfl⟩
  | choice number choices filled simple unbarred =>
    exact ⟨_, .inr (.inr (.choices number.isNumbered filled unbarred)), List.infix_rfl⟩

namespace Nested

theorem exists_isForm {nested : Nested} (filled : nested.IsFilled) (deep : nested.depth ≠ 0) :
    ∃ form, IsForm form ∧ form <:+: nested.source := by
  induction nested with
  | nil => exact absurd rfl deep
  | segment part rest ih =>
    by_cases flat : part.depth = 0
    · obtain ⟨form, isForm, inside⟩ := ih filled fun same =>
        deep (Nat.max_eq_zero_iff.mpr ⟨flat, same⟩)
      exact ⟨form, isForm, inside.trans (List.suffix_append _ _).isInfix⟩
    · obtain ⟨form, isForm, inside⟩ := part.exists_isForm flat
      exact ⟨form, isForm, inside.trans (List.prefix_append _ _).isInfix⟩
  | label number inner rest innerIH =>
    obtain ⟨shown, innerFilled, _⟩ := filled
    by_cases flat : inner.depth = 0
    · have isLabeled := IsLabeled.label number.isNumbered shown fun c member =>
        (isSimple_source flat c member).2
      exact ⟨_, .inr (.inl isLabeled), [], rest.source, by simp [source]⟩
    · obtain ⟨form, isForm, inside⟩ := innerIH innerFilled flat
      have placed : inner.source <:+: (label number inner rest).source :=
        ⟨number.opening ++ [':'], '}' :: rest.source, by simp [source]⟩
      exact ⟨form, isForm, inside.trans placed⟩

theorem isCollapsed_source_iff {nested : Nested} (filled : nested.IsFilled) :
    IsCollapsed nested.source ↔ nested.depth = 0 := by
  constructor
  · intro collapsed
    apply Decidable.byContradiction
    intro deep
    obtain ⟨form, isForm, inside⟩ := nested.exists_isForm filled deep
    exact collapsed form isForm inside
  · intro flat
    apply isCollapsed_of_light
    intro c member
    obtain ⟨percent, brace⟩ := isSimple_source flat c member
    rw [isBrace, Bool.or_eq_false_iff] at brace
    rw [isHeavy, Bool.or_eq_false_iff]
    exact ⟨beq_false_of_ne percent, brace.1⟩

/-- A round takes away one layer, so the rounds it takes are the layers there are. -/
theorem isCollapsed_rounds_iff {nested : Nested} (filled : nested.IsFilled) (count : Nat) :
    IsCollapsed (rounds count nested.source) ↔ nested.depth ≤ count := by
  induction count generalizing nested with
  | zero => rw [rounds, isCollapsed_source_iff filled, Nat.le_zero]
  | succ count ih =>
    rw [rounds, signature_source nested filled, ih filled.collapse, depth_collapse]
    omega

/-- The segments of a nested template, also those in labels. -/
def segments : Nested → List Segment
  | nil => []
  | segment part rest => part :: rest.segments
  | label _ inner rest => inner.segments ++ rest.segments

theorem source_collapse_of_flat {nested : Nested} (flat : nested.depth = 0) :
    nested.collapse.source = nested.source := by
  rw [← write_collapsed]
  refine write_of_flat true (fun part outside => ?_) flat
  cases part with
  | plain => rfl
  | typed | labeled | choice => cases outside

theorem mem_source_collapse_iff (nested : Nested) :
    '\n' ∈ nested.collapse.source ↔ ∃ part ∈ nested.segments, '\n' ∈ part.shown := by
  induction nested with
  | nil => simp [collapse, source, segments]
  | segment part rest ih =>
    rw [collapse, source, segments, List.mem_append, ih, part.source_collapsed]
    simp
  | label number inner rest innerIH restIH =>
    have opening : '\n' ∉ number.opening := number.isNumbered.not_mem (by decide) (by decide)
    rw [collapse, segments]
    split
    · rename_i flat
      rw [source_collapse_of_flat flat] at innerIH
      simp [source, Segment.source, innerIH, restIH, or_and_right, exists_or]
    · simp [source, opening, innerIH, restIH, or_and_right, exists_or]

end Nested

/-- A signature is left as it is by further rounds exactly if it is collapsed, and some number of
rounds collapses every body. A nested template takes as many rounds as it has layers, so its
signature is collapsed exactly if no label holds a placeholder. A signature has no line feed if its
line has none; outside of choices every line feed of a body stays. -/
theorem signature_takes_away_one_layer {text : String} {template : Template}
    (parsed : parse? text = some template) :
    (signature (signature template.body) = signature template.body ↔
      IsCollapsed (signature template.body)) ∧
    (∃ count, count ≤ weight template.body ∧ IsCollapsed (rounds count template.body)) ∧
    (∀ nested : Nested, nested.IsFilled → template.body = nested.source →
      (IsCollapsed (signature template.body) ↔ nested.depth ≤ 1) ∧
      (∀ count, IsCollapsed (rounds count template.body) ↔ nested.depth ≤ count) ∧
      ('\n' ∈ signature template.body ↔ ∃ part ∈ nested.segments, '\n' ∈ part.shown)) ∧
    ('\n' ∉ text.toList → ∀ count, '\n' ∉ rounds count template.body) ∧
    ('|' ∉ template.body → ('\n' ∈ signature template.body ↔ '\n' ∈ template.body)) := by
  refine ⟨signature_eq_self_iff _, exists_isCollapsed_rounds _, ?_, ?_, mem_signature_iff⟩
  · intro nested filled whole
    rw [whole]
    refine ⟨nested.isCollapsed_rounds_iff filled 1, nested.isCollapsed_rounds_iff filled, ?_⟩
    rw [signature_source nested filled, nested.mem_source_collapse_iff]
  · intro absent count
    have outside : '\n' ∉ template.body := fun member => absent (mem_text_of_mem_body parsed member)
    exact not_mem_rounds (by decide) outside count

/-- The move of a motor to a position, with a label in a label. -/
def labelInLabel : Nested :=
  let number (digit : Char) (decimal : isDecimalDigit digit = true) : Number :=
    ⟨[digit], List.cons_ne_nil _ _, by simpa using decimal⟩
  .segment (.plain "mv ".toList (by decide))
    (.segment (.typed (number '1' (by decide)) .motor)
      (.segment (.plain " ".toList (by decide))
        (.label (number '2' (by decide))
          (.segment (.labeled (number '3' (by decide)) "pos".toList (by decide) (by decide)) .nil)
          .nil)))

theorem labelInLabel_takes_two_rounds :
    ∃ template, parse? "mv $\x7b1%MOT\x7d $\x7b2:$\x7b3:pos\x7d\x7d # move" = some template ∧
      ¬IsCollapsed (signature template.body) ∧ IsCollapsed (rounds 2 template.body) ∧
      '\n' ∉ signature template.body := by
  have read : (parse? "mv $\x7b1%MOT\x7d $\x7b2:$\x7b3:pos\x7d\x7d # move").map body =
      some labelInLabel.source := by
    decide +kernel
  obtain ⟨template, parsed, whole⟩ := Option.map_eq_some_iff.mp read
  have filled : labelInLabel.IsFilled := ⟨List.cons_ne_nil _ _, trivial, trivial⟩
  obtain ⟨-, -, layers, feeds, -⟩ := signature_takes_away_one_layer parsed
  obtain ⟨once, often, -⟩ := layers labelInLabel filled whole
  refine ⟨template, parsed, fun collapsed => ?_, (often 2).mpr (by decide), feeds (by decide) 1⟩
  exact absurd (once.mp collapsed) (by decide)

/-- A label in a label leaves a placeholder in the signature, and a line feed stays in it. -/
theorem signature_keeps_label_and_line_feed :
    (∃ template, parse? "x $\x7b1:$\x7b2:a\x7d\x7d" = some template ∧
      ¬IsCollapsed (signature template.body) ∧
      signature (signature template.body) ≠ signature template.body) ∧
    ∃ template, parse? "x a\nb" = some template ∧ '\n' ∈ signature template.body := by
  constructor
  · have read : (parse? "x $\x7b1:$\x7b2:a\x7d\x7d").map (fun template =>
        (signature template.body, signature (signature template.body))) =
          some ("x $\x7b1:a\x7d".toList, "x a".toList) := by
      decide +kernel
    obtain ⟨template, parsed, same⟩ := Option.map_eq_some_iff.mp read
    obtain ⟨once, twice⟩ := Prod.mk.inj same
    have changes : signature (signature template.body) ≠ signature template.body := by
      rw [once] at twice ⊢
      rw [twice]
      decide
    exact ⟨template, parsed, mt (signature_eq_self_iff _).mpr changes, changes⟩
  · have read : (parse? "x a\nb").map (fun template => signature template.body) =
        some "x a\nb".toList := by
      decide +kernel
    obtain ⟨template, parsed, same⟩ := Option.map_eq_some_iff.mp read
    refine ⟨template, parsed, ?_⟩
    rw [same]
    decide

end SpecLexicon.Template
