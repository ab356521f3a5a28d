import SpecLexicon.Proofs.Template.Segments

/-!
# Nested templates

In a nested template a label may hold segments and further labels. The pass for labels takes away
the innermost ones only: a label in which a placeholder stands holds a brace, so the labels around
it stay. So the signature of a nested template is one with a layer less.
-/

set_option autoImplicit false

namespace SpecLexicon.Template

open Text Placeholder

/-- How many placeholders are inside of each other. -/
def Segment.depth : Segment → Nat
  | plain .. => 0
  | _ => 1

/-- What the passes of the signature make of a segment. -/
def Segment.collapsed (segment : Segment) : Segment :=
  segment.named.unlabeled.chosen

theorem Segment.depth_le_one (segment : Segment) : segment.depth ≤ 1 := by
  cases segment <;> simp [depth]

theorem Segment.depth_collapsed (segment : Segment) : segment.collapsed.depth = 0 := by
  cases segment <;> rfl

theorem Segment.source_collapsed (segment : Segment) :
    segment.collapsed.source = segment.shown := by
  cases segment <;> rfl

theorem Segment.source_collapsed_ne_nil (segment : Segment) (deep : segment.depth ≠ 0) :
    segment.collapsed.source ≠ [] := by
  cases segment with
  | plain => exact absurd rfl deep
  | typed number kind => cases kind <;> exact List.cons_ne_nil _ _
  | labeled number label filled => exact filled
  | choice => exact List.cons_ne_nil _ _

theorem Segment.isSimple_source {segment : Segment} (flat : segment.depth = 0) :
    IsSimple segment.source := by
  cases segment with
  | plain text simple => exact simple
  | typed | labeled | choice => cases flat

/-- Segments and labels side by side, where a label holds such a template again. -/
inductive Nested where
  | nil
  | segment (part : Segment) (rest : Nested)
  | label (number : Number) (inner rest : Nested)

namespace Nested

def source : Nested → List Char
  | nil => []
  | segment part rest => part.source ++ rest.source
  | label number inner rest => number.opening ++ ':' :: (inner.source ++ '}' :: rest.source)

def depth : Nested → Nat
  | nil => 0
  | segment part rest => max part.depth rest.depth
  | label _ inner rest => max (inner.depth + 1) rest.depth

/-- No label is empty. -/
def IsFilled : Nested → Prop
  | nil => True
  | segment _ rest => rest.IsFilled
  | label _ inner rest => inner.source ≠ [] ∧ inner.IsFilled ∧ rest.IsFilled

theorem isSimple_source {nested : Nested} (flat : nested.depth = 0) : IsSimple nested.source := by
  induction nested with
  | nil => exact fun _ member => absurd member List.not_mem_nil
  | segment part rest ih =>
    obtain ⟨outside, behind⟩ := Nat.max_eq_zero_iff.mp flat
    intro c member
    rcases List.mem_append.mp member with here | later
    · exact part.isSimple_source outside c here
    · exact ih behind c later
  | label => exact absurd (Nat.max_eq_zero_iff.mp flat).1 (Nat.succ_ne_zero _)

/-- A nested template with its innermost layer taken away. -/
def collapse : Nested → Nested
  | nil => nil
  | segment part rest => segment part.collapsed rest.collapse
  | label number inner rest =>
    if flat : inner.depth = 0 then
      segment (.plain inner.source (isSimple_source flat)) rest.collapse
    else label number inner.collapse rest.collapse

/-- The text of a nested template with its segments at a stage of the passes, and with or without
what stands around its innermost labels. -/
def write (stage : Segment → Segment) (bare : Bool) : Nested → List Char
  | nil => []
  | segment part rest => (stage part).source ++ rest.write stage bare
  | label number inner rest =>
    if bare = true ∧ inner.depth = 0 then inner.source ++ rest.write stage bare
    else number.opening ++ ':' :: (inner.write stage bare ++ '}' :: rest.write stage bare)

theorem write_id (nested : Nested) : nested.write id false = nested.source := by
  induction nested with
  | nil => rfl
  | segment part rest ih => rw [write, source, ih, id]
  | label number inner rest innerIH restIH =>
    rw [write, if_neg (by simp), source, innerIH, restIH]

theorem write_collapsed (nested : Nested) :
    nested.write Segment.collapsed true = nested.collapse.source := by
  induction nested with
  | nil => rfl
  | segment part rest ih => rw [write, collapse, source, ih]
  | label number inner rest innerIH restIH =>
    rw [write, collapse]
    by_cases flat : inner.depth = 0
    · rw [if_pos ⟨rfl, flat⟩, dif_pos flat, source, restIH]
      rfl
    · rw [if_neg fun both => flat both.2, dif_neg flat, source, innerIH, restIH]

/-- Plain text is written as it is at every stage. -/
theorem write_of_flat {stage : Segment → Segment} (bare : Bool) {nested : Nested}
    (keeps : ∀ part, part.depth = 0 → stage part = part) (flat : nested.depth = 0) :
    nested.write stage bare = nested.source := by
  induction nested with
  | nil => rfl
  | segment part rest ih =>
    obtain ⟨outside, behind⟩ := Nat.max_eq_zero_iff.mp flat
    rw [write, source, keeps part outside, ih behind]
  | label => exact absurd (Nat.max_eq_zero_iff.mp flat).1 (Nat.succ_ne_zero _)

theorem head?_write_append (stage : Segment → Segment) (bare : Bool) (nested : Nested)
    {rest : List Char} (boundary : rest.head? ≠ some '{') :
    (nested.write stage bare ++ rest).head? ≠ some '{' := by
  induction nested with
  | nil => exact boundary
  | segment part others ih =>
    rw [write, List.append_assoc]
    exact (stage part).head?_source_append ih
  | label number inner others _ ih =>
    rw [write]
    split
    · rename_i flat
      rw [List.append_assoc]
      exact (Segment.plain inner.source (isSimple_source flat.2)).head?_source_append ih
    · rintro ⟨⟩

/-- Where a placeholder stands in a nested template, the first brace is an opening one. -/
theorem exists_brace_of_depth {stage : Segment → Segment} {nested : Nested}
    (keeps : ∀ part, (stage part).depth = part.depth) (deep : nested.depth ≠ 0) :
    ∃ front rest, nested.write stage false = front ++ '{' :: rest ∧
      ∀ c ∈ front, isBrace c = false := by
  have opens (number : Number) (rest : List Char) :
      ∃ front behind, number.opening ++ rest = front ++ '{' :: behind ∧
        ∀ c ∈ front, isBrace c = false :=
    ⟨['$'], number.digits ++ rest, rfl, by simp [isBrace]⟩
  induction nested with
  | nil => exact absurd rfl deep
  | segment part rest ih =>
    have same := keeps part
    rw [write]
    cases staged : stage part with
    | plain text simple =>
      rw [staged] at same
      have behind : rest.depth ≠ 0 := fun flat =>
        deep (Nat.max_eq_zero_iff.mpr ⟨same.symm, flat⟩)
      obtain ⟨front, tail, whole, plain⟩ := ih behind
      refine ⟨text ++ front, tail, by rw [whole, ← List.append_assoc]; rfl, ?_⟩
      intro c member
      rcases List.mem_append.mp member with here | later
      · exact (simple c here).2
      · exact plain c later
    | typed number | labeled number | choice number =>
      rw [Segment.source, List.append_assoc]
      exact opens number _
  | label number inner rest =>
    rw [write, if_neg (by simp)]
    exact opens number _

end Nested

/-!
## Passes over nested templates
-/

theorem label_append (number : Number) (inner others rest : List Char) :
    number.opening ++ ':' :: (inner ++ '}' :: others) ++ rest =
      number.opening ++ ':' :: (inner ++ '}' :: (others ++ rest)) := by
  simp

/-- A pass takes segments from one stage to the next and leaves what stands around labels. -/
structure GoesThrough (pass : List Char → List Char) (stage next : Segment → Segment) : Prop where
  segment : ∀ part rest, rest.head? ≠ some '{' →
    pass ((stage part).source ++ rest) = (next part).source ++ pass rest
  simple : ∀ text rest, IsSimple text → rest.head? ≠ some '{' →
    pass (text ++ rest) = text ++ pass rest
  opening : ∀ (number : Number) rest, rest.head? ≠ some '{' →
    pass (number.opening ++ ':' :: rest) = number.opening ++ ':' :: pass rest
  closing : ∀ rest, pass ('}' :: rest) = '}' :: pass rest

theorem GoesThrough.write {pass : List Char → List Char} {stage next : Segment → Segment}
    (through : GoesThrough pass stage next) (bare : Bool) (nested : Nested) {rest : List Char}
    (boundary : rest.head? ≠ some '{') :
    pass (nested.write stage bare ++ rest) = nested.write next bare ++ pass rest := by
  induction nested generalizing rest with
  | nil => rfl
  | segment part others ih =>
    have behind := others.head?_write_append stage bare boundary
    rw [Nested.write, Nested.write, List.append_assoc, List.append_assoc,
      through.segment part _ behind, ih boundary]
  | label number inner others innerIH othersIH =>
    have behind := others.head?_write_append stage bare boundary
    rw [Nested.write, Nested.write]
    split
    · rename_i flat
      rw [List.append_assoc, through.simple _ _ (Nested.isSimple_source flat.2) behind,
        othersIH boundary, List.append_assoc]
    · -- What a label holds ends at its closing brace, so the pass goes through it on its own.
      have closed : ('}' :: (others.write stage bare ++ rest)).head? ≠ some '{' := by rintro ⟨⟩
      rw [label_append, through.opening number _ (inner.head?_write_append stage bare closed),
        innerIH closed, through.closing, othersIH boundary, label_append]

section Braces

variable {form? : Recognizer} {rest : List Char}
  (opens : ∀ text, form? text ≠ none → ['$', '{'] <+: text)

include opens

theorem substitute_closing : substitute form? ('}' :: rest) = '}' :: substitute form? rest :=
  substitute_cons_of_none (eq_none_of_ne opens rest (by decide))

theorem substitute_opening (number : Number) (boundary : rest.head? ≠ some '{')
    (absent : form? (number.opening ++ ':' :: rest) = none) :
    substitute form? (number.opening ++ ':' :: rest) =
      number.opening ++ ':' :: substitute form? rest :=
  substitute_unmatched opens boundary number (show '{' ∉ [':'] by decide) absent

end Braces

theorem goesThrough_insertable : GoesThrough (insertable [] []) id Segment.named := by
  have plain {front : List Char} (rest : List Char) (absent : '%' ∉ front) :=
    insertable_append_of_plain areNames_nil areNames_nil rest absent
  refine ⟨fun part rest _ => part.insertable_source_append rest,
    fun text rest simple _ => plain rest simple.percent_not_mem, fun number rest _ => ?_,
    fun rest => plain rest (show '%' ∉ ['}'] by decide)⟩
  have absent : '%' ∉ number.opening ++ [':'] := by
    rw [List.mem_append, not_or]
    exact ⟨number.percent_not_mem_opening, by decide⟩
  simpa using plain rest absent

theorem goesThrough_choice : GoesThrough (substitute choice)
    (fun part => part.named.unlabeled) Segment.collapsed := by
  have opens : ∀ text, choice text ≠ none → ['$', '{'] <+: text := fun _ => opens_of_choice
  refine ⟨fun part rest => part.named.unlabeled.becomes_chosen.substitute opens,
    fun text rest simple boundary => substitute_simple opens boundary simple,
    fun number rest boundary => substitute_opening opens number boundary ?_,
    fun rest => substitute_closing opens⟩
  exact choice_append_eq_none rest number.isNumbered (by decide) (by decide)

theorem Segment.named_of_flat (part : Segment) (flat : part.depth = 0) : part.named = part := by
  cases part with
  | plain => rfl
  | typed | labeled | choice => cases flat

theorem Segment.depth_named (part : Segment) : part.named.depth = part.depth := by
  cases part <;> rfl

/-- The pass for labels bares the innermost labels and no others. -/
theorem substitute_labeled_write (nested : Nested) (filled : nested.IsFilled) {rest : List Char}
    (boundary : rest.head? ≠ some '{') :
    substitute labeled (nested.write Segment.named false ++ rest) =
      nested.write (fun part => part.named.unlabeled) true ++ substitute labeled rest := by
  have opens : ∀ text, labeled text ≠ none → ['$', '{'] <+: text := fun _ => opens_of_labeled
  induction nested generalizing rest with
  | nil => rfl
  | segment part others ih =>
    have behind := others.head?_write_append Segment.named false boundary
    rw [Nested.write, Nested.write, List.append_assoc, List.append_assoc,
      part.named.becomes_unlabeled.substitute opens behind, ih filled boundary]
  | label number inner others innerIH othersIH =>
    obtain ⟨shown, innerFilled, othersFilled⟩ := filled
    have behind := others.head?_write_append Segment.named false boundary
    have closed : ('}' :: (others.write Segment.named false ++ rest)).head? ≠ some '{' := by
      rintro ⟨⟩
    rw [Nested.write, if_neg (by simp), label_append, Nested.write]
    by_cases flat : inner.depth = 0
    · -- An innermost label is a labeled segment, which the pass takes as a whole.
      have becomes := (Segment.labeled number inner.source shown
        (Nested.isSimple_source flat)).becomes_unlabeled.substitute opens behind
      rw [if_pos ⟨rfl, flat⟩, inner.write_of_flat false Segment.named_of_flat flat,
        List.append_assoc, ← othersIH othersFilled boundary]
      simpa [Segment.source, Segment.unlabeled] using becomes
    · -- Any other label is stopped by the brace of a placeholder inside, so it is only opened.
      obtain ⟨front, tail, whole, plain⟩ :=
        Nested.exists_brace_of_depth Segment.depth_named flat
      have absent : labeled (number.opening ++ ':' :: (inner.write Segment.named false ++ '}' ::
          (others.write Segment.named false ++ rest))) = none := by
        rw [whole, List.append_assoc]
        exact labeled_append_eq_none_of_brace _ number.isNumbered plain
      rw [if_neg fun both => flat both.2,
        substitute_opening opens number (inner.head?_write_append _ _ closed) absent,
        innerIH innerFilled closed, substitute_closing opens, othersIH othersFilled boundary,
        label_append]

/-- The signature of a nested template has its innermost layer taken away. -/
theorem signature_source (nested : Nested) (filled : nested.IsFilled) :
    signature nested.source = nested.collapse.source := by
  have nothing : ([] : List Char).head? ≠ some '{' := by rintro ⟨⟩
  have empty : insertable [] [] [] = [] :=
    insertable_of_unmarked [] [] fun kind => by simp [Marker.text]
  have named := goesThrough_insertable.write false nested nothing
  have unlabeled := substitute_labeled_write nested filled nothing
  have chosen := goesThrough_choice.write true nested nothing
  simp only [List.append_nil, empty, substitute_nil, nested.write_id] at named unlabeled chosen
  calc
    signature nested.source =
        substitute choice (substitute labeled (insertable [] [] nested.source)) := rfl
    _ = nested.write Segment.collapsed true := by rw [named, unlabeled, chosen]
    _ = nested.collapse.source := nested.write_collapsed

/-!
## Layers
-/

namespace Nested

theorem depth_collapse (nested : Nested) : nested.collapse.depth = nested.depth - 1 := by
  induction nested with
  | nil => rfl
  | segment part rest ih =>
    have shallow := part.depth_le_one
    rw [collapse, depth, depth, ih, part.depth_collapsed]
    omega
  | label number inner rest innerIH restIH =>
    rw [collapse]
    split
    · rename_i flat
      rw [depth, depth, restIH, Segment.depth]
      omega
    · rw [depth, depth, innerIH, restIH]
      omega

theorem source_collapse_ne_nil {nested : Nested} (filled : nested.IsFilled)
    (deep : nested.depth ≠ 0) : nested.collapse.source ≠ [] := by
  induction nested with
  | nil => exact absurd rfl deep
  | segment part rest ih =>
    rw [collapse, source]
    by_cases flat : part.depth = 0
    · have behind := ih filled fun same => deep (Nat.max_eq_zero_iff.mpr ⟨flat, same⟩)
      exact List.append_ne_nil_of_right_ne_nil _ behind
    · exact List.append_ne_nil_of_left_ne_nil (part.source_collapsed_ne_nil flat) _
  | label number inner rest =>
    rw [collapse]
    split
    · exact List.append_ne_nil_of_left_ne_nil filled.1 _
    · exact List.cons_ne_nil _ _

theorem IsFilled.collapse {nested : Nested} (filled : nested.IsFilled) :
    nested.collapse.IsFilled := by
  induction nested with
  | nil => exact filled
  | segment part rest ih => exact ih filled
  | label number inner rest innerIH restIH =>
    obtain ⟨_, innerFilled, restFilled⟩ := filled
    rw [Nested.collapse]
    split
    · exact restIH restFilled
    · rename_i deep
      exact ⟨source_collapse_ne_nil innerFilled deep, innerIH innerFilled, restIH restFilled⟩

end Nested

/-!
## Flat templates
-/

/-- Segments side by side. -/
def Nested.ofSegments (segments : List Segment) : Nested :=
  segments.foldr .segment .nil

theorem Nested.isFilled_ofSegments (segments : List Segment) : (ofSegments segments).IsFilled := by
  induction segments with
  | nil => trivial
  | cons segment segments ih => exact ih

theorem Nested.source_ofSegments (segments : List Segment) :
    (ofSegments segments).source = segments.flatMap Segment.source := by
  induction segments with
  | nil => rfl
  | cons segment segments ih => rw [List.flatMap_cons, ← ih]; rfl

theorem Nested.source_collapse_ofSegments (segments : List Segment) :
    (ofSegments segments).collapse.source = segments.flatMap Segment.shown := by
  induction segments with
  | nil => rfl
  | cons segment segments ih =>
    rw [List.flatMap_cons, ← ih, ← segment.source_collapsed]
    rfl

/-- The signature of a flat template has its plain texts as they are, the word of the kind for each
typed placeholder, the label of each labeled one and one word for every choice. -/
theorem signature_flatMap_source (segments : List Segment) :
    signature (segments.flatMap Segment.source) = segments.flatMap Segment.shown := by
  rw [← Nested.source_ofSegments, signature_source _ (Nested.isFilled_ofSegments segments),
    Nested.source_collapse_ofSegments]

end SpecLexicon.Template
