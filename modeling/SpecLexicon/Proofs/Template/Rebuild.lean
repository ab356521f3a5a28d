import SpecLexicon.Proofs.Mnemonic
import SpecLexicon.Proofs.OrderedMap
import SpecLexicon.Proofs.Schema.Item
import SpecLexicon.Proofs.Text.Span
import SpecLexicon.Proofs.Text.Substitution
import SpecLexicon.Registry.Rebuild

/-!
# The symbols of a list of templates

The key of a template goes through all passes of substitution unchanged, so a template always has a
visible signature and a symbol. A rebuild gives one symbol to each key, at the place of its first
template and for its last one, and a record to each line that is no template. What it is given to
fill is cleared before. Only a line that is not fit, which holds half of a surrogate pair, ends a
rebuild early.
-/

set_option autoImplicit false

namespace SpecLexicon

namespace Template

open Text Placeholder

/-!
## The signature of a template
-/

theorem fillMarkers_append {front : List Char} (motor counter rest : List Char)
    (plain : ∀ c ∈ front, isOpening c = false) :
    fillMarkers motor counter (front ++ rest) = front ++ fillMarkers motor counter rest := by
  rw [fillMarkers, fillMarkers,
    substitute_append_of_none rest fun c member _ => literal_motor_eq_none (plain c member),
    substitute_append_of_none _ fun c member _ => literal_counter_eq_none (plain c member)]

theorem signature_append {front : List Char} (rest : List Char)
    (plain : ∀ c ∈ front, isOpening c = false) :
    signature (front ++ rest) = front ++ signature rest := by
  rw [signature, signature, fillMarkers_append _ _ rest plain,
    substitute_append_of_none _ fun c member _ => labeled_eq_none (plain c member),
    substitute_append_of_none _ fun c member _ => choice_eq_none (plain c member)]

theorem isOpening_of_isWordPart {c : Char} (part : isWordPart c = true) : isOpening c = false := by
  rw [isOpening, Bool.or_eq_false_iff, beq_eq_false_iff_ne, beq_eq_false_iff_ne]
  constructor
  · rintro rfl
    exact absurd part (by decide)
  · rintro rfl
    exact absurd part (by decide)

theorem key_prefix_signature (template : Template) : template.key <+: signature template.body := by
  obtain ⟨tail, whole⟩ := template.key_prefix
  refine ⟨signature tail, ?_⟩
  rw [← whole, signature_append tail fun c member =>
    isOpening_of_isWordPart (template.key_isWord.isWordPart c member)]

/-- The check of the signature never fails for the body of a template. -/
theorem itemOfBody_eq_valid (motors counters : List String) (template : Template) :
    itemOfBody motors counters template.body template.comment =
      .valid (template.item motors counters) := by
  rw [itemOfBody, Schema.visible_text template.isVisible_signature]
  rfl

/-!
## A fold over lines
-/

def name (template : Template) : String :=
  String.ofList template.key

def ofLines (lines : List LooseText) : List Template :=
  lines.filterMap fun line => parse? line.plain

def entry (motors counters : List String) (template : Template) : String × Item :=
  (template.name, template.item motors counters)

theorem rebuild_eq (motors counters : List String) (target : ItemMap) (lines : List LooseText) :
    rebuild motors counters target lines =
      ⟨.ofList ((ofLines lines).map (entry motors counters)),
        (lines.filter fun line => (parse? line.plain).isNone).map rejection⟩ := by
  refine Rebuilt.foldl_eq (fun built line => ?_) lines ⟨target.clear, []⟩
  rw [addLine]
  cases parse? line.plain with
  | none => rfl
  | some template => rfl

/-- The last line counts if it is a template. -/
theorem get?_rebuild_append {motors counters : List String} {target : ItemMap}
    (lines : List LooseText) {line : LooseText} {template : Template}
    (parsed : parse? line.plain = some template) :
    (rebuild motors counters target (lines ++ [line])).items.get? template.name =
      some (template.item motors counters) := by
  rw [rebuild, List.foldl_append, List.foldl_cons, List.foldl_nil, addLine, parsed]
  exact (OrderedMap.get?_insert _ _ _ _).trans (if_pos rfl)

/-- The outcome of a rebuild: what it holds, how much, and what it records. -/
structure Compiled (motors counters : List String) (lines : List LooseText) (built : Rebuilt) :
    Prop where
  names : built.items.keys = ((ofLines lines).map name).eraseDups
  symbols : ∀ key, built.items.get? key =
    ((ofLines lines).reverse.find? (·.name == key)).map (item motors counters)
  size : built.items.size = ((ofLines lines).map name).eraseDups.length
  journal : built.journal = (lines.filter fun line => (parse? line.plain).isNone).map fun line =>
    ⟨.warning, .snippets, .text ("Unexpected snippet format: " ++ line.quoted)⟩

theorem rejection_eq (line : LooseText) : rejection line =
    ⟨.warning, .snippets, .text ("Unexpected snippet format: " ++ line.quoted)⟩ := by
  rw [rejection, Rejection.message, unexpectedForm]
  rfl

theorem compiled_rebuild (motors counters : List String) (target : ItemMap)
    (lines : List LooseText) :
    Compiled motors counters lines (rebuild motors counters target lines) := by
  have built := rebuild_eq motors counters target lines
  have names : (rebuild motors counters target lines).items.keys =
      ((ofLines lines).map name).eraseDups := by
    rw [built]
    exact OrderedMap.keys_ofList_named name (item motors counters) _
  refine ⟨names, ?_, by rw [OrderedMap.size_eq_length_keys, names], ?_⟩
  · intro key
    rw [built]
    exact OrderedMap.get?_ofList_named name (item motors counters) _ key
  · rw [built]
    exact List.map_congr_left fun line _ => rejection_eq line

/-!
## Lines that end a rebuild
-/

theorem templateFault?_texts_eq_none_iff {lines : List LooseText} :
    Registry.templateFault? (.texts lines) = none ↔ lines.takeWhile isFit = lines := by
  rw [Registry.templateFault?, Lines.readable]
  by_cases fit : lines.all isFit = true
  · have whole : (lines ++ []).takeWhile isFit = lines ++ [].takeWhile isFit :=
      List.takeWhile_append_of_pos (List.all_eq_true.mp fit)
    rw [List.append_nil, List.takeWhile_nil, List.append_nil] at whole
    simp [fit, whole, Lines.flaw?]
  · have shortened : lines.takeWhile isFit ≠ lines := fun whole =>
      fit (whole ▸ List.all_takeWhile)
    simp [fit, shortened]

theorem templateFault?_texts_eq_some_iff {lines : List LooseText} {fault : Registry.Fault} :
    Registry.templateFault? (.texts lines) = some fault ↔
      fault = Registry.unfitTemplate ∧ ∃ line ∈ lines, isFit line = false := by
  rw [Registry.templateFault?, Lines.readable]
  by_cases fit : lines.all isFit = true
  · rw [if_pos fit]
    rw [List.all_eq_true] at fit
    constructor
    · intro flawed
      cases flawed
    · rintro ⟨_, line, member, unfit⟩
      rw [fit line member] at unfit
      cases unfit
  · rw [if_neg fit, Option.some.injEq]
    rw [Bool.not_eq_true, List.all_eq_false] at fit
    obtain ⟨line, member, unfit⟩ := fit
    exact ⟨fun same => ⟨same.symm, line, member, Bool.eq_false_iff.mpr unfit⟩,
      fun stopped => stopped.1.symm⟩

/-- Every key of the templates among the lines gets one symbol, at the place of its first template
and for its last one; every other line is recorded as it was given. The symbol of a template always
passes its check. A rebuild ends early exactly at a line that is not fit, which no text is. -/
theorem rebuild_compiles (motors counters : List String) (target : ItemMap)
    (lines : List LooseText) :
    (∀ template : Template, template.key <+: signature template.body ∧
      itemOfBody motors counters template.body template.comment =
        .valid (template.item motors counters)) ∧
    (∀ fault, Registry.templateFault? (.texts lines) = some fault ↔
      fault = Registry.unfitTemplate ∧ ∃ line ∈ lines, isFit line = false) ∧
    (∀ text : String, isFit (.text text) = true) ∧
    (Registry.templateFault? (.texts lines) = none ↔ lines.takeWhile isFit = lines) ∧
    Compiled motors counters (lines.takeWhile isFit)
      (rebuild motors counters target (lines.takeWhile isFit)) := by
  exact ⟨fun template => ⟨key_prefix_signature template,
    itemOfBody_eq_valid motors counters template⟩, fun _ => templateFault?_texts_eq_some_iff,
    isFit_text, templateFault?_texts_eq_none_iff, compiled_rebuild motors counters target _⟩

/-- A template that ends in half of a surrogate pair, and one behind it. -/
def halvedLines : List LooseText :=
  [.ofPoints [.char 'g', .char 'o', .char ' ', .half 0xd800], .text "mv x"]

/-- Both lines are templates, and the rebuild has neither of their symbols. -/
theorem halvedLines_end_rebuild :
    (ofLines halvedLines).map name = ["go", "mv"] ∧
      Registry.templateFault? (.texts halvedLines) = some Registry.unfitTemplate ∧
      (rebuild [] [] .empty (halvedLines.takeWhile isFit)).items.keys = [] := by
  refine ⟨?_, ?_, ?_⟩ <;> decide +kernel

end Template

end SpecLexicon
