import SpecLexicon.Proofs.Schema.Item
import SpecLexicon.Proofs.Template.Reprint
import SpecLexicon.Settings.Value

/-!
# Mnemonics printed again

A list of lines becomes one symbol for each name, at the place of its first line and with the
description of its last one, whatever the map held before. The map can be printed, one line for each
symbol, and what is printed is read as the same map.
-/

set_option autoImplicit false

namespace SpecLexicon.Mnemonic

open Text
open Template (hashed spaced commentOf)

/-- The symbol of a name and a description, whose signature is checked. -/
def checkedItem (name : String) (description : Option String) : Schema.Checked Item :=
  ((Schema.visible (.string name)).within (.key "signature")).map fun ⟨shown, visible⟩ =>
    Item.ofSignature shown description none visible

/-- A symbol as a line of text. -/
def printed (entry : String × Item) : String :=
  match entry.2.description with
  | none => entry.1
  | some description => entry.1 ++ " # " ++ description

/-!
## One line
-/

theorem checkedItem_eq_valid (mnemonic : Mnemonic) :
    checkedItem mnemonic.text mnemonic.description = .valid mnemonic.item := by
  have visible : IsVisible mnemonic.text := mnemonic.isVisible_name
  rw [checkedItem, Schema.visible_text visible]
  rfl

/-- A printed line is a name, or a name with its description behind a hash. -/
theorem toList_printed (mnemonic : Mnemonic) :
    (printed mnemonic.entry).toList = mnemonic.name ++
      ((if mnemonic.description.isSome then [' '] else []) ++
        hashed (spaced mnemonic.description)) := by
  cases described : mnemonic.description with
  | none => simp [printed, entry, item, Item.ofSignature, text, described, hashed, spaced]
  | some shown => simp [printed, entry, item, Item.ofSignature, text, described, hashed, spaced]

theorem parse?_printed {mnemonic : Mnemonic}
    (remarks : ∀ shown ∈ mnemonic.description, IsRemark shown) :
    parse? (printed mnemonic.entry) = some mnemonic := by
  have isWord : IsWord mnemonic.name := mnemonic.name_fits.1
  have visible : EndsVisibly (printed mnemonic.entry).toList := by
    rw [toList_printed, ← List.append_assoc]
    cases described : mnemonic.description with
    | none => simpa [hashed, spaced] using Template.endsVisibly_of_isWord isWord
    | some shown =>
      rw [described] at remarks
      exact Template.endsVisibly_spaced remarks rfl _
  have trimmed : trim (printed mnemonic.entry).toList = (printed mnemonic.entry).toList := by
    rw [toList_printed] at visible ⊢
    rw [Template.trim_word_append isWord, dropBlankEnd_eq_self visible]
  obtain ⟨oneLine, described⟩ := Template.spaced_reads remarks
  have blank : IsBlankText (if mnemonic.description.isSome then [' '] else []) := by
    split <;> simp [IsBlankText, isBlank]
  have bare : spaced mnemonic.description = none →
      (if mnemonic.description.isSome then [' '] else []) = [] := by
    intro absent
    have undescribed : mnemonic.description = none := Option.map_eq_none_iff.mp absent
    rw [undescribed]
    rfl
  have isLine := IsLine.of_parts mnemonic.name_fits blank oneLine bare
  rw [parse?, trimmed, toList_printed]
  exact parseTrimmed?_of_isLine isLine described.symm

/-!
## A list of lines
-/

/-- The outcome of a rebuild: one symbol for each name, at the place of the first line with that
name and made from the last one, and a record for each line that is no mnemonic. -/
structure Collected (lines : List LooseText) (built : Rebuilt) : Prop where
  names : built.items.keys = ((ofLines lines).map text).eraseDups
  symbols : ∀ name, built.items.get? name =
    ((ofLines lines).reverse.find? (·.text == name)).map item
  size : built.items.size = ((ofLines lines).map text).eraseDups.length
  journal : built.journal = (lines.filter fun line => (parse? line.plain).isNone).map fun line =>
    ⟨.debug, .mnemonics, .text ("Skipped: Unexpected mnemonic format: " ++ line.quoted)⟩

theorem rejection_eq (line : LooseText) : rejection line =
    ⟨.debug, .mnemonics, .text ("Skipped: Unexpected mnemonic format: " ++ line.quoted)⟩ := by
  rw [rejection, Rejection.message, unexpectedForm, LooseText.text_append_text]
  rfl

theorem collected_rebuild (target : ItemMap) (lines : List LooseText) :
    Collected lines (rebuild target lines) := by
  have names : (rebuild target lines).items.keys = ((ofLines lines).map text).eraseDups := by
    rw [rebuild_eq]
    exact OrderedMap.keys_ofList_named text item _
  refine ⟨names, ?_, by rw [OrderedMap.size_eq_length_keys, names], ?_⟩
  · intro name
    rw [rebuild_eq]
    exact OrderedMap.get?_ofList_named text item _ name
  · rw [rebuild_eq]
    exact List.map_congr_left fun line _ => rejection_eq line

/-- Lines that were printed from mnemonics are read as these, one by one. -/
theorem ofLines_printed {mnemonics : List Mnemonic}
    (remarks : ∀ mnemonic ∈ mnemonics, ∀ shown ∈ mnemonic.description, IsRemark shown) :
    ofLines (mnemonics.map fun mnemonic => .text (printed mnemonic.entry)) = mnemonics := by
  induction mnemonics with
  | nil => rfl
  | cons mnemonic rest ih =>
    have first := parse?_printed (remarks mnemonic List.mem_cons_self)
    have others := ih fun other member => remarks other (List.mem_cons_of_mem mnemonic member)
    rw [ofLines, List.map_cons, List.filterMap_cons, LooseText.plain_text, first]
    exact congrArg (mnemonic :: ·) others

theorem filter_printed {mnemonics : List Mnemonic}
    (remarks : ∀ mnemonic ∈ mnemonics, ∀ shown ∈ mnemonic.description, IsRemark shown) :
    (mnemonics.map fun mnemonic => LooseText.text (printed mnemonic.entry)).filter
      (fun line => (parse? line.plain).isNone) = [] := by
  rw [List.filter_eq_nil_iff]
  intro line listed
  obtain ⟨mnemonic, member, rfl⟩ := List.mem_map.mp listed
  rw [LooseText.plain_text, parse?_printed (remarks mnemonic member)]
  exact Bool.false_ne_true

/-- The entries of a map that was rebuilt are those of mnemonics that were read. -/
theorem exists_mnemonics (target : ItemMap) (lines : List LooseText) :
    ∃ mnemonics : List Mnemonic, (rebuild target lines).items.toList = mnemonics.map entry ∧
      ∀ mnemonic ∈ mnemonics, ∀ shown ∈ mnemonic.description, IsRemark shown := by
  have listed : ∀ found ∈ (rebuild target lines).items.toList, ∃ mnemonic : Mnemonic,
      mnemonic.entry = found ∧ ∀ shown ∈ mnemonic.description, IsRemark shown := by
    intro found member
    rw [rebuild_eq] at member
    obtain ⟨mnemonic, inLines, same⟩ := List.mem_map.mp (OrderedMap.mem_of_mem_ofList member)
    obtain ⟨line, -, parsed⟩ := List.mem_filterMap.mp inLines
    exact ⟨mnemonic, same, isRemark_of_parse? parsed⟩
  generalize (rebuild target lines).items.toList = entries at listed ⊢
  induction entries with
  | nil => exact ⟨[], rfl, fun _ => nofun⟩
  | cons found rest ih =>
    obtain ⟨mnemonic, same, remark⟩ := listed found List.mem_cons_self
    obtain ⟨others, rest_eq, remarks⟩ := ih fun other member =>
      listed other (List.mem_cons_of_mem found member)
    refine ⟨mnemonic :: others, by rw [List.map_cons, same, rest_eq], fun other member => ?_⟩
    rcases List.mem_cons.mp member with rfl | later
    · exact remark
    · exact remarks other later

theorem rebuild_printed (target other : ItemMap) (lines : List LooseText) :
    rebuild other ((rebuild target lines).items.toList.map fun entry => .text (printed entry)) =
      ⟨(rebuild target lines).items, []⟩ := by
  obtain ⟨mnemonics, whole, remarks⟩ := exists_mnemonics target lines
  have distinct : ((mnemonics.map entry).map Prod.fst).Nodup :=
    whole ▸ (rebuild target lines).items.keys_nodup
  have items : OrderedMap.ofList (mnemonics.map entry) = (rebuild target lines).items := by
    apply OrderedMap.ext
    rw [OrderedMap.toList_ofList_of_nodup distinct, whole]
  have printedLines : (mnemonics.map entry).map (fun entry => LooseText.text (printed entry)) =
      mnemonics.map fun mnemonic => .text (printed mnemonic.entry) :=
    List.map_map
  rw [whole, rebuild_eq, printedLines, ofLines_printed remarks, filter_printed remarks, items]
  rfl

/-- A rebuild reads every list of texts to its end, and every symbol passes its check. What it gives
depends on the lines alone, and is given again by the lines that are printed from it. -/
theorem rebuild_collects_and_reprints (target : ItemMap) (lines : List LooseText) :
    ((Lines.texts lines).flaw? = none ∧ (Lines.texts lines).readable = lines) ∧
    (∀ mnemonic : Mnemonic,
      checkedItem mnemonic.text mnemonic.description = .valid mnemonic.item) ∧
    Collected lines (rebuild target lines) ∧
    ∀ other, rebuild other lines = rebuild target lines ∧
      rebuild other ((rebuild target lines).items.toList.map fun entry =>
        .text (printed entry)) = ⟨(rebuild target lines).items, []⟩ := by
  refine ⟨⟨rfl, rfl⟩, checkedItem_eq_valid, collected_rebuild target lines, fun other => ⟨?_, ?_⟩⟩
  · rw [rebuild_eq, rebuild_eq]
  · exact rebuild_printed target other lines

end SpecLexicon.Mnemonic
