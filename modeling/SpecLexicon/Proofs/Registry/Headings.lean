import SpecLexicon.Proofs.Manual.Headings
import SpecLexicon.Proofs.Registry.Contents
import SpecLexicon.Proofs.Template.Plain

/-!
# Headings of configured manuals

Whatever stands in the lines of a configuration, the manuals of its motors, counters and snippets
have the title, one section and one heading per symbol. Names are words, signatures have no hash,
and what a remark says stands behind a signature on the same line.
-/

set_option autoImplicit false

namespace SpecLexicon

open Manual (IsPlain)

theorem Text.IsWord.not_mem {word : List Char} (isWord : IsWord word) {c : Char}
    (outside : Text.isWordPart c = false) : c ∉ word := by
  intro member
  rw [isWord.isWordPart c member] at outside
  cases outside

theorem Mnemonic.isPlain_of_mem_rebuild {target : ItemMap} {lines : List LooseText}
    {symbol : String × Item} (member : symbol ∈ (rebuild target lines).items.toList) :
    IsPlain symbol := by
  rw [rebuild_eq] at member
  obtain ⟨mnemonic, listed, rfl⟩ := List.mem_map.mp (OrderedMap.mem_of_mem_ofList member)
  obtain ⟨line, _, parsed⟩ := List.mem_filterMap.mp listed
  have isWord : Text.IsWord mnemonic.text.toList := by
    rw [text, String.toList_ofList]
    exact mnemonic.name_fits.1
  refine ⟨isWord.not_mem (by decide), isWord.not_mem (by decide), ?_, rfl, rfl⟩
  intro description described
  exact (isRemark_of_parse? parsed description described).2.2

theorem Template.isPlain_of_mem_rebuild {motors counters : List String} {target : ItemMap}
    {lines : List LooseText} {symbol : String × Item}
    (member : symbol ∈ (rebuild motors counters target lines).items.toList) : IsPlain symbol := by
  rw [rebuild_eq] at member
  obtain ⟨template, listed, rfl⟩ := List.mem_map.mp (OrderedMap.mem_of_mem_ofList member)
  obtain ⟨line, _, parsed⟩ := List.mem_filterMap.mp listed
  have isWord : Text.IsWord template.name.toList := by
    rw [name, String.toList_ofList]
    exact template.key_isWord
  refine ⟨isWord.not_mem (by decide), ?_,
    fun comment shown => (isRemark_of_parse? parsed comment shown).2.2, rfl, rfl⟩
  change '#' ∉ (String.ofList (signature template.body)).toList
  rw [String.toList_ofList]
  exact not_mem_signature (by decide) (hash_not_mem_body parsed)

namespace Registry

/-- The sources that are built from a configuration, and the kinds of their symbols. -/
def configuredSources : List (String × Kind) :=
  [(Source.motor, .member), (Source.counter, .member), (Source.snippet, .snippet)]

theorem createChecked_eq_error_iff {settings : Settings} (proper : settings.IsProper)
    {window : Option Window} {fault : Fault} :
    createChecked settings window = .error fault ↔ fault = unfitTemplate ∧
      ∃ line ∈ settings.templates.readable, Template.isFit line = false := by
  have faults : creationFault? settings = templateFault? (.texts settings.templates.readable) := by
    unfold creationFault?
    rw [proper.motors.eq_texts, proper.counters.eq_texts, proper.templates.eq_texts]
    simp
  rw [← Template.templateFault?_texts_eq_some_iff, ← faults, createChecked]
  cases creationFault? settings with
  | none => simp
  | some found => simp

/-- A source has a manual with the title, one section for the only kind of the source, and one
heading for each of its names, in order. No other line of it starts with a hash. -/
def IsHeaded (registry : Registry) (source : String × Kind) : Prop :=
  ∃ items label text, registry.store.HoldsOnly source.1 source.2 items ∧
    source.2.label? = some label ∧ registry.documentText source.1 false = .ok (some text) ∧
    Manual.headings text =
      Manual.titleLine :: ("## " ++ label) :: items.keys.map fun name => "### " ++ name

theorem Layout.isHeaded {registry : Registry} (layout : Layout registry.store) {uri : String}
    {kind : Kind} {label : String} {items : ItemMap} (system : uri ∈ systemSources)
    (database : uri ≠ Source.builtIn) (document : uri ≠ Source.activeDocument)
    (initial : initialStore.kinds? uri = some [kind]) (labeled : kind.label? = some label)
    (held : registry.store.map? uri kind = some items)
    (plain : ∀ symbol ∈ items.toList, IsPlain symbol) : IsHeaded registry (uri, kind) := by
  obtain ⟨found, ⟨partition, stored, whole⟩, present⟩ :=
    layout.exists_holdsOnly initial database document
  obtain rfl := Option.some.inj (held.symm.trans present)
  have text : registry.documentText uri false = .ok (some (Manual.document none partition)) := by
    rw [documentText_source system stored, shown_of_isListed (layout.isListed stored document)]
  have oneLine : '\n' ∉ label.toList := fun member =>
    comesThrough_label labeled '\n' member (by decide)
  exact ⟨items, label, _, ⟨partition, stored, whole⟩, labeled, text,
    Manual.headings_document whole labeled oneLine rfl plain⟩

/-- Proper settings make a registry unless a template among them is unfit, and then the manual of
each source that is built from them has these headings and no other, whatever the lines of the
settings are. -/
theorem created_headings {settings : Settings} (proper : settings.IsProper)
    (window : Option Window) :
    (∀ fault, createChecked settings window = .error fault ↔ fault = unfitTemplate ∧
      ∃ line ∈ settings.templates.readable, Template.isFit line = false) ∧
    ∀ registry, createChecked settings window = .ok registry →
      ∀ source ∈ configuredSources, IsHeaded registry source := by
  refine ⟨fun fault => createChecked_eq_error_iff proper, ?_⟩
  intro registry created
  obtain rfl := eq_create_of_createChecked created
  have layout := layout_create settings window
  have settled := settled_create proper window
  intro source member
  simp only [configuredSources, List.mem_cons, List.not_mem_nil, or_false] at member
  obtain same | same | same := member
  · subst same
    exact layout.isHeaded (by decide) (by decide) (by decide) (by decide) rfl
      (settled.holds.mnemonics _ (by decide)) fun _ => Mnemonic.isPlain_of_mem_rebuild
  · subst same
    exact layout.isHeaded (by decide) (by decide) (by decide) (by decide) rfl
      (settled.holds.mnemonics _ (by decide)) fun _ => Mnemonic.isPlain_of_mem_rebuild
  · subst same
    exact layout.isHeaded (by decide) (by decide) (by decide) (by decide) rfl
      settled.current fun _ => Template.isPlain_of_mem_rebuild

/-- Template lines with hashes behind line feeds, in bodies and in remarks. -/
def forgingTemplates : List String :=
  ["go a\n# forged", "run x\n\n%MOT # ### forged"]

def forgingSettings : Settings :=
  { Settings.standard with
    motors := .texts [.text "th # # theta", .text "\n# forged", .text "tth #\n## forged"]
    templates := .texts (forgingTemplates.map .text) }

theorem headings_of_forging :
    forgingSettings.IsProper ∧ ∃ registry, createChecked forgingSettings none = .ok registry ∧
      IsHeaded registry (Source.motor, .member) ∧ IsHeaded registry (Source.snippet, .snippet) := by
  have proper : forgingSettings.IsProper := ⟨⟨_, rfl⟩, ⟨_, rfl⟩, ⟨_, rfl⟩⟩
  obtain ⟨faults, headed⟩ := created_headings proper none
  cases made : createChecked forgingSettings none with
  | ok registry =>
    have motors := headed registry made (Source.motor, .member) (by decide)
    have snippets := headed registry made (Source.snippet, .snippet) (by decide)
    exact ⟨proper, registry, rfl, motors, snippets⟩
  | error fault =>
    obtain ⟨_, line, member, unfit⟩ := (faults fault).mp made
    obtain ⟨text, _, rfl⟩ := List.mem_map.mp member
    rw [Template.isFit_text] at unfit
    cases unfit

end Registry

end SpecLexicon
