import SpecLexicon.Proofs.OrderedMap
import SpecLexicon.Proofs.Template.Grammar

/-!
# The symbols of a list of mnemonics

A rebuild gives one symbol to each name among the lines and a record to each line that holds none.
The description of a symbol is the remark of its line: one line of text that shows something and
has no blanks around it.
-/

set_option autoImplicit false

namespace SpecLexicon

namespace Text

/-- A remark that was read shows something, has no blanks around it, and no line feed. -/
theorem of_readRemark? {text shown : List Char} (read : readRemark? text = some (some shown)) :
    shown ≠ [] ∧ trim shown = shown ∧ '\n' ∉ shown := by
  rw [readRemark?] at read
  split at read
  · cases read
  · rename_i plain
    rw [Option.some.injEq, Template.trimmed?_dropBlank, trimmed?] at read
    split at read
    · cases read
    · rename_i c rest kept
      cases read
      refine ⟨List.cons_ne_nil c rest, ?_, ?_⟩
      · rw [← kept, trim_trim]
      · intro member
        rw [← kept] at member
        exact plain (mem_of_mem_dropBlankEnd member)

end Text

/-- A description is one line of text that shows something and has no blanks around it. -/
def IsRemark (description : String) : Prop :=
  description ≠ "" ∧ Text.trim description.toList = description.toList ∧ '\n' ∉ description.toList

/-- What a fold over lines builds, if it looks at one line at a time. -/
theorem Rebuilt.foldl_eq {α : Type} {parse : LooseText → Option α} {entry : α → String × Item}
    {rejection : LooseText → Record} {add : Rebuilt → LooseText → Rebuilt}
    (adds : ∀ built line, add built line = match parse line with
      | some value =>
        { built with items := built.items.insert (entry value).1 (entry value).2 }
      | none => { built with journal := built.journal ++ [rejection line] })
    (lines : List LooseText) (built : Rebuilt) :
    lines.foldl add built = ⟨built.items.insertMany ((lines.filterMap parse).map entry),
      built.journal ++ (lines.filter fun line => (parse line).isNone).map rejection⟩ := by
  induction lines generalizing built with
  | nil => simp [OrderedMap.insertMany]
  | cons line rest ih =>
    rw [List.foldl_cons, ih, adds]
    cases parsed : parse line with
    | none => simp [parsed]
    | some value => simp [parsed, OrderedMap.insertMany]

namespace Mnemonic

theorem isRemark_of_parse? {text : String} {mnemonic : Mnemonic}
    (parsed : parse? text = some mnemonic) :
    ∀ description ∈ mnemonic.description, IsRemark description := by
  intro description described
  rw [parse?, parseTrimmed?] at parsed
  split at parsed
  · cases parsed
  · split at parsed
    · dsimp only at parsed
      split at parsed
      · cases parsed
        cases described
      · split at parsed
        · obtain ⟨shown, read, rfl⟩ := Option.map_eq_some_iff.mp parsed
          obtain ⟨remark, rfl, rfl⟩ := Option.map_eq_some_iff.mp described
          obtain ⟨visible, trimmed, plain⟩ := Text.of_readRemark? read
          refine ⟨?_, by rwa [String.toList_ofList], by rwa [String.toList_ofList]⟩
          simpa using visible
        · cases parsed
    · cases parsed

def ofLines (lines : List LooseText) : List Mnemonic :=
  lines.filterMap fun line => parse? line.plain

def entry (mnemonic : Mnemonic) : String × Item :=
  (mnemonic.text, mnemonic.item)

theorem rebuild_eq (target : ItemMap) (lines : List LooseText) :
    rebuild target lines = ⟨.ofList ((ofLines lines).map entry),
      (lines.filter fun line => (parse? line.plain).isNone).map rejection⟩ := by
  refine Rebuilt.foldl_eq (fun built line => ?_) lines ⟨target.clear, []⟩
  rw [addLine]
  cases parse? line.plain with
  | none => rfl
  | some mnemonic => rfl

/-- A symbol of motors or counters under its name. -/
structure IsEntry (entry : String × Item) : Prop where
  name : IsMnemonicName entry.1.toList
  signature : entry.2.signature = entry.1
  snippet : entry.2.snippet = none
  description : ∀ description ∈ entry.2.description, IsRemark description

theorem isEntry_of_mem_rebuild {target : ItemMap} {lines : List LooseText} {entry : String × Item}
    (member : entry ∈ (rebuild target lines).items.toList) : IsEntry entry := by
  rw [rebuild_eq] at member
  obtain ⟨mnemonic, listed, rfl⟩ := List.mem_map.mp (OrderedMap.mem_of_mem_ofList member)
  obtain ⟨line, _, parsed⟩ := List.mem_filterMap.mp listed
  refine ⟨?_, rfl, rfl, isRemark_of_parse? parsed⟩
  rw [Mnemonic.entry, Mnemonic.text, String.toList_ofList]
  exact mnemonic.name_fits

end Mnemonic

end SpecLexicon
