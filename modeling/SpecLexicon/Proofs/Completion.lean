import Mathlib.Data.List.Forall2
import SpecLexicon.Completion
import SpecLexicon.Proofs.Database.Acceptance
import SpecLexicon.Proofs.Partition
import SpecLexicon.Proofs.Template.Symbols

/-!
# What completion entries insert

A partition has one completion entry per symbol, in order. An entry inserts the body of its symbol
as a snippet, or its own label if there is none. A body without characters breaks this: it counts as
a body where the insert text is chosen and as none where the format is, so nothing is inserted. What
is built from lines has no such body, but a database may have one.
-/

set_option autoImplicit false

namespace SpecLexicon

namespace Completion

/-- What an editor writes for an entry. Without an insert text it writes the label. -/
def inserted (entry : Completion) : String :=
  entry.insertText.getD entry.label

/-- The entry of a symbol, apart from what it inserts. -/
structure Shows (symbol : Kind × String × Item) (entry : Completion) : Prop where
  label : entry.label = symbol.2.1
  kind : entry.kind = symbol.1.completion?
  detail : entry.detail = symbol.2.2.signature
  documentation : entry.documentation = filled? symbol.2.2.description

/-- An entry offers a body with a character in it as a snippet. Otherwise it has neither an insert
text nor a format, and leaves it to the editor to insert the label. -/
inductive Offers (body? : Option String) (entry : Completion) : Prop where
  | body {body : String} : body? = some body → body ≠ "" → entry.insertText = some body →
      entry.isSnippet = true → Offers body? entry
  | label : (∀ body ∈ body?, body = "") → entry.insertText = none → entry.isSnippet = false →
      Offers body? entry

theorem shows_ofItem (kind : Kind) (name : String) (item : Item) :
    Shows (kind, name, item) (ofItem kind name item) :=
  ⟨rfl, rfl, rfl, rfl⟩

/-- The insert text and the format agree unless the body has no character. -/
theorem offers_ofItem_iff {kind : Kind} {name : String} {item : Item} :
    Offers item.snippet (ofItem kind name item) ↔ item.snippet ≠ some "" := by
  constructor
  · rintro (⟨given, filled, -, -⟩ | ⟨-, absent, -⟩) empty
    · exact filled (Option.some.inj (given.symm.trans empty))
    · exact absurd (empty.symm.trans absent) (Option.some_ne_none _)
  · intro shown
    cases given : item.snippet with
    | none =>
      refine .label (fun body member => absurd member (Option.not_mem_none body)) given ?_
      simp [ofItem, given, filled?]
    | some body =>
      have filled : body ≠ "" := by
        rintro rfl
        exact shown given
      refine .body rfl filled given ?_
      simp [ofItem, given, filled?, filled]

section Partition

variable (partition : Partition)

/-- What holds of the entry of every symbol holds along a partition. -/
theorem forall₂_ofPartition {relation : Kind × String × Item → Completion → Prop}
    (single : ∀ kind name item, relation (kind, name, item) (ofItem kind name item)) :
    List.Forall₂ relation (Partition.entries partition) (ofPartition partition) := by
  rw [ofPartition, List.forall₂_map_right_iff, List.forall₂_same]
  exact fun symbol _ => single symbol.1 symbol.2.1 symbol.2.2

theorem forall₂_offers_iff :
    List.Forall₂ (fun symbol => Offers symbol.2.2.snippet) (Partition.entries partition)
        (ofPartition partition) ↔
      ∀ symbol ∈ Partition.entries partition, symbol.2.2.snippet ≠ some "" := by
  rw [ofPartition, List.forall₂_map_right_iff, List.forall₂_same]
  exact forall₂_congr fun _ _ => offers_ofItem_iff

end Partition

end Completion

/-- No symbol has a body without characters. -/
def ItemMap.HasNoEmptyBody (items : ItemMap) : Prop :=
  ∀ entry ∈ items.toList, entry.2.snippet ≠ some ""

theorem Mnemonic.hasNoEmptyBody_rebuild (target : ItemMap) (lines : List LooseText) :
    (rebuild target lines).items.HasNoEmptyBody := by
  intro entry member
  rw [(isEntry_of_mem_rebuild member).snippet]
  exact Option.some_ne_none "" ∘ Eq.symm

theorem Template.hasNoEmptyBody_rebuild (motors counters : List String) (target : ItemMap)
    (lines : List LooseText) :
    (rebuild motors counters target lines).items.HasNoEmptyBody := by
  intro entry member empty
  obtain ⟨body, given, blank, rest, -, whole⟩ := (isEntry_of_mem_rebuild member).snippet
  obtain rfl := Option.some.inj (given.symm.trans empty)
  simp at whole

namespace Completion

/-- The entries of a partition are its symbols, each once, kind by kind and name by name. An entry
inserts the body of its symbol, as a snippet if it has characters, and else the name. It is at odds
with itself exactly if there is a body without characters, and then nothing is inserted. What is
built from lines has no such body. -/
theorem entries_of_symbols (partition : Partition) :
    let symbols := Partition.entries partition
    let entries := ofPartition partition
    (symbols.map Partition.place = Partition.places partition ∧
      (Partition.places partition).Nodup ∧
      ∀ kind name item, (kind, name, item) ∈ symbols ↔
        ∃ items, partition.get? kind = some items ∧ items.get? name = some item) ∧
    List.Forall₂ Shows symbols entries ∧
    List.Forall₂ (fun symbol entry => entry.inserted = symbol.2.2.snippet.getD symbol.2.1 ∧
      (Offers symbol.2.2.snippet entry ↔ symbol.2.2.snippet ≠ some "")) symbols entries ∧
    (List.Forall₂ (fun symbol => Offers symbol.2.2.snippet) symbols entries ↔
      ∀ symbol ∈ symbols, symbol.2.2.snippet ≠ some "") ∧
    (∀ target lines, (Mnemonic.rebuild target lines).items.HasNoEmptyBody) ∧
    ∀ motors counters target lines,
      (Template.rebuild motors counters target lines).items.HasNoEmptyBody := by
  refine ⟨⟨Partition.map_place_entries partition, Partition.nodup_places partition,
    fun kind name item => Partition.mem_entries_iff⟩, ?_, ?_, forall₂_offers_iff partition,
    Mnemonic.hasNoEmptyBody_rebuild, Template.hasNoEmptyBody_rebuild⟩
  · exact forall₂_ofPartition partition shows_ofItem
  · exact forall₂_ofPartition partition fun kind name item => ⟨rfl, offers_ofItem_iff⟩

/-- A symbol with a body, and one of the same name without. -/
def twofoldPartition : Partition :=
  .ofList [(.function, .ofList [("go", .ofSignature "go()" none none (by decide))]),
    (.snippet, .ofList [("go", .ofSignature "go far" none (some "go $\x7b1:far\x7d") (by decide))])]

/-- A name under two kinds has two entries, of which one inserts the name. -/
theorem offers_of_twofold :
    (∀ symbol ∈ Partition.entries twofoldPartition, symbol.2.2.snippet ≠ some "") ∧
      List.Forall₂ (fun symbol => Offers symbol.2.2.snippet) (Partition.entries twofoldPartition)
        (ofPartition twofoldPartition) := by
  have filled : ∀ symbol ∈ Partition.entries twofoldPartition, symbol.2.2.snippet ≠ some "" := by
    decide
  exact ⟨filled, (entries_of_symbols twofoldPartition).2.2.2.1.mpr filled⟩

/-- A constant whose body has no character. -/
def emptyBodyItem : Item where
  signature := "y"
  description := none
  comments := none
  snippet := some ""
  location := none
  overloads := none
  signature_visible := by decide

def emptyBodyPartition : Partition :=
  Partition.ofGroups (.ofList [("x", emptyBodyItem)]) .empty .empty .empty .empty

/-- A database with such a body is loaded, and its completion entry inserts nothing. -/
theorem nothing_inserted_for_empty_body :
    Database.load (.value (.object (Database.constantFields
        [(.text "signature", .string (.text "y")), (.text "snippet", .string (.text ""))]))) "" =
      .ok emptyBodyPartition.loose ∧
    ofPartition emptyBodyPartition = [⟨"x", some .constant, "y", none, some "", false⟩] ∧
    ¬List.Forall₂ (fun symbol => Offers symbol.2.2.snippet) (Partition.entries emptyBodyPartition)
      (ofPartition emptyBodyPartition) ∧
    (ofPartition emptyBodyPartition).map inserted = [""] := by
  refine ⟨rfl, rfl, ?_, rfl⟩
  rw [forall₂_offers_iff]
  decide

end Completion

end SpecLexicon
