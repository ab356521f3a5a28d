import SpecLexicon.Schema.Item

/-!
# Database documents

A database document is an object with five groups of named symbols. The groups are checked in the
order in which the document format lists them, and stand in the partition in the order of the
manual, which has macros before functions. Every entry of a group is checked, even where a later
entry has the same name and takes its place.
-/

set_option autoImplicit false

namespace SpecLexicon

open Schema

variable {τ : Type} [TextForm τ]

/-- Read a symbol and its name. A defect tells the name as it is shown. -/
def ItemMap.entryOfJson (field : LooseText × Json) : Checked (τ × Item τ) :=
  ((TextForm.read field.1).both (Item.ofJson field.2)).within (.key field.1.shown)

section Read

variable [DecidableEq τ]

/-- Read the symbols of a group. -/
def ItemMap.ofJson : Json → Checked (ItemMap τ)
  | .object fields => (Checked.all entryOfJson fields).map .ofList
  | _ => .fault .notGroup

def Partition.ofJson : Json → Checked (Partition τ) :=
  model fun fields =>
    ((required "constants" ItemMap.ofJson fields).both
      ((required "variables" ItemMap.ofJson fields).both
        ((required "functions" ItemMap.ofJson fields).both
          ((required "macros" ItemMap.ofJson fields).both
            (required "keywords" ItemMap.ofJson fields))))).map
      fun (constantItems, variableItems, functionItems, macroItems, keywordItems) =>
        .ofList [(.constant, constantItems), (.variableDef, variableItems), (.macroDef, macroItems),
          (.function, functionItems), (.keyword, keywordItems)]

end Read

def ItemMap.toJson (items : ItemMap τ) : Json :=
  .object (items.toList.map fun (name, item) => (TextForm.write name, item.toJson))

/-- The group of a document that holds the symbols of a kind. -/
def Kind.group? : Kind → Option String
  | .constant => some "constants"
  | .variableDef => some "variables"
  | .macroDef => some "macros"
  | .function => some "functions"
  | .keyword => some "keywords"
  | .undefined => none
  | .snippet => none
  | .member => none
  | .unlisted _ _ => none

def Partition.toJson (partition : Partition τ) : Json :=
  .object (partition.toList.filterMap fun (kind, items) =>
    kind.group?.map fun name => (.text name, ItemMap.toJson items))

end SpecLexicon
