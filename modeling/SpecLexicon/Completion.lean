import SpecLexicon.Item

/-!
# Completion entries

What an editor offers for the symbols of a source. A symbol with a body inserts that body as a
snippet; any other symbol inserts its name.
-/

set_option autoImplicit false

namespace SpecLexicon

/-- An entry that an editor offers. Without an insert text it inserts its label. -/
structure Completion where
  label : String
  kind : Option CompletionKind
  detail : String
  documentation : Option String
  insertText : Option String
  isSnippet : Bool
deriving DecidableEq, Repr

namespace Completion

def ofItem (kind : Kind) (name : String) (item : Item) : Completion where
  label := name
  kind := kind.completion?
  detail := item.signature
  documentation := filled? item.description
  insertText := item.snippet
  isSnippet := (filled? item.snippet).isSome

def ofPartition (partition : Partition) : List Completion :=
  (Partition.entries partition).map fun (kind, name, item) => ofItem kind name item

end Completion

end SpecLexicon
