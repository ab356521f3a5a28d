import SpecLexicon.Kind
import SpecLexicon.OrderedMap
import SpecLexicon.Text.Blank
import SpecLexicon.Text.Loose

/-!
# Symbols and partitions

One documented symbol, where it is defined, and its other call forms. The symbols of one source form
a partition: kind by kind, name by name, each in order. Lines and columns count from one, and no
signature is blank; both are part of the types.

Names and remarks are texts. Those of a value that a program hands over may be loose, and then so
are the symbols; a signature is never.
-/

set_option autoImplicit false

namespace SpecLexicon

/-- A place in the grammar description. Line and column count from one. -/
structure Position where
  offset : Int
  line : Nat
  column : Nat
  one_le_line : 1 ≤ line
  one_le_column : 1 ≤ column
deriving DecidableEq, Repr

/-- A stretch of the grammar description. Nothing ties its end to its start. -/
structure Span where
  start : Position
  finish : Position
deriving DecidableEq, Repr

/-- Another call form of a symbol. Its signature has at least one character. -/
structure Overload (τ : Type := String) where
  signature : String
  description : Option τ
  signature_ne_empty : signature ≠ ""
deriving DecidableEq, Repr

/-- A text with at least one character that is not blank. -/
def IsVisible (text : String) : Prop :=
  ¬ Text.IsBlankText text.toList

instance (text : String) : Decidable (IsVisible text) :=
  inferInstanceAs (Decidable (¬ Text.IsBlankText text.toList))

/-- A documented symbol. -/
structure Item (τ : Type := String) where
  signature : String
  description : Option τ
  comments : Option τ
  snippet : Option τ
  location : Option Span
  overloads : Option (List (Overload τ))
  signature_visible : IsVisible signature
deriving DecidableEq, Repr

def filled? (text : Option String) : Option String :=
  text.filter (· ≠ "")

/-- A symbol that consists of a signature, a description and an insertable body. -/
def Item.ofSignature (signature : String) (description snippet : Option String)
    (visible : IsVisible signature) : Item where
  signature
  description
  comments := none
  snippet
  location := none
  overloads := none
  signature_visible := visible

abbrev ItemMap (τ : Type := String) := OrderedMap τ (Item τ)

abbrev Partition (τ : Type := String) := OrderedMap Kind (ItemMap τ)

def Partition.entries {τ : Type} (partition : Partition τ) : List (Kind × τ × Item τ) :=
  partition.toList.flatMap fun (kind, items) =>
    items.toList.map fun (name, item) => (kind, name, item)

-- The sum is the one of the core library, whatever else is imported.
attribute [local instance (high)] Zero.ofOfNat0

def Partition.itemCount {τ : Type} (partition : Partition τ) : Nat :=
  (partition.toList.map fun entry => entry.2.size).sum

/-!
## Texts as loose texts
-/

def Overload.loose (overload : Overload) : Overload LooseText where
  signature := overload.signature
  description := overload.description.map .text
  signature_ne_empty := overload.signature_ne_empty

def Item.loose (item : Item) : Item LooseText where
  signature := item.signature
  description := item.description.map .text
  comments := item.comments.map .text
  snippet := item.snippet.map .text
  location := item.location
  overloads := item.overloads.map fun overloads => overloads.map Overload.loose
  signature_visible := item.signature_visible

def ItemMap.loose (items : ItemMap) : ItemMap LooseText :=
  items.rename LooseText.text (fun _ _ => LooseText.text.inj) Item.loose

def Partition.loose (partition : Partition) : Partition LooseText :=
  partition.mapValues fun _ items => ItemMap.loose items

end SpecLexicon
