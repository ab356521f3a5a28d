import SpecLexicon.Item

/-!
# Outlines

The symbols of a source that have a place in the grammar description, as an editor lists them. An
editor counts lines and characters from zero and has a largest number for both.
-/

set_option autoImplicit false

namespace SpecLexicon.Outline

/-- The largest line or character that an editor takes. -/
def largest : Nat := 2147483647

/-- A place as an editor counts it. -/
structure Place where
  line : Nat
  character : Nat
  line_le : line ≤ largest
  character_le : character ≤ largest
deriving DecidableEq, Repr

/-- The two coordinates of a place. -/
inductive Coordinate where
  | line
  | character
deriving DecidableEq, Repr

/-- A number that is too large for an editor. -/
structure OutOfRange where
  coordinate : Coordinate
  value : Nat
deriving DecidableEq, Repr

def OutOfRange.message (failure : OutOfRange) : String :=
  let name := match failure.coordinate with
    | .line => "line"
    | .character => "character"
  "Position." ++ name ++ " should be in range [0:" ++ toString largest ++ "], but was " ++
    toString failure.value ++ "."

def Place.ofPosition (position : Position) : Except OutOfRange Place :=
  if line_le : position.line - 1 ≤ largest then
    if character_le : position.column - 1 ≤ largest then
      .ok ⟨position.line - 1, position.column - 1, line_le, character_le⟩
    else .error ⟨.character, position.column - 1⟩
  else .error ⟨.line, position.line - 1⟩

/-- A stretch between two places. -/
structure Range where
  start : Place
  finish : Place
deriving DecidableEq, Repr

def Range.ofSpan (span : Span) : Except OutOfRange Range := do
  let start ← Place.ofPosition span.start
  let finish ← Place.ofPosition span.finish
  pure ⟨start, finish⟩

/-- A line of an outline. The selection is the stretch that an editor goes to. -/
structure Entry (τ : Type := String) where
  name : τ
  detail : Option τ
  kind : SymbolKind
  range : Range
  selection : Range
deriving DecidableEq, Repr

variable {τ : Type}

/-- The entry of a symbol; none for a symbol without a place. -/
def Entry.ofItem? (kind : Kind) (name : τ) (item : Item τ) :
    Except OutOfRange (Option (Entry τ)) :=
  match item.location with
  | none => .ok none
  | some span =>
    (Range.ofSpan span).map fun range =>
      some ⟨name, item.description, kind.symbol, range, range⟩

/-- The entries of symbols, in their order. The first place that is out of range is an error. -/
def ofEntries : List (Kind × τ × Item τ) → Except OutOfRange (List (Entry τ))
  | [] => .ok []
  | (kind, name, item) :: rest => do
    let shown ← Entry.ofItem? kind name item
    let others ← ofEntries rest
    pure (shown.toList ++ others)

def ofPartition (partition : Partition τ) : Except OutOfRange (List (Entry τ)) :=
  ofEntries (Partition.entries partition)

end SpecLexicon.Outline
