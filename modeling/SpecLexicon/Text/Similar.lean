/-!
# Similar words

How much two words have in common, and which words of a list are close to a word. The measure is the
number of characters in blocks that both words share: the longest common block, and the blocks on
either side of it, side by side.
-/

set_option autoImplicit false

namespace SpecLexicon.Text

/-- A stretch that two words share: where it starts in each, and how long it is. -/
structure Block where
  left : Nat
  right : Nat
  size : Nat
deriving DecidableEq, Repr

/-- The number of characters that two words have in common from the start. -/
def commonOpening : List Char → List Char → Nat
  | c :: left, d :: right => if c = d then commonOpening left right + 1 else 0
  | _, _ => 0

def Block.longer (first second : Block) : Block :=
  if first.size < second.size then second else first

/-- The blocks that start at a place of the left word, one for each place of the right word. -/
def blocksAt (left right : List Char) (start : Nat) : List Block :=
  (List.range right.length).map fun place =>
    ⟨start, place, commonOpening (left.drop start) (right.drop place)⟩

/-- The longest block of two words. Of equally long ones it is the first in the left word, and there
the first in the right word. -/
def longestBlock (left right : List Char) : Block :=
  ((List.range left.length).flatMap (blocksAt left right)).foldl Block.longer ⟨0, 0, 0⟩

def sharedCount (left right : List Char) : Nat :=
  match longestBlock left right with
  | ⟨start, place, size⟩ =>
    if 0 < size ∧ start + size ≤ left.length then
      sharedCount (left.take start) (right.take place) + size +
        sharedCount (left.drop (start + size)) (right.drop (place + size))
    else 0
  termination_by left.length

/-- Two words are similar when twice the shared characters are at least three fifths of all. The
shorter word bounds what is shared, so words of very different lengths need no comparison. -/
def isSimilar (left right : List Char) : Bool :=
  let total := left.length + right.length
  3 * total ≤ 10 * min left.length right.length && 3 * total ≤ 10 * sharedCount left right

/-- A word of a list, with the measure of what it has in common with another one. -/
structure Candidate where
  name : String
  shared : Nat
  total : Nat

/-- The first candidate is at least as close as the second. Of equally close ones the one that comes
later in the order of words is closer. -/
def Candidate.closer (first second : Candidate) : Bool :=
  if first.shared * second.total = second.shared * first.total then second.name ≤ first.name
  else second.shared * first.total ≤ first.shared * second.total

/-- The words of a list that are similar to a word: at most three, the closest ones, in the order of
words. -/
def similarWords (names : List String) (word : String) : List String :=
  let candidates := names.filterMap fun name =>
    if isSimilar name.toList word.toList then
      some (Candidate.mk name (sharedCount name.toList word.toList) (name.length + word.length))
    else none
  (((candidates.mergeSort Candidate.closer).take 3).map Candidate.name).mergeSort fun left right =>
    left ≤ right

end SpecLexicon.Text
