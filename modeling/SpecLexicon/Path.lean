import SpecLexicon.Text.Split
import SpecLexicon.Text.Utf8

/-!
# Paths

The name of a file, in a normal form: single slashes, no components that stay in place, and no slash
at the end. Steps to the parent stay, since a link may make them matter. Exactly two leading slashes
are kept as they are; any other number of them counts as one. A name may hold halves of surrogate
pairs: some of them stand for a byte that is no character, with others there is no such file.
-/

set_option autoImplicit false

namespace SpecLexicon

/-- Where a path starts. -/
inductive Anchor where
  | here
  | root
  | doubleRoot
deriving DecidableEq, Repr

def Anchor.text : Anchor → String
  | here => ""
  | root => "/"
  | doubleRoot => "//"

/-- A path in normal form. -/
structure Path where
  anchor : Anchor
  components : List LooseText
deriving DecidableEq, Repr

/-- Why a path can be the name of no file: half of a surrogate pair in it has no byte, or there is a
null character in it. -/
inductive NameFault where
  | half (fault : Text.Utf8.EncodeFault)
  | null
deriving DecidableEq, Repr

def NameFault.message : NameFault → String
  | half fault => fault.message
  | null => "embedded null byte"

namespace Path

def anchorOf : List CodePoint → Anchor
  | .char '/' :: .char '/' :: .char '/' :: _ => .root
  | .char '/' :: .char '/' :: _ => .doubleRoot
  | .char '/' :: _ => .root
  | _ => .here

def ofText (text : LooseText) : Path where
  anchor := anchorOf text.points
  components := ((Text.splitAtMark (.char '/') text.points).map LooseText.ofPoints).filter
    fun component => component ≠ "" && component ≠ "."

def text (path : Path) : LooseText :=
  match path.anchor, path.components with
  | .here, [] => "."
  | anchor, components => .ofPoints (anchor.text.toList.map .char ++
      List.intercalate [.char '/'] (components.map LooseText.points))

/-- The bytes of the name are looked for first. -/
def nameFault? (path : Path) : Option NameFault :=
  match Text.Utf8.encodeNameFault? path.text with
  | some fault => some (.half fault)
  | none => if path.text.points.contains (.char '\x00') then some .null else none

end Path

/-- Where a file lies: in the place of the database that comes with the library, or at a path. -/
inductive Location where
  | bundled
  | file (path : Path)
deriving DecidableEq, Repr

/-- The name of a location. The place of the bundled database depends on where the library is, and
has a name of its own here. -/
def Location.text : Location → LooseText
  | bundled => "<DEFAULT_DB>"
  | file path => path.text

end SpecLexicon
