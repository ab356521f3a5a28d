import SpecLexicon.Item

/-!
# The reference manual

The manual of a source is a Markdown text: a title and a citation, then one section per kind, and in
it one entry per symbol. A query keeps the one section whose label it is.
-/

set_option autoImplicit false

namespace SpecLexicon.Manual

def header : String := "# __spec__ Reference Manual\n\n"

def citation : String :=
  "The contents of this page are cited from the _Reference Manual_ section in " ++
    "[PDF version](https://www.certif.com/downloads/css_docs/spec_man.pdf) of the " ++
    "_User manual and Tutorials_, written by " ++
    "[Certified Scientific Software](https://www.certif.com/), " ++
    "except where otherwise noted.\n\n"

/-- The line of a signature, with its description if there is one that is not empty. -/
def signatureLine (signature : String) (description : Option String) : String :=
  match filled? description with
  | none => "`" ++ signature ++ "`\n\n"
  | some shown => "`" ++ signature ++ "` — " ++ shown ++ "\n\n"

def commentsParagraph (comments : Option String) : String :=
  match filled? comments with
  | none => ""
  | some shown => shown ++ "\n\n"

/-- The entry of a symbol: its heading, its signature, its comments, and its other call forms. -/
def entry (name : String) (item : Item) : String :=
  "### " ++ name ++ "\n\n" ++ signatureLine item.signature item.description ++
    commentsParagraph item.comments ++
    String.join ((item.overloads.getD []).map fun overload =>
      signatureLine overload.signature overload.description)

def kindSection (label : String) (items : ItemMap) : String :=
  "## " ++ label ++ "\n\n" ++ String.join (items.toList.map fun (name, item) => entry name item)

/-- A query selects the section with that label; an empty or absent query selects every section. -/
def selects (query : Option String) (label : String) : Bool :=
  match filled? query with
  | none => true
  | some wanted => wanted == label

/-- The selected sections. Every kind needs a label, whether it is selected or not. -/
def sections (query : Option String) : List (Kind × ItemMap) → Except Kind.Unlisted String
  | [] => .ok ""
  | (kind, items) :: rest => do
    let label ← kind.label
    let others ← sections query rest
    pure ((if selects query label then kindSection label items else "") ++ others)

def render (partition : Partition) (query : Option String) : Except Kind.Unlisted String :=
  (sections query partition.toList).map fun body => header ++ citation ++ body

end SpecLexicon.Manual
