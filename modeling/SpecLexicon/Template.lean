import SpecLexicon.Text.Remark
import SpecLexicon.Text.Word

/-!
# Templates

A template is a line of the command language in which placeholders may stand, and which may end with
a remark. It is known by its leading word, its key. The body is the line up to the remark.
-/

set_option autoImplicit false

namespace SpecLexicon

/-- A template line: its leading word, its body with that word, and its remark. -/
structure Template where
  key : List Char
  body : List Char
  comment : Option String
  key_isWord : Text.IsWord key
  key_prefix : key <+: body

namespace Template

open Text

def splitBlank (text : List Char) : List Char × List Char :=
  (text.takeWhile isBlank, dropBlank text)

theorem append_splitBlank (text : List Char) : (splitBlank text).1 ++ (splitBlank text).2 = text :=
  List.takeWhile_append_dropWhile

/-- How much of the text behind the key belongs to the body, for a text of blanks followed by
`words`. One blank separates the key from the body, the body is not empty, and blanks at its end do
not belong to it. Before a remark a second blank counts as a body. -/
def bodyTail? (blanks words : List Char) (remark : Bool) : Option (List Char) :=
  match blanks, words with
  | [], _ => none
  | _ :: _, _ :: _ => some (dropBlankEnd (blanks ++ words))
  | _ :: _ :: _, [] => if remark then some blanks else none
  | [_], [] => none

def parseTrimmed? (line : List Char) : Option Template :=
  let (front, remark) := splitHash line
  match split : leadingWord? front with
  | none => none
  | some (key, rest) =>
    let (blanks, words) := splitBlank rest
    match bodyTail? blanks words remark.isSome, (remark.map readRemark?).getD (some none) with
    | some tail, some comment =>
      some ⟨key, key ++ tail, comment.map String.ofList, isWord_of_leadingWord? split,
        List.prefix_append key tail⟩
    | _, _ => none

def parse? (text : String) : Option Template :=
  parseTrimmed? (trim text.toList)

theorem exists_body_eq_cons (template : Template) :
    ∃ first rest, template.body = first :: rest ∧ isWordStart first = true := by
  obtain ⟨first, rest, same, start, _⟩ := template.key_isWord
  obtain ⟨tail, whole⟩ := template.key_prefix
  exact ⟨first, rest ++ tail, by rw [← whole, same, List.cons_append], start⟩

end Template

end SpecLexicon
