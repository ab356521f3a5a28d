import SpecLexicon.Text.Substitution

/-!
# Control sequences

Text that steers a terminal: an escape character and an opening bracket, parameters, and a final
character that names the order. Where no terminal reads the text, the sequences are left out.
-/

set_option autoImplicit false

namespace SpecLexicon.Text

def isParameterPart (c : Char) : Bool :=
  '0' ≤ c && c ≤ '?'

def isIntermediate (c : Char) : Bool :=
  ' ' ≤ c && c ≤ '/'

def isSequenceEnd (c : Char) : Bool :=
  '@' ≤ c && c ≤ '~'

def controlSequence : Recognizer := fun text =>
  match stripOpening? ['\x1b', '['] text with
  | none => none
  | some inner =>
    match (inner.dropWhile isParameterPart).dropWhile isIntermediate with
    | c :: rest => if isSequenceEnd c then some ([], rest) else none
    | [] => none

def withoutControlSequences (text : String) : String :=
  String.ofList (substitute controlSequence text.toList)

end SpecLexicon.Text
