import SpecLexicon.Text.Printable

/-!
# Quoted text

The form in which a message shows a piece of user text. The quote is an apostrophe, unless the
text holds apostrophes and no double quote. The quote and the backslash are escaped, line feed,
carriage return and tab have short escapes, and every other character without a visible form is
written by its code point in two, four or eight lowercase hexadecimal digits.
-/

set_option autoImplicit false

namespace SpecLexicon.Text

/-- The lowercase hexadecimal digits of a number, padded with zeros on the left to `width`. -/
def hexDigits (width value : Nat) : List Char :=
  let digits := Nat.toDigits 16 value
  List.replicate (width - digits.length) '0' ++ digits

namespace Quoted

/-- The quote around a text: a double quote only where that saves escaping an apostrophe. -/
def quoteFor (text : List Char) : Char :=
  if text.contains '\'' && !text.contains '"' then '"' else '\''

/-- The written form of one character between two `quote`s. -/
def encodeChar (quote c : Char) : List Char :=
  if c = quote ∨ c = '\\' then ['\\', c]
  else if c = '\n' then ['\\', 'n']
  else if c = '\r' then ['\\', 'r']
  else if c = '\t' then ['\\', 't']
  else if isPrintable c then [c]
  else if c.toNat < 0x100 then '\\' :: 'x' :: hexDigits 2 c.toNat
  else if c.toNat < 0x10000 then '\\' :: 'u' :: hexDigits 4 c.toNat
  else '\\' :: 'U' :: hexDigits 8 c.toNat

def encode (text : List Char) : List Char :=
  let quote := quoteFor text
  quote :: text.flatMap (encodeChar quote) ++ [quote]

end Quoted

def quoted (text : String) : String :=
  String.ofList (Quoted.encode text.toList)

end SpecLexicon.Text
