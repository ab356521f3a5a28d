import SpecLexicon.Text.Split

/-!
# Bracketed hosts

What may stand in the brackets of an authority: an address of version six, or of a later version
under its own mark. An address of version six has eight groups of up to four hexadecimal digits; two
colons stand for at least one group of zeros, once; the last two groups may be written as an address
of version four; and a zone may follow behind a percent sign.
-/

set_option autoImplicit false

namespace SpecLexicon.Uri

open Text

def isHexDigit (c : Char) : Bool :=
  c.isDigit || ('a' ≤ c && c ≤ 'f') || ('A' ≤ c && c ≤ 'F')

def isOctet (part : List Char) : Bool :=
  match part with
  | [a] => a.isDigit
  | [a, b] => a.isDigit && a != '0' && b.isDigit
  | [a, b, c] =>
    a.isDigit && a != '0' && b.isDigit && c.isDigit &&
      (a.toNat - 48) * 100 + (b.toNat - 48) * 10 + (c.toNat - 48) ≤ 255
  | _ => false

def isVersion4 (host : List Char) : Bool :=
  let parts := splitAtMark '.' host
  parts.length == 4 && parts.all isOctet

def isGroup (part : List Char) : Bool :=
  !part.isEmpty && part.length ≤ 4 && part.all isHexDigit

/-- How many groups the parts between colons amount to. An address of version four counts for two
and may only come last. -/
def countGroups? : List (List Char) → Option Nat
  | [] => some 0
  | [part] => if isGroup part then some 1 else if isVersion4 part then some 2 else none
  | part :: rest => if isGroup part then (countGroups? rest).map (· + 1) else none

def cutAtGap? : List Char → Option (List Char × List Char)
  | ':' :: ':' :: rest => some ([], rest)
  | c :: rest => (cutAtGap? rest).map fun (front, back) => (c :: front, back)
  | [] => none

/-- The parts between colons; none at all in an empty text. -/
def groupParts (text : List Char) : List (List Char) :=
  match text with
  | [] => []
  | _ => splitAtMark ':' text

/-- The groups of an address of version six, without a zone. -/
def hasVersion6Groups (text : List Char) : Bool :=
  match cutAtGap? text with
  | none => countGroups? (splitAtMark ':' text) == some 8
  | some (front, back) =>
    match (groupParts front).all isGroup, countGroups? (groupParts back) with
    | true, some count => (groupParts front).length + count ≤ 7
    | _, _ => false

/-- An address of version six. A zone is not empty and holds no further percent sign. -/
def isVersion6 (host : List Char) : Bool :=
  match cutAtMark '%' host with
  | (address, none) => hasVersion6Groups address
  | (address, some zone) => !zone.isEmpty && !zone.contains '%' && hasVersion6Groups address

/-- An address of a later version: the version in hexadecimal digits, a point, and any text. -/
def isLaterVersion (host : List Char) : Bool :=
  match cutAtMark '.' (host.drop 1) with
  | (version, some (_ :: _)) => !version.isEmpty && version.all isHexDigit
  | _ => false

end SpecLexicon.Uri
