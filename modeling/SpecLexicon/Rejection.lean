import SpecLexicon.Text.Loose

/-!
# Rejected lines

A configuration line that has not the form it should have.
-/

set_option autoImplicit false

namespace SpecLexicon

/-- A line, and what it was meant to be. -/
structure Rejection where
  text : LooseText
  category : String
deriving DecidableEq, Repr

def unexpectedForm (category shown : String) : String :=
  "Unexpected " ++ category ++ " format: " ++ shown

def Rejection.message (rejection : Rejection) : String :=
  unexpectedForm rejection.category rejection.text.quoted

end SpecLexicon
