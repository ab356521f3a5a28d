import SpecLexicon.Database.Document
import SpecLexicon.Json.Message
import SpecLexicon.Settings.Value
import SpecLexicon.Uri

/-!
# What a registry refuses

The errors of the operations on a registry, and their wording.
-/

set_option autoImplicit false

namespace SpecLexicon.Registry

/-- The wording of a general error: its one remark, or all of its remarks in parentheses. -/
def remarksMessage : List Json → String
  | [] => ""
  | [remark] => remark.asMessage
  | remarks => "(" ++ ", ".intercalate (remarks.map Json.inMessage) ++ ")"

/-- Why an operation on a registry does not succeed. -/
inductive Fault where
  | needsEventLoop
  | noWindow
  | windowFailed (call : String)
  | unlistedKind (failure : Kind.Unlisted)
  | timeout (uri : String) (attempts : Int)
  | badUri (fault : Uri.Fault)
  | malformed (malformed : Database.Malformed)
  | unnameable (fault : NameFault)
  | invalidItem (defect : Schema.Defect)
  | flawedLines (flaw : LineFlaw)
  | notNumber (kind : String)
deriving DecidableEq

def timeoutMessage (uri attempts : String) : String :=
  "Source '" ++ uri ++ "' not available after " ++ attempts ++ " attempts"

def Fault.message : Fault → LooseText
  | needsEventLoop => "Changing the API reference database path requires a running event loop"
  | noWindow => "No editor window attached to the registry"
  | windowFailed call => call ++ " failed"
  | unlistedKind failure => failure.message
  | timeout uri attempts => timeoutMessage uri (toString attempts)
  | badUri fault => fault.message
  | malformed failure => failure.message
  | unnameable fault => fault.message
  | invalidItem defect => "invalid symbol: " ++ defect.cause.code
  | flawedLines flaw => flaw.message
  | notNumber kind => Count.notNumberMessage kind

def Fault.ofFetchError : Database.FetchError → Fault
  | .malformed failure => .malformed failure
  | .unnameable fault => .unnameable fault

end SpecLexicon.Registry
