import SpecLexicon.Registry.Fault
import SpecLexicon.Rejection

/-!
# Errors made from values

Every error of the registry belongs to a kind, and a program may make one of any kind from values of
its own. A kind has names for the values that it takes; the values themselves are not checked, but
too few or too many of them make no error.
-/

set_option autoImplicit false

namespace SpecLexicon.Registry

/-- The kinds of errors. Every other kind is also a general one. -/
inductive ErrorKind where
  | general
  | malformedDatabase
  | malformedEntry
  | timeout
deriving DecidableEq, Repr

namespace ErrorKind

def all : List ErrorKind := [general, malformedDatabase, malformedEntry, timeout]

def name : ErrorKind → String
  | general => "RegistryError"
  | malformedDatabase => "MalformedDatabase"
  | malformedEntry => "MalformedConfigEntry"
  | timeout => "ReferenceTimeout"

/-- The names of the values that an error of a kind needs. -/
def required : ErrorKind → List String
  | general => []
  | malformedDatabase => ["message"]
  | malformedEntry => ["text", "category"]
  | timeout => ["uri", "attempts"]

/-- The names of the values that an error of a kind takes beside those. -/
def optional : ErrorKind → List String
  | malformedDatabase => ["source"]
  | _ => []

def named? (name : String) : Option ErrorKind :=
  all.find? fun kind => kind.name == name

end ErrorKind

/-- Why values make no error, or an error no text: there are too few or too many of them, or the
text would be a value of another kind. -/
inductive Misuse where
  | arguments (kind : ErrorKind) (given : Nat)
  | notText (kind : String)
deriving DecidableEq, Repr

def missingMessage (names : List String) : String :=
  let count := if names.length = 1 then "1 required positional argument: "
    else toString names.length ++ " required positional arguments: "
  "missing " ++ count ++ " and ".intercalate (names.map fun name => "'" ++ name ++ "'")

def surplusMessage (kind : ErrorKind) (given : Nat) : String :=
  let least := kind.required.length + 1
  let most := least + kind.optional.length
  let taken := if least = most then toString most
    else "from " ++ toString least ++ " to " ++ toString most
  "takes " ++ taken ++ " positional arguments but " ++ toString (given + 1) ++ " were given"

def Misuse.message : Misuse → String
  | arguments kind given =>
    let missing := kind.required.drop given
    kind.name ++ ".__init__() " ++
      if missing = [] then surplusMessage kind given else missingMessage missing
  | notText kind => "__str__ returned non-string (type " ++ kind ++ ")"

/-- An error that is made from values. -/
inductive ErrorValue where
  | general (remarks : List Json)
  | malformedDatabase (message source : Json)
  | malformedEntry (text category : Json)
  | timeout (uri attempts : Json)
deriving Repr

namespace ErrorValue

/-- Make an error from values in their order. A database without a source has an empty one. -/
def make (kind : ErrorKind) (values : List Json) : Except Misuse ErrorValue :=
  match kind, values with
  | .general, remarks => .ok (general remarks)
  | .malformedDatabase, [message] => .ok (malformedDatabase message (.string (.text "")))
  | .malformedDatabase, [message, source] => .ok (malformedDatabase message source)
  | .malformedEntry, [text, category] => .ok (malformedEntry text category)
  | .timeout, [uri, attempts] => .ok (timeout uri attempts)
  | _, _ => .error (.arguments kind values.length)

def fields : ErrorValue → List (String × Json)
  | general _ => []
  | malformedDatabase message source => [("message", message), ("source", source)]
  | malformedEntry text category => [("text", text), ("category", category)]
  | timeout uri attempts => [("uri", uri), ("attempts", attempts)]

/-- The text of an error. The message of a database without a source is its whole text, and has to
be one. -/
def text : ErrorValue → Except Misuse LooseText
  | general remarks => .ok (.text (remarksMessage remarks))
  | malformedDatabase message source =>
    if source.isVoid then
      match message.text? with
      | some text => .ok text
      | none => .error (.notText message.kindName)
    else .ok (Database.withSource message.asMessage source.asMessage)
  | malformedEntry text category =>
    .ok (.text (unexpectedForm category.asMessage text.inMessage))
  | timeout uri attempts => .ok (.text (timeoutMessage uri.asMessage attempts.asMessage))

end ErrorValue

end SpecLexicon.Registry
