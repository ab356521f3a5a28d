import SpecLexicon.OrderedMap
import SpecLexicon.Text.Blank
import SpecLexicon.Text.Substitution

/-!
# Environment files

A file with one variable a line. A line may start with the word `export`; the name stands in front
of an equals sign and may be in apostrophes; the value is plain up to a comment, or in quotes, where
it may hold line feeds and escapes. A line of any other form is passed over and reported. In the
values, references to variables in braces are replaced.
-/

set_option autoImplicit false

namespace SpecLexicon.EnvironmentFile

open Text

/-- A name, and a value unless the line has no equals sign. -/
abbrev Binding := List Char × Option (List Char)

/-- The result of reading a part of a line: the part and the text behind it, or the text in front of
which no such part stands. -/
abbrev Reading (α : Type) : Type := Except (List Char) (α × List Char)

def isInlineBlank (c : Char) : Bool :=
  isBlank c && c != '\n'

def skipInline (text : List Char) : List Char :=
  text.dropWhile isInlineBlank

def skipLine (text : List Char) : List Char :=
  (text.dropWhile (· != '\n')).drop 1

def skipExport (text : List Char) : List Char :=
  match stripOpening? "export".toList text with
  | some (c :: rest) => if isInlineBlank c then skipInline rest else text
  | _ => text

def isNamePart (c : Char) : Bool :=
  c != '=' && c != '#' && !isBlank c

/-- Read a name. In front of a comment there is none. -/
def readName (text : List Char) : Reading (Option (List Char)) :=
  match text with
  | '#' :: _ => .ok (none, text)
  | '\'' :: rest =>
    match rest.takeWhile (· != '\''), rest.dropWhile (· != '\'') with
    | c :: name, _ :: behind => .ok (some (c :: name), behind)
    | _, _ => .error text
  | _ =>
    match text.takeWhile isNamePart with
    | [] => .error text
    | c :: name => .ok (some (c :: name), text.dropWhile isNamePart)

/-- The text up to the closing quote, and the text behind it. A backslash takes the character behind
it along, so that an escaped quote does not close. -/
def readQuoted? (quote : Char) : List Char → Option (List Char × List Char)
  | [] => none
  | '\\' :: c :: rest =>
    (readQuoted? quote rest).map fun (value, behind) => ('\\' :: c :: value, behind)
  | c :: rest =>
    if c = quote then some ([], rest)
    else (readQuoted? quote rest).map fun (value, behind) => (c :: value, behind)

def apostropheEscape? (c : Char) : Option Char :=
  if c = '\\' ∨ c = '\'' then some c else none

def quoteEscape? (c : Char) : Option Char :=
  if c = '\\' ∨ c = '\'' ∨ c = '"' then some c
  else if c = 'a' then some '\x07'
  else if c = 'b' then some '\x08'
  else if c = 'f' then some '\x0c'
  else if c = 'n' then some '\n'
  else if c = 'r' then some '\r'
  else if c = 't' then some '\t'
  else if c = 'v' then some '\x0b'
  else none

/-- An escape is a backslash and a character with a meaning. -/
def escape (meaning? : Char → Option Char) : Recognizer
  | '\\' :: c :: rest => (meaning? c).map fun shown => ([shown], rest)
  | _ => none

/-- The plain value of a line: up to a hash with a blank before it, without blanks at the end. -/
def plainValue : (afterBlank : Bool) → List Char → List Char
  | _, [] => []
  | afterBlank, c :: rest =>
    if afterBlank && c == '#' then [] else c :: plainValue (isBlank c) rest

/-- Read a value behind the equals sign and the blanks that follow it. -/
def readValue (afterBlank : Bool) (text : List Char) : Reading (List Char) :=
  match text with
  | '\'' :: rest =>
    match readQuoted? '\'' rest with
    | some (value, behind) => .ok (substitute (escape apostropheEscape?) value, behind)
    | none => .error text
  | '"' :: rest =>
    match readQuoted? '"' rest with
    | some (value, behind) => .ok (substitute (escape quoteEscape?) value, behind)
    | none => .error text
  | _ =>
    let plain := text.takeWhile (· != '\n')
    .ok (dropBlankEnd (plainValue afterBlank plain), text.drop plain.length)

def skipComment (text : List Char) : List Char :=
  match skipInline text with
  | '#' :: rest => rest.dropWhile (· != '\n')
  | _ => text

def readEnd (text : List Char) : Reading Unit :=
  match skipInline text with
  | [] => .ok ((), [])
  | c :: rest => if c = '\n' then .ok ((), rest) else .error text

def readAssignment (text : List Char) : Reading (Option (List Char)) :=
  match skipInline text with
  | '=' :: rest =>
    (readValue ((rest.head?.map isInlineBlank).getD false) (skipInline rest)).map
      fun (value, behind) => (some value, behind)
  | behind => .ok (none, behind)

def readLine (text : List Char) : Except (List Char) (Option Binding × List Char) := do
  let (name, afterName) ← readName (skipExport text)
  let (value, afterValue) ← readAssignment afterName
  let (_, behind) ← readEnd (skipComment afterValue)
  pure (name.map fun name => (name, value), behind)

/-- What a line of a file is. A line that is none of the others is known by its number. -/
inductive Statement where
  | assignment (binding : Binding)
  | comment
  | malformed (line : Nat)
deriving DecidableEq, Repr

def lineEnds (text : List Char) : Nat :=
  text.count '\n'

/-- The statements of a text whose first line has a number. The number of a statement is that of the
first line behind the statement before it. -/
def statementsFrom (line : Nat) (text : List Char) : List Statement :=
  match dropBlank text with
  | [] => []
  | c :: rest =>
    let (statement, behind) := match readLine (c :: rest) with
      | .ok (some binding, behind) => (Statement.assignment binding, behind)
      | .ok (none, behind) => (.comment, behind)
      | .error stuck => (.malformed line, skipLine stuck)
    if behind.length < text.length then
      statement :: statementsFrom (line + (lineEnds text - lineEnds behind)) behind
    else [statement]
  termination_by text.length

def unifyLineEnds : List Char → List Char
  | '\r' :: '\n' :: rest => '\n' :: unifyLineEnds rest
  | '\r' :: rest => '\n' :: unifyLineEnds rest
  | c :: rest => c :: unifyLineEnds rest
  | [] => []

def dropByteOrderMark : List Char → List Char
  | '\ufeff' :: rest => rest
  | text => text

def statements (text : List Char) : List Statement :=
  statementsFrom 1 (unifyLineEnds (dropByteOrderMark text))

def bindings (text : List Char) : List Binding :=
  (statements text).filterMap fun
    | .assignment binding => some binding
    | _ => none

def malformedLines (text : List Char) : List Nat :=
  (statements text).filterMap fun
    | .malformed line => some line
    | _ => none

/-- A reference to a variable: a dollar sign and in braces a name, perhaps with a text for the case
that there is no such variable. -/
def reference (value : List Char → Option (List Char) → List Char) : Recognizer := fun text =>
  match stripOpening? ['$', '{'] text with
  | none => none
  | some inner =>
    let name := inner.takeWhile fun c => c != '}' && c != ':'
    match inner.dropWhile fun c => c != '}' && c != ':' with
    | '}' :: behind => some (value name none, behind)
    | ':' :: '-' :: rest =>
      match rest.dropWhile (· != '}') with
      | _ :: behind => some (value name (some (rest.takeWhile (· != '}'))), behind)
      | [] => none
    | _ => none

abbrev Variables := OrderedMap String (Option String)

/-- The value of a reference: a variable of the file comes before one of the environment. -/
def resolve (environment : List (String × String)) (known : Variables) (name : List Char)
    (absent : Option (List Char)) : List Char :=
  match known.get? (String.ofList name) with
  | some value => (value.getD "").toList
  | none =>
    match (OrderedMap.ofList environment).get? (String.ofList name) with
    | some value => value.toList
    | none => absent.getD []

def addBinding (environment : List (String × String)) (known : Variables) (binding : Binding) :
    Variables :=
  known.insert (String.ofList binding.1) (binding.2.map fun value =>
    String.ofList (substitute (reference (resolve environment known)) value))

/-- The variables of a file under an environment. A name without a value is kept as such. -/
def evaluate (environment : List (String × String)) (text : List Char) : Variables :=
  (bindings text).foldl (addBinding environment) .empty

end SpecLexicon.EnvironmentFile
