import SpecLexicon.Text.Quoted
import SpecLexicon.Text.Similar
import SpecLexicon.Text.Split

/-!
# Options and arguments

How the words of a command line fall into options and arguments. An option has a long name and may
have a short one; its value is the next word, or follows an equals sign. Two hyphens end the
options.
-/

set_option autoImplicit false

namespace SpecLexicon.CommandLine

/-- An option that a command knows. -/
structure OptionSpec where
  name : String
  short : Option Char
  takesValue : Bool

/-- Why a command line is refused. A word that is unknown comes with the similar words that are
known. -/
inductive Fault where
  | unknownOption (name : String) (similar : List String)
  | missingValue (name : String)
  | unwantedValue (name : String)
  | unknownCommand (name : String) (similar : List String)
  | missingCommand
  | extraArguments (arguments : List String)
  | badChoice (name value : String) (choices : List String)
deriving DecidableEq, Repr

def quotedList (words : List String) : String :=
  ", ".intercalate (words.map Text.quoted)

def suggestion : List String → String
  | [] => ""
  | [word] => " Did you mean " ++ Text.quoted word ++ "?"
  | words => " (Did you mean one of: " ++ quotedList words ++ "?)"

def Fault.message : Fault → String
  | unknownOption name similar =>
    "No such option " ++ Text.quoted name ++ "." ++ suggestion similar
  | missingValue name => "Option " ++ Text.quoted name ++ " requires an argument."
  | unwantedValue name => "Option " ++ Text.quoted name ++ " does not take a value."
  | unknownCommand name similar =>
    "No such command " ++ Text.quoted name ++ "." ++ suggestion similar
  | missingCommand => "Missing command."
  | extraArguments arguments =>
    "Got unexpected extra argument" ++ (if arguments.length = 1 then "" else "s") ++ " (" ++
      " ".intercalate arguments ++ ")"
  | badChoice name value choices =>
    "Invalid value for " ++ Text.quoted name ++ ": " ++ Text.quoted value ++ " is not one of " ++
      quotedList choices ++ "."

/-- The usage is shown with a refusal, unless it is about the value of an option. -/
def Fault.showsUsage : Fault → Bool
  | missingValue _ => false
  | unwantedValue _ => false
  | _ => true

/-- The options that were given, in order and with their values, and the remaining words. -/
structure Parsed where
  options : List (String × Option String)
  arguments : List String

/-- The options of a word with a single hyphen: each character is an option without a value. -/
def shortOptions (specs : List OptionSpec) :
    List Char → Except Fault (List (String × Option String))
  | [] => .ok []
  | c :: rest =>
    match specs.find? fun spec => spec.short == some c && !spec.takesValue with
    | none => .error (.unknownOption (String.ofList ['-', c]) [])
    | some spec => (shortOptions specs rest).map fun others => (spec.name, none) :: others

/-- What a word is in a place where an option may stand. -/
inductive WordRole where
  | endOfOptions
  | argument
  | given (options : List (String × Option String))
  | valueFollows (name : String)

/-- Read one word. An option with a long name may bring its value along. -/
def readWord (specs : List OptionSpec) (word : String) : Except Fault WordRole :=
  match word.toList with
  | ['-', '-'] => .ok .endOfOptions
  | '-' :: c :: others =>
    let (name, attached) := Text.cutAtMark '=' ('-' :: c :: others)
    match specs.find? fun spec => spec.name == String.ofList name with
    | some spec =>
      match spec.takesValue, attached with
      | true, some value => .ok (.given [(spec.name, some (String.ofList value))])
      | true, none => .ok (.valueFollows spec.name)
      | false, some _ => .error (.unwantedValue spec.name)
      | false, none => .ok (.given [(spec.name, none)])
    | none =>
      if c = '-' then
        let unknown := String.ofList name
        .error (.unknownOption unknown (Text.similarWords (specs.map OptionSpec.name) unknown))
      else (shortOptions specs (c :: others)).map .given
  | _ => .ok .argument

/-- Read the words of a command line. Arguments may stand between options if `interspersed`; else
the first argument ends the options. -/
def parseWords (specs : List OptionSpec) (interspersed : Bool) : List String → Except Fault Parsed
  | [] => .ok ⟨[], []⟩
  | word :: rest =>
    match readWord specs word with
    | .error fault => .error fault
    | .ok .endOfOptions => .ok ⟨[], rest⟩
    | .ok .argument =>
      if interspersed then
        (parseWords specs interspersed rest).map fun parsed =>
          { parsed with arguments := word :: parsed.arguments }
      else .ok ⟨[], word :: rest⟩
    | .ok (.given options) =>
      (parseWords specs interspersed rest).map fun parsed =>
        { parsed with options := options ++ parsed.options }
    | .ok (.valueFollows name) =>
      match rest with
      | [] => .error (.missingValue name)
      | value :: behind =>
        (parseWords specs interspersed behind).map fun parsed =>
          { parsed with options := (name, some value) :: parsed.options }

def Parsed.values (parsed : Parsed) (name : String) : List String :=
  parsed.options.filterMap fun (given, value) => if given = name then value else none

def Parsed.value? (parsed : Parsed) (name : String) : Option String :=
  (parsed.values name).getLast?

def Parsed.has (parsed : Parsed) (name : String) : Bool :=
  parsed.options.any fun given => given.1 == name

end SpecLexicon.CommandLine
