import SpecLexicon.Text.Loose

/-!
# Journal records

What the library reports while it works: a level, the part of the library that reports, and a text.
-/

set_option autoImplicit false

namespace SpecLexicon

/-- How much a record matters. -/
inductive Level where
  | debug
  | info
  | warning
  | error
deriving DecidableEq, Repr

def Level.name : Level → String
  | debug => "DEBUG"
  | info => "INFO"
  | warning => "WARNING"
  | error => "ERROR"

def Level.rank : Level → Nat
  | debug => 0
  | info => 1
  | warning => 2
  | error => 3

/-- The parts of the library that report. -/
inductive Channel where
  | mnemonics
  | snippets
  | loader
  | registry
  | environmentFile
deriving DecidableEq, Repr

def Channel.name : Channel → String
  | mnemonics => "spec_command.registry.mnemonics"
  | snippets => "spec_command.registry.snippets"
  | loader => "spec_command.registry.loader"
  | registry => "spec_command.registry.registry"
  | environmentFile => "dotenv.main"

/-- One report. -/
structure Record where
  level : Level
  channel : Channel
  text : LooseText
deriving DecidableEq, Repr

/-- A record as it is printed. Halves of surrogate pairs are escaped. -/
def Record.line (record : Record) : String :=
  record.level.name ++ " " ++ record.channel.name ++ ": " ++ record.text.escaped

end SpecLexicon
