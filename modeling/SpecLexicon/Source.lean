/-!
# Sources

Where symbols come from. Every source has a URI under which its symbols are stored. All but the
active document belong to the system, whose sources are also served as documents.
-/

set_option autoImplicit false

namespace SpecLexicon.Source

def scheme : String := "spec"

def builtIn : String := "spec://system/built-in.md"

def motor : String := "spec://system/mnemonic-motor.md"

def counter : String := "spec://system/mnemonic-counter.md"

/-- The snippets, which are built from templates, motors and counters. -/
def snippet : String := "spec://system/code-snippet.md"

def activeDocument : String := "spec://user/active-document.md"

def named : List (String × String) :=
  [("built-in", builtIn), ("motor", motor), ("counter", counter), ("snippet", snippet),
    ("active-document", activeDocument)]

/-- The short names of the sources that the command line knows. -/
def commandLineNames : List String :=
  ["built-in", "motor", "counter", "snippet"]

end SpecLexicon.Source
