import SpecLexicon.Item

/-!
# The bundled database

The symbols that come with the library.
-/

set_option autoImplicit false

namespace SpecLexicon.Database

def entry (name signature description : String) (visible : IsVisible signature := by decide) :
    String × Item :=
  (name, Item.ofSignature signature (some description) none visible)

def form (signature : String) (description : Option String)
    (filled : signature ≠ "" := by decide) : Overload :=
  ⟨signature, description, filled⟩

def withForms (forms : List Overload) (entry : String × Item) : String × Item :=
  (entry.1, { entry.2 with overloads := some forms })

def definedAt (start finish : Position) (entry : String × Item) : String × Item :=
  (entry.1, { entry.2 with location := some ⟨start, finish⟩ })

def constantItems : ItemMap :=
  .ofList [
    entry "PI" "PI" "the ratio of a circle's circumference to its diameter (3.14159...)",
    entry "DEBUG" "DEBUG" "debug level flags; nonzero values print diagnostic messages",
    entry "HOME" "HOME" "the user's home directory",
    entry "SPEC" "SPEC" "the name of the running spec process",
    entry "SPECD" "SPECD" "the auxiliary file directory"]

def variableItems : ItemMap :=
  .ofList [
    entry "A" "A[]" "array of motor positions in user units",
    entry "S" "S[]" "array of scaler counts",
    entry "COUNT_TIME" "COUNT_TIME" "the count time used by the last count command",
    entry "MOTORS" "MOTORS" "the number of configured motors",
    entry "COUNTERS" "COUNTERS" "the number of configured counters"]

def macroItems : ItemMap :=
  .ofList [
    definedAt ⟨120, 8, 1, by decide, by decide⟩ ⟨158, 9, 1, by decide, by decide⟩
      (entry "wa" "wa" "lists the positions of all motors"),
    entry "wm" "wm motor1 motor2 ..." "lists the positions of the given motors",
    withForms
      [form "ct sec" (some "counts for sec seconds"),
        form "ct -monitor" (some "counts to the given monitor counts")]
      (entry "ct" "ct" "counts for the default count time"),
    entry "newfile" "newfile filename" "opens a new data file"]

def functionItems : ItemMap :=
  .ofList [
    entry "sin" "sin(x)" "returns the sine of x (x in radians)",
    entry "sqrt" "sqrt(x)" "returns the square root of x",
    withForms
      [form "date(fmt)" (some "formats the current date and time using strftime() conversions"),
        form "date(seconds, fmt)" (some "formats the given epoch seconds")]
      (entry "date" "date()" "returns the current date and time as a string"),
    entry "motor_mne" "motor_mne(i)" "returns the mnemonic of motor number i",
    entry "cnt_mne" "cnt_mne(i)" "returns the mnemonic of counter number i"]

def keywordItems : ItemMap :=
  .ofList [
    withForms [form "if (condition) statement else statement" none]
      (entry "if" "if (condition) statement" "conditional execution"),
    entry "for" "for (init; condition; step) statement"
      "loop with initialization, condition and step expressions",
    entry "while" "while (condition) statement" "loop while the condition is nonzero",
    entry "def" "def name 'definition'" "defines a macro",
    entry "local" "local name ..."
      "declares variables local to the enclosing statement block",
    entry "global" "global name ..." "declares global variables"]

def bundled : Partition :=
  .ofList [(.constant, constantItems), (.variableDef, variableItems), (.macroDef, macroItems),
    (.function, functionItems), (.keyword, keywordItems)]

end SpecLexicon.Database
