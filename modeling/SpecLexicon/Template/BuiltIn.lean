/-!
# Built-in templates

The template lines that are always there. Each is a command with numbered places for its arguments
and a remark.
-/

set_option autoImplicit false

namespace SpecLexicon.Template

/-- What an argument of a built-in template stands for. -/
inductive Slot where
  | motor
  | counter
  | labeled (label : String)

def Slot.text (slot : Slot) (number : Nat) : String :=
  let inner := match slot with
    | motor => "%MOT"
    | counter => "%CNT"
    | labeled label => ":" ++ label
  "$\x7b" ++ toString number ++ inner ++ "\x7d"

/-- A template line: the command, its arguments numbered from one, and the remark. -/
def line (command : String) (slots : List Slot) (remark : String) : String :=
  let arguments := slots.zipIdx.map fun (slot, index) => slot.text (index + 1)
  String.intercalate " " (command :: arguments) ++ " # " ++ remark

def course (suffix : String) : List Slot :=
  [.motor, .labeled ("begin" ++ suffix), .labeled ("end" ++ suffix)]

def builtIn : List String :=
  let position := Slot.labeled "pos"
  let steps := Slot.labeled "steps"
  let seconds := Slot.labeled "sec"
  let two := course "1" ++ course "2" ++ [steps, seconds]
  let three := course "1" ++ course "2" ++ course "3" ++ [steps, seconds]
  let four := course "1" ++ course "2" ++ course "3" ++ course "4" ++ [steps, seconds]
  [line "mv" [.motor, position] "absolute-position motor move",
    line "mvr" [.motor, position] "relative-position motor move",
    line "umv" [.motor, position] "absolute-position motor move (live update)",
    line "umvr" [.motor, position] "relative-position motor move (live update)",
    line "ascan" (course "" ++ [steps, seconds]) "single-motor absolute-position scan",
    line "dscan" (course "" ++ [steps, seconds]) "single-motor relative-position scan",
    line "a2scan" two "two-motor absolute-position scan",
    line "d2scan" two "two-motor relative-position scan",
    line "mesh" (course "1" ++ [.labeled "step1"] ++ course "2" ++ [.labeled "steps2", seconds])
      "nested two-motor scan that scanned over a grid of points",
    line "a3scan" three "three-motor absolute-position scan",
    line "d3scan" three "three-motor relative-position scan",
    line "a4scan" four "four-motor absolute-position scan",
    line "d4scan" four "four-motor relative-position scan",
    line "plotselect" [.counter] "select the counter to plot"]

end SpecLexicon.Template
