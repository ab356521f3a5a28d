import SpecLexicon.CommandLine.Program

/-!
# The command line

Runs the program on the words of the command line, with the variables of the process and the files
of the current directory.
-/

set_option autoImplicit false

namespace SpecLexicon.CommandLine

/-- The number and the wording of an error. An error of the runtime alone has number zero. -/
def numberAndWording : IO.Error → Nat × String
  | .alreadyExists _ number wording => (number.toNat, wording)
  | .otherError number wording => (number.toNat, wording)
  | .resourceBusy number wording => (number.toNat, wording)
  | .resourceVanished number wording => (number.toNat, wording)
  | .unsupportedOperation number wording => (number.toNat, wording)
  | .hardwareFault number wording => (number.toNat, wording)
  | .unsatisfiedConstraints number wording => (number.toNat, wording)
  | .illegalOperation number wording => (number.toNat, wording)
  | .protocolError number wording => (number.toNat, wording)
  | .timeExpired number wording => (number.toNat, wording)
  | .interrupted _ number wording => (number.toNat, wording)
  | .noFileOrDirectory _ number wording => (number.toNat, wording)
  | .invalidArgument _ number wording => (number.toNat, wording)
  | .permissionDenied _ number wording => (number.toNat, wording)
  | .resourceExhausted _ number wording => (number.toNat, wording)
  | .inappropriateType _ number wording => (number.toNat, wording)
  | .noSuchThing _ number wording => (number.toNat, wording)
  | .unexpectedEof => (0, "end of file")
  | .userError wording => (0, wording)

/-- Read the file at a path. The words and variables of a process are texts, and so is each path
that comes from them. -/
def readPath (path : Path) : IO (Except ReadError ByteArray) := do
  match path.nameFault? with
  | some fault => pure (.error (.unnameable fault))
  | none =>
    try
      let bytes ← IO.FS.readBinFile path.text.shown
      pure (.ok bytes)
    catch error =>
      let (number, wording) := numberAndWording error
      pure (.error (.refused ⟨number, wording, some (.file path)⟩))

/-- The variables of the process, as the system lists them: a name and a value each, closed by a
null character. -/
def processVariables : IO (List (String × String)) := do
  match ← readPath (.ofText (.text "/proc/self/environ")) with
  | .error _ => pure []
  | .ok bytes =>
    let entries := Text.splitAtMark '\x00' ((String.fromUTF8? bytes).getD "").toList
    pure (entries.filterMap fun entry =>
      match Text.cutAtMark '=' entry with
      | (name, some value) => some (String.ofList name, String.ofList value)
      | (_, none) => none)

def Breakdown.message : Breakdown → String
  | .settings (.undecodable fault) => fault.message
  | .settings (.unreadable field origin) => Settings.unreadableMessage field origin
  | .settings (.overnested list) => Json.overnestedMessage list
  | .settings (.invalid first others) =>
    toString (others.length + 1) ++ " invalid settings, the first: " ++ first.cause.code
  | .registry fault => fault.message.escaped
  | .unprintable fault => fault.message

def runProgram (words : List String) : IO UInt32 := do
  let environment ← processVariables
  let environmentFile ← readPath (.ofText (.text Settings.fileName))
  let sources := Settings.Sources.gather [] environment fun _ => environmentFile
  let database ← match databaseFile? sources words with
    | none => pure (.ok Database.bundledBytes)
    | some path => readPath path
  match run sources (fun _ => database) words with
  | .error breakdown =>
    IO.eprintln breakdown.message
    pure 1
  | .ok report =>
    IO.eprint report.errors
    IO.print report.output
    report.console.forM fun display => IO.print display.plain
    pure report.exitCode.toUInt32

end SpecLexicon.CommandLine

def main (words : List String) : IO UInt32 :=
  SpecLexicon.CommandLine.runProgram words
