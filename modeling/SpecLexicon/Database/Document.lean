import SpecLexicon.Database.Bundled
import SpecLexicon.FileTree
import SpecLexicon.Journal
import SpecLexicon.Json.Printer
import SpecLexicon.Json.Reader
import SpecLexicon.Schema.Database

/-!
# Loading the database

A database comes as a text, as bytes, or as a value that is decoded already. Loading gives a new
partition, or says why there is none: the document cannot be read, or it has the wrong shape. A text
and bytes are checked while they are read, and their texts are made of characters; those of a
decoded value may hold halves of surrogate pairs, which stay in the partition. A database is fetched
from a file, which has to hold one in bytes.
-/

set_option autoImplicit false

namespace SpecLexicon.Database

/-- A document in one of its forms. -/
inductive Document where
  | text (content : String)
  | bytes (content : ByteArray)
  | value (json : Json)

def nestingLimit : Nat := 200

def parseText (content : String) : Schema.Checked Json :=
  match Json.parse? nestingLimit content with
  | none => .fault .notJson
  | some json => .valid json

def parseBytes (content : ByteArray) : Schema.Checked Json :=
  match String.fromUTF8? content with
  | none => .fault .notJson
  | some content => parseText content

/-- The value of a document. A value that is a string is a text in turn. -/
def Document.json : Document → Schema.Checked Json
  | .text content => parseText content
  | .bytes content => parseBytes content
  | .value (.string (.text content)) => parseText content
  | .value (.string (.broken _ _)) => .fault .notUnicode
  | .value json => .valid json

def Document.check (document : Document) : Schema.Checked (Partition LooseText) :=
  document.json.andThen Partition.ofJson

/-- What is wrong with a database: the defects of its shape, or that its file cannot be read. -/
inductive Failure where
  | shape (first : Schema.Defect) (others : List Schema.Defect)
  | unreadable (error : SystemError)
deriving DecidableEq, Repr

def Failure.message : Failure → String
  | shape _ others =>
    "API reference database has an unexpected shape: " ++ toString (others.length + 1) ++
      " error(s)"
  | unreadable error => "Cannot read API reference database: " ++ error.message

/-- A database that could not be loaded, and where it came from. -/
structure Malformed where
  failure : Failure
  source : LooseText
deriving DecidableEq, Repr

def withSource (message source : LooseText) : LooseText :=
  if source = "" then message else message ++ " (source: " ++ source ++ ")"

def Malformed.message (malformed : Malformed) : LooseText :=
  withSource malformed.failure.message malformed.source

/-- A document from a source has the defects that were found, or is what it was checked to be. -/
def orMalformed {α : Type} (checked : Schema.Checked α) (source : LooseText) : Except Malformed α :=
  match checked with
  | .valid value => .ok value
  | .faulty first others => .error ⟨.shape first others, source⟩

section Sourced

variable {α : Type} {checked : Schema.Checked α} {source : LooseText}

theorem orMalformed_eq_ok_iff {value : α} :
    orMalformed checked source = .ok value ↔ checked = .valid value := by
  cases checked <;> simp [orMalformed]

theorem orMalformed_eq_error_iff {malformed : Malformed} :
    orMalformed checked source = .error malformed ↔
      ∃ first others, checked = .faulty first others ∧
        malformed = ⟨.shape first others, source⟩ := by
  cases checked with
  | valid value => simp [orMalformed]
  | faulty first others =>
    constructor
    · rintro ⟨⟩
      exact ⟨first, others, rfl, rfl⟩
    · rintro ⟨_, _, ⟨⟩, rfl⟩
      rfl

end Sourced

def load (document : Document) (source : LooseText) : Except Malformed (Partition LooseText) :=
  orMalformed document.check source

/-- Load bytes. Their texts are made of characters, and so are those of the partition. -/
def loadBytes (content : ByteArray) (source : LooseText) : Except Malformed Partition :=
  orMalformed ((parseBytes content).andThen Partition.ofJson) source

def loaded {τ : Type} (partition : Partition τ) : Record :=
  let count (entry : Kind × ItemMap τ) : String :=
    String.ofList ((entry.1.name?.getD "").toList.map Char.toLower) ++ "=" ++ toString entry.2.size
  ⟨.debug, .loader, "Loaded API reference: " ++ ", ".intercalate (partition.toList.map count)⟩

/-- The ways in which fetching a database fails. A path that is the name of no file is no matter of
the database. -/
inductive FetchError where
  | malformed (malformed : Malformed)
  | unnameable (fault : NameFault)
deriving DecidableEq, Repr

/-- Fetch the database that lies in a place, the bundled one like any other. -/
def fetch (read : FileReader) (location : Location) : Except FetchError Partition :=
  match read location with
  | .ok bytes => (loadBytes bytes location.text).mapError .malformed
  | .error (.refused error) => .error (.malformed ⟨.unreadable error, location.text⟩)
  | .error (.unnameable fault) => .error (.unnameable fault)

/-- The bytes of the bundled database. -/
def bundledBytes : ByteArray :=
  (Json.toText (Partition.toJson bundled)).toUTF8

end SpecLexicon.Database
