import SpecLexicon.OrderedMap
import SpecLexicon.Path

/-!
# Files

What reading a file gives: its bytes, or the reason why there are none. A reader may be refused by
the operating system in any way. The files below the current directory make up one such reader,
together with the bytes of the bundled database; nothing else can be read by it.
-/

set_option autoImplicit false

namespace SpecLexicon

/-- An error of the operating system: its number, its wording, and the place that it names, if it
names one. -/
structure SystemError where
  number : Nat
  wording : String
  place : Option Location
deriving DecidableEq, Repr

def SystemError.message (error : SystemError) : String :=
  "[Errno " ++ toString error.number ++ "] " ++ error.wording ++
    match error.place with
    | none => ""
    | some place => ": " ++ place.text.quoted

/-- The ways in which reading fails: the system refuses, or the path is the name of no file. The
system is not asked about such a path. -/
inductive ReadError where
  | refused (error : SystemError)
  | unnameable (fault : NameFault)
deriving DecidableEq, Repr

/-- A way to read files: the bytes of a place, or the reason why there are none. -/
abbrev FileReader : Type := Location → Except ReadError ByteArray

/-- The files below the current directory by their components, and the directories that hold
them. -/
structure FileTree where
  files : OrderedMap (List LooseText) ByteArray
  directories : List (List LooseText)

namespace FileTree

def empty : FileTree := ⟨.empty, []⟩

/-- Why a file of a tree cannot be read. -/
inductive Cause where
  | notFound
  | notDirectory
  | isDirectory
  | nameTooLong
deriving DecidableEq, Repr

def Cause.number : Cause → Nat
  | notFound => 2
  | notDirectory => 20
  | isDirectory => 21
  | nameTooLong => 36

def Cause.text : Cause → String
  | notFound => "No such file or directory"
  | notDirectory => "Not a directory"
  | isDirectory => "Is a directory"
  | nameTooLong => "File name too long"

def Cause.error (cause : Cause) (path : Path) : SystemError :=
  ⟨cause.number, cause.text, some (.file path)⟩

def ancestors (components : List LooseText) : List (List LooseText) :=
  (List.range components.length).map fun count => components.take count

def addDirectory (tree : FileTree) (components : List LooseText) : FileTree :=
  { tree with directories := components :: (ancestors components ++ tree.directories) }

def write (tree : FileTree) (components : List LooseText) (content : ByteArray) : FileTree :=
  { files := tree.files.insert components content
    directories := ancestors components ++ tree.directories }

def remove (tree : FileTree) (components : List LooseText) : FileTree :=
  { tree with files := tree.files.erase components }

/-- A place is a directory. The empty list is the current one. -/
def isDirectory (tree : FileTree) (components : List LooseText) : Bool :=
  components.isEmpty || tree.directories.contains components

/-- Follow components from a place; no place stands for any directory outside of the tree. -/
def follow (tree : FileTree) : Option (List LooseText) → List LooseText →
    Except Cause (Option (List LooseText))
  | place, [] => .ok place
  | none, component :: rest =>
    if component = ".." then tree.follow none rest
    else if 255 < Text.Utf8.nameSize component then .error .nameTooLong
    else .error .notFound
  | some place, component :: rest =>
    if !tree.isDirectory place then .error .notDirectory
    else if component = ".." then
      tree.follow (if place = [] then none else some place.dropLast) rest
    else if 255 < Text.Utf8.nameSize component then .error .nameTooLong
    else
      let next := place ++ [component]
      if tree.isDirectory next || tree.files.contains next then tree.follow (some next) rest
      else .error .notFound

def locate (tree : FileTree) (path : Path) : Except Cause (Option (List LooseText)) :=
  if 4096 ≤ Text.Utf8.nameSize path.text then .error .nameTooLong
  else match path.anchor with
    | .here => tree.follow (some []) path.components
    | .root => tree.follow none path.components
    | .doubleRoot => tree.follow none path.components

def content (tree : FileTree) : Option (List LooseText) → Except Cause ByteArray
  | none => .error .isDirectory
  | some place =>
    match tree.files.get? place with
    | some bytes => .ok bytes
    | none => .error .isDirectory

def readPath (tree : FileTree) (path : Path) : Except ReadError ByteArray :=
  match path.nameFault? with
  | some fault => .error (.unnameable fault)
  | none =>
    match (tree.locate path).bind tree.content with
    | .ok bytes => .ok bytes
    | .error cause => .error (.refused (cause.error path))

/-- The reader of a tree, where the bundled database has some bytes. -/
def reader (tree : FileTree) (bundled : ByteArray) : FileReader
  | .bundled => .ok bundled
  | .file path => tree.readPath path

end FileTree

end SpecLexicon
