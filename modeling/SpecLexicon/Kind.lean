/-!
# Kinds of symbols

The category of a symbol, its label and icon, and its place among the categories an editor knows. A
number that names no kind is kept as it is: it can be stored under, but it has neither label nor
icon.
-/

set_option autoImplicit false

namespace SpecLexicon

/-- The category of a symbol. The listed kinds have the codes zero to seven, in this order. -/
inductive Kind where
  | undefined
  | constant
  | variableDef
  | macroDef
  | function
  | keyword
  | snippet
  | member
  | unlisted (code : Int) (fresh : code < 0 ∨ 7 < code)
deriving DecidableEq, Repr

namespace Kind

instance : Inhabited Kind := ⟨undefined⟩

def code : Kind → Int
  | undefined => 0
  | constant => 1
  | variableDef => 2
  | macroDef => 3
  | function => 4
  | keyword => 5
  | snippet => 6
  | member => 7
  | unlisted code _ => code

def ofCode (code : Int) : Kind :=
  if fresh : code < 0 ∨ 7 < code then unlisted code fresh
  else match code.toNat with
    | 0 => undefined
    | 1 => constant
    | 2 => variableDef
    | 3 => macroDef
    | 4 => function
    | 5 => keyword
    | 6 => snippet
    | _ => member

@[simp] theorem ofCode_code (kind : Kind) : ofCode kind.code = kind := by
  cases kind with
  | unlisted code fresh => simp [Kind.code, ofCode, fresh]
  | undefined => rfl
  | constant => rfl
  | variableDef => rfl
  | macroDef => rfl
  | function => rfl
  | keyword => rfl
  | snippet => rfl
  | member => rfl

/-- The listed kinds in the order of their numbers. -/
def listed : List Kind :=
  [undefined, constant, variableDef, macroDef, function, keyword, snippet, member]

def name? : Kind → Option String
  | undefined => some "UNDEFINED"
  | constant => some "CONSTANT"
  | variableDef => some "VARIABLE"
  | macroDef => some "MACRO"
  | function => some "FUNCTION"
  | keyword => some "KEYWORD"
  | snippet => some "SNIPPET"
  | member => some "ENUM"
  | unlisted _ _ => none

/-- The noun that heads the section of a kind in the manual and selects it in a query. -/
def label? : Kind → Option String
  | undefined => some "symbol"
  | constant => some "constant"
  | variableDef => some "variable"
  | macroDef => some "macro"
  | function => some "function"
  | keyword => some "keyword"
  | snippet => some "snippet"
  | member => some "member"
  | unlisted _ _ => none

def icon? : Kind → Option String
  | undefined => some "symbol-misc"
  | constant => some "symbol-constant"
  | variableDef => some "symbol-variable"
  | macroDef => some "symbol-function"
  | function => some "symbol-method"
  | keyword => some "symbol-keyword"
  | snippet => some "symbol-snippet"
  | member => some "symbol-enum-member"
  | unlisted _ _ => none

def ofLabel? (text : String) : Option Kind :=
  listed.find? fun kind => kind.label? == some text

/-- The reason why a kind has neither label nor icon: its number names none. -/
structure Unlisted where
  code : Int
deriving DecidableEq, Repr

def Unlisted.message (failure : Unlisted) : String :=
  toString failure.code

def label (kind : Kind) : Except Unlisted String :=
  match kind.label? with
  | some text => .ok text
  | none => .error ⟨kind.code⟩

def icon (kind : Kind) : Except Unlisted String :=
  match kind.icon? with
  | some text => .ok text
  | none => .error ⟨kind.code⟩

theorem label?_injective {left right : Kind} {text : String} (first : left.label? = some text)
    (second : right.label? = some text) : left = right := by
  rw [← second] at first
  cases left <;> cases right <;> simp [label?] at first second ⊢

end Kind

/-- The categories of completion entries that symbols are shown under. -/
inductive CompletionKind where
  | method
  | function
  | variableDef
  | keyword
  | snippet
  | enumMember
  | constant
deriving DecidableEq, Repr

namespace CompletionKind

def code : CompletionKind → Nat
  | method => 2
  | function => 3
  | variableDef => 6
  | keyword => 14
  | snippet => 15
  | enumMember => 20
  | constant => 21

def name : CompletionKind → String
  | method => "Method"
  | function => "Function"
  | variableDef => "Variable"
  | keyword => "Keyword"
  | snippet => "Snippet"
  | enumMember => "EnumMember"
  | constant => "Constant"

end CompletionKind

/-- The categories of outline entries that symbols are shown under. -/
inductive SymbolKind where
  | method
  | function
  | variableDef
  | constant
  | null
  | enumMember
deriving DecidableEq, Repr

namespace SymbolKind

def code : SymbolKind → Nat
  | method => 6
  | function => 12
  | variableDef => 13
  | constant => 14
  | null => 21
  | enumMember => 22

def name : SymbolKind → String
  | method => "Method"
  | function => "Function"
  | variableDef => "Variable"
  | constant => "Constant"
  | null => "Null"
  | enumMember => "EnumMember"

end SymbolKind

namespace Kind

/-- The completion category of a kind. Macros are commands of the user and complete as functions;
built-in functions complete as methods. -/
def completion? : Kind → Option CompletionKind
  | undefined => none
  | constant => some .constant
  | variableDef => some .variableDef
  | macroDef => some .function
  | function => some .method
  | keyword => some .keyword
  | snippet => some .snippet
  | member => some .enumMember
  | unlisted _ _ => none

/-- The outline category of a kind. Keywords, snippets and everything unknown collapse to null. -/
def symbol : Kind → SymbolKind
  | undefined => .null
  | constant => .constant
  | variableDef => .variableDef
  | macroDef => .function
  | function => .method
  | keyword => .null
  | snippet => .null
  | member => .enumMember
  | unlisted _ _ => .null

/-- The kind behind the number of a completion category; undefined if no kind is shown under it. -/
def ofCompletionCode (code : Option Int) : Kind :=
  let shown (kind : Kind) : Bool := kind.completion?.map (fun c => (c.code : Int)) == code
  match code with
  | none => undefined
  | some _ => (listed.find? shown).getD undefined

end Kind

end SpecLexicon
