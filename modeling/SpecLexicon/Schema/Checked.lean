/-!
# Collected defects

The outcome of checking a document against its shape: a value, or every defect that was found. Parts
are checked independently, and the defects of a whole are those of its parts, one part after the
other, so that no defect hides another.
-/

set_option autoImplicit false

namespace SpecLexicon.Schema

/-- One step from a value to a part of it. -/
inductive Step where
  | key (name : String)
  | index (position : Nat)
deriving DecidableEq, Repr

/-- What can be wrong with a value. -/
inductive Cause where
  | missing
  | notString
  | notUnicode
  | emptyString
  | blankSignature
  | notModel
  | notGroup
  | notList
  | notJson
  | notInteger
  | unreadableInteger
  | fractionalInteger
  | oversizedInteger
  | infiniteInteger
  | tooSmall
  | notAbove
  | notBoolean
  | unreadableBoolean
  | notNumber
  | unreadableNumber
  | notPath
  | unknownField
deriving DecidableEq, Repr

namespace Cause

def code : Cause → String
  | missing => "missing"
  | notString => "string_type"
  | notUnicode => "string_unicode"
  | emptyString => "string_too_short"
  | blankSignature => "value_error"
  | notModel => "model_type"
  | notGroup => "dict_type"
  | notList => "list_type"
  | notJson => "json_invalid"
  | notInteger => "int_type"
  | unreadableInteger => "int_parsing"
  | fractionalInteger => "int_from_float"
  | oversizedInteger => "int_parsing_size"
  | infiniteInteger => "finite_number"
  | tooSmall => "greater_than_equal"
  | notAbove => "greater_than"
  | notBoolean => "bool_type"
  | unreadableBoolean => "bool_parsing"
  | notNumber => "float_type"
  | unreadableNumber => "float_parsing"
  | notPath => "path_type"
  | unknownField => "extra_forbidden"

/-- The text of a report, for the one cause that has a wording of its own. -/
def message? : Cause → Option String
  | blankSignature => some "Value error, signature must not be blank"
  | _ => none

end Cause

/-- A defect: what is wrong, and where. -/
structure Defect where
  path : List Step
  cause : Cause
deriving DecidableEq, Repr

def Defect.within (step : Step) (defect : Defect) : Defect :=
  { defect with path := step :: defect.path }

/-- A value, or at least one defect. -/
inductive Checked (α : Type) where
  | valid (value : α)
  | faulty (first : Defect) (others : List Defect)
deriving Repr

namespace Checked

variable {α β : Type}

def defects : Checked α → List Defect
  | valid _ => []
  | faulty first others => first :: others

def value? : Checked α → Option α
  | valid value => some value
  | faulty _ _ => none

def fault (cause : Cause) : Checked α :=
  faulty ⟨[], cause⟩ []

def toExcept : Checked α → Except (List Defect) α
  | valid value => .ok value
  | faulty first others => .error (first :: others)

def map (f : α → β) : Checked α → Checked β
  | valid value => valid (f value)
  | faulty first others => faulty first others

/-- Check two parts. Both are always checked, and the defects of the first come first. -/
def both : Checked α → Checked β → Checked (α × β)
  | valid left, valid right => valid (left, right)
  | valid _, faulty first others => faulty first others
  | faulty first others, valid _ => faulty first others
  | faulty first others, faulty second rest => faulty first (others ++ second :: rest)

def andThen (checked : Checked α) (next : α → Checked β) : Checked β :=
  match checked with
  | valid value => next value
  | faulty first others => faulty first others

def within (step : Step) : Checked α → Checked α
  | valid value => valid value
  | faulty first others => faulty (first.within step) (others.map (Defect.within step))

def all (check : α → Checked β) : List α → Checked (List β)
  | [] => valid []
  | item :: rest => (both (check item) (all check rest)).map fun found => found.1 :: found.2

@[simp] theorem defects_valid (value : α) : (valid value).defects = [] := rfl

@[simp] theorem defects_fault (cause : Cause) :
    (fault cause : Checked α).defects = [⟨[], cause⟩] := rfl

@[simp] theorem defects_map (f : α → β) (checked : Checked α) :
    (checked.map f).defects = checked.defects := by
  cases checked <;> rfl

@[simp] theorem defects_both (left : Checked α) (right : Checked β) :
    (left.both right).defects = left.defects ++ right.defects := by
  cases left <;> cases right <;> simp [both, defects]

@[simp] theorem defects_within (step : Step) (checked : Checked α) :
    (checked.within step).defects = checked.defects.map (Defect.within step) := by
  cases checked <;> rfl

/-- The defects of a list are those of its elements, one after the other. -/
@[simp] theorem defects_all (check : α → Checked β) (items : List α) :
    (all check items).defects = items.flatMap fun item => (check item).defects := by
  induction items with
  | nil => rfl
  | cons item rest ih => simp [all, ih]

theorem defects_eq_nil_iff {checked : Checked α} :
    checked.defects = [] ↔ ∃ value, checked = valid value := by
  cases checked <;> simp [defects]

end Checked

end SpecLexicon.Schema
