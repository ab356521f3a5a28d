import SpecLexicon.Json.Reader

/-!
# What the reader takes

A value that was read is a text in quotes, a list, an object, or an atom. What stands inside of a
list or an object was read with one step less, value by value, up to the closing mark.
-/

set_option autoImplicit false

namespace SpecLexicon.Json

theorem exists_of_map_eq_ok {ε α β : Type} {f : α → β} {outcome : Except ε α} {result : β}
    (mapped : outcome.map f = .ok result) : ∃ found, outcome = .ok found ∧ f found = result := by
  cases outcome with
  | error fault => cases mapped
  | ok found => exact ⟨found, rfl, Except.ok.inj mapped⟩

section Reads

variable {dialect : Dialect} {fuel depth : Nat}

/-- All that a step of the reader can take as a value. -/
inductive ReadsValue (dialect : Dialect) (fuel depth : Nat) :
    List Char → Json → List Char → Prop where
  | string {opened rest : List Char} {body : LooseText} :
      readQuoted dialect opened = .ok (body, rest) →
      ReadsValue dialect fuel depth ('"' :: opened) (.string body) rest
  | emptyList {opened rest : List Char} : skipLayout opened = ']' :: rest →
      ReadsValue dialect fuel depth ('[' :: opened) (.list []) rest
  | list {opened rest : List Char} {items : List Json} :
      readItems dialect fuel (depth - 1) (skipLayout opened) = .ok (items, rest) →
      ReadsValue dialect fuel depth ('[' :: opened) (.list items) rest
  | emptyObject {opened rest : List Char} : skipLayout opened = '}' :: rest →
      ReadsValue dialect fuel depth ('{' :: opened) (.object []) rest
  | object {opened rest : List Char} {fields : List (LooseText × Json)} :
      readFields dialect fuel (depth - 1) (skipLayout opened) = .ok (fields, rest) →
      ReadsValue dialect fuel depth ('{' :: opened) (.object fields) rest
  | atom {text rest : List Char} {value : Json} : readAtom dialect text = .ok (value, rest) →
      ReadsValue dialect fuel depth text value rest

/-- A value, and either the closing mark or a comma with more behind it. -/
inductive ReadsItems (dialect : Dialect) (fuel depth : Nat) :
    List Char → List Json → List Char → Prop where
  | last {text behind rest : List Char} {item : Json} :
      readValue dialect fuel depth text = .ok (item, behind) → skipLayout behind = ']' :: rest →
      ReadsItems dialect fuel depth text [item] rest
  | more {text behind after rest : List Char} {item : Json} {items : List Json} :
      readValue dialect fuel depth text = .ok (item, behind) → skipLayout behind = ',' :: after →
      readItems dialect fuel depth (skipLayout after) = .ok (items, rest) →
      ReadsItems dialect fuel depth text (item :: items) rest

/-- A key and a value, and either the closing mark or a comma with more behind it. -/
inductive ReadsFields (dialect : Dialect) (fuel depth : Nat) :
    List Char → List (LooseText × Json) → List Char → Prop where
  | last {opened afterKey text behind rest : List Char} {key : LooseText} {value : Json} :
      readQuoted dialect opened = .ok (key, afterKey) → skipLayout afterKey = ':' :: text →
      readValue dialect fuel depth (skipLayout text) = .ok (value, behind) →
      skipLayout behind = '}' :: rest →
      ReadsFields dialect fuel depth ('"' :: opened) [(key, value)] rest
  | more {opened afterKey text behind after rest : List Char} {key : LooseText} {value : Json}
      {fields : List (LooseText × Json)} :
      readQuoted dialect opened = .ok (key, afterKey) → skipLayout afterKey = ':' :: text →
      readValue dialect fuel depth (skipLayout text) = .ok (value, behind) →
      skipLayout behind = ',' :: after →
      readFields dialect fuel depth (skipLayout after) = .ok (fields, rest) →
      ReadsFields dialect fuel depth ('"' :: opened) ((key, value) :: fields) rest

theorem readsValue_of_readValue {text rest : List Char} {value : Json}
    (read : readValue dialect (fuel + 1) depth text = .ok (value, rest)) :
    ReadsValue dialect fuel depth text value rest := by
  unfold readValue at read
  split at read
  · obtain ⟨found, quoted, same⟩ := exists_of_map_eq_ok read
    cases same
    exact .string quoted
  · split at read
    · cases read
    · split at read
      · rename_i closed
        cases read
        exact .emptyList closed
      · obtain ⟨found, inner, same⟩ := exists_of_map_eq_ok read
        cases same
        exact .list inner
  · split at read
    · cases read
    · split at read
      · rename_i closed
        cases read
        exact .emptyObject closed
      · obtain ⟨found, inner, same⟩ := exists_of_map_eq_ok read
        cases same
        exact .object inner
  · exact .atom read

theorem readsItems_of_readItems {text rest : List Char} {items : List Json}
    (read : readItems dialect (fuel + 1) depth text = .ok (items, rest)) :
    ReadsItems dialect fuel depth text items rest := by
  unfold readItems at read
  split at read
  · cases read
  · rename_i first
    split at read
    · rename_i closed
      cases read
      exact .last first closed
    · rename_i continued
      obtain ⟨found, others, same⟩ := exists_of_map_eq_ok read
      cases same
      exact .more first continued others
    · cases read

theorem readsFields_of_readFields {text rest : List Char} {fields : List (LooseText × Json)}
    (read : readFields dialect (fuel + 1) depth text = .ok (fields, rest)) :
    ReadsFields dialect fuel depth text fields rest := by
  unfold readFields at read
  split at read
  · split at read
    · cases read
    · rename_i quoted
      split at read
      · rename_i named
        split at read
        · cases read
        · rename_i first
          split at read
          · rename_i closed
            cases read
            exact .last quoted named first closed
          · rename_i continued
            obtain ⟨found, others, same⟩ := exists_of_map_eq_ok read
            cases same
            exact .more quoted named first continued others
          · cases read
      · cases read
  · cases read

end Reads

end SpecLexicon.Json
