import SpecLexicon.Proofs.Template.BuiltIn

/-!
# The texts of a symbol

Both texts of the symbol of a template, the signature and the insertable body, start with its key
and a blank. No pass of substitution touches these, since no placeholder starts with a letter or a
blank.
-/

set_option autoImplicit false

namespace SpecLexicon.Template

open Text Placeholder

/-- The text starts with a word that a blank follows. -/
def StartsWith (word text : List Char) : Prop :=
  ∃ blank rest, isBlank blank = true ∧ text = word ++ blank :: rest

theorem startsWith_bodyOf {line key blanks words : List Char} {remark : Option (List Char)}
    (parts : Parts line key blanks words remark) : StartsWith key (bodyOf key blanks words) := by
  have blank := parts.blanks_blank
  rw [← bodyOf_eq key parts.blanks_longest]
  cases starts : blanks with
  | nil => exact absurd starts parts.blanks_ne_nil
  | cons first others =>
    rw [starts] at blank
    refine ⟨first, ?_⟩
    split
    · exact ⟨others, blank first List.mem_cons_self, rfl⟩
    · rename_i shown
      have visible : dropBlankEnd words ≠ [] := by
        cases found : words with
        | nil => exact absurd found shown
        | cons c rest => exact dropBlankEnd_ne_nil rfl (parts.blanks_longest c (by simp [found]))
      rw [dropBlankEnd_append_of_ne_nil _ visible]
      exact ⟨others ++ dropBlankEnd words, blank first List.mem_cons_self, rfl⟩

theorem startsWith_body {text : String} {template : Template}
    (parsed : parse? text = some template) : StartsWith template.key template.body := by
  obtain ⟨blanks, words, remark, parts, _, body, _⟩ := parseTrimmed?_eq_some_iff.mp parsed
  rw [body]
  exact startsWith_bodyOf parts

theorem isOpening_of_isBlank {c : Char} (blank : isBlank c = true) : isOpening c = false := by
  rw [isOpening, Bool.or_eq_false_iff, beq_eq_false_iff_ne, beq_eq_false_iff_ne]
  constructor
  · rintro rfl
    exact absurd blank (by decide)
  · rintro rfl
    exact absurd blank (by decide)

/-- A pass over the text leaves the word at its start and the blank behind it alone. -/
theorem StartsWith.of_append {pass : List Char → List Char} {word text : List Char}
    (starts : StartsWith word text) (isWord : IsWord word)
    (keeps : ∀ front rest, (∀ c ∈ front, isOpening c = false) →
      pass (front ++ rest) = front ++ pass rest) : StartsWith word (pass text) := by
  obtain ⟨blank, rest, isBlank, rfl⟩ := starts
  refine ⟨blank, pass rest, isBlank, ?_⟩
  have plain : ∀ c ∈ word ++ [blank], isOpening c = false := by
    intro c member
    rcases List.mem_append.mp member with part | last
    · exact isOpening_of_isWordPart (isWord.isWordPart c part)
    · obtain rfl := List.mem_singleton.mp last
      exact isOpening_of_isBlank isBlank
  have kept := keeps (word ++ [blank]) rest plain
  rwa [List.append_assoc, List.append_assoc] at kept

/-- A snippet under its key. -/
structure IsEntry (entry : String × Item) : Prop where
  name : IsWord entry.1.toList
  signature : StartsWith entry.1.toList entry.2.signature.toList
  snippet : ∃ body, entry.2.snippet = some body ∧ StartsWith entry.1.toList body.toList

theorem isEntry_of_mem_rebuild {motors counters : List String} {target : ItemMap}
    {lines : List LooseText} {entry : String × Item}
    (member : entry ∈ (rebuild motors counters target lines).items.toList) : IsEntry entry := by
  rw [rebuild_eq] at member
  obtain ⟨template, listed, rfl⟩ := List.mem_map.mp (OrderedMap.mem_of_mem_ofList member)
  obtain ⟨line, _, parsed⟩ := List.mem_filterMap.mp listed
  have starts := startsWith_body parsed
  have isWord := template.key_isWord
  have text : (template.name).toList = template.key := String.toList_ofList
  refine ⟨?_, ?_, String.ofList (insertable motors counters template.body), rfl, ?_⟩
  · rw [Template.entry, text]
    exact isWord
  · rw [Template.entry, text]
    change StartsWith template.key (String.ofList (signature template.body)).toList
    rw [String.toList_ofList]
    exact starts.of_append isWord fun front rest plain => signature_append rest plain
  · rw [Template.entry, text, String.toList_ofList]
    exact starts.of_append isWord fun front rest plain => fillMarkers_append _ _ rest plain

end SpecLexicon.Template
