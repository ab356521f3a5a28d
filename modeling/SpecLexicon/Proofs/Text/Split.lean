import SpecLexicon.Text.Split

/-!
# Joined texts

What is joined with a mark between its parts falls apart at that mark into the same parts, unless a
part holds the mark itself. No character comes up that is in no part and not the mark. Whether the
parts of one text come first in those of another can be seen without splitting them.
-/

set_option autoImplicit false

namespace SpecLexicon.Text

theorem splitAtMark_eq_splitOn (mark : Char) (text : List Char) :
    splitAtMark mark text = text.splitOn mark := by
  induction text with
  | nil => simp [splitAtMark]
  | cons c rest ih =>
    rw [splitAtMark, ih, List.splitOn_cons_eq_if_modifyHead]
    by_cases same : c = mark
    · simp [same]
    · cases parts : rest.splitOn mark with
      | nil => exact absurd parts (List.splitOn_ne_nil mark rest)
      | cons part others => simp [same]

theorem splitAtMark_append_mark (mark : Char) (front rest : List Char) :
    splitAtMark mark (front ++ mark :: rest) = splitAtMark mark front ++ splitAtMark mark rest := by
  simp only [splitAtMark_eq_splitOn, List.splitOn_append_cons_self]

theorem splitAtMark_of_not_mem {mark : Char} {text : List Char} (absent : mark ∉ text) :
    splitAtMark mark text = [text] := by
  rw [splitAtMark_eq_splitOn, List.splitOn_eq_singleton absent]

theorem intercalate_splitAtMark (mark : Char) (text : List Char) :
    [mark].intercalate (splitAtMark mark text) = text := by
  rw [splitAtMark_eq_splitOn, List.intercalate_splitOn]

theorem mem_of_mem_splitAtMark {mark c : Char} {text part : List Char}
    (listed : part ∈ splitAtMark mark text) (member : c ∈ part) : c ∈ text := by
  induction text generalizing part with
  | nil =>
    obtain rfl := List.mem_singleton.mp listed
    exact member
  | cons d rest ih =>
    rw [splitAtMark] at listed
    split at listed
    · cases List.mem_cons.mp listed with
      | inl empty =>
        rw [empty] at member
        cases member
      | inr later => exact List.mem_cons_of_mem d (ih later member)
    · split at listed
      · rename_i none
        exact absurd none (splitAtMark_ne_nil mark rest)
      · rename_i first others parts
        rw [parts] at ih
        cases List.mem_cons.mp listed with
        | inl same =>
          rw [same, List.mem_cons] at member
          cases member with
          | inl head => exact head ▸ List.mem_cons_self
          | inr inside => exact List.mem_cons_of_mem d (ih List.mem_cons_self inside)
        | inr later =>
          exact List.mem_cons_of_mem d (ih (List.mem_cons_of_mem first later) member)

theorem splitAtMark_intercalate {mark : Char} {parts : List (List Char)} (filled : parts ≠ [])
    (plain : ∀ part ∈ parts, mark ∉ part) :
    splitAtMark mark ([mark].intercalate parts) = parts := by
  rw [splitAtMark_eq_splitOn, List.splitOn_intercalate mark plain filled]

theorem intercalate_append {mark : Char} {front rest : List (List Char)} (frontFilled : front ≠ [])
    (restFilled : rest ≠ []) :
    [mark].intercalate (front ++ rest) =
      [mark].intercalate front ++ mark :: [mark].intercalate rest := by
  induction front with
  | nil => exact absurd rfl frontFilled
  | cons part others ih =>
    by_cases last : others = []
    · subst last
      simp [List.intercalate_cons_of_ne_nil restFilled]
    · have filled : others ++ rest ≠ [] := by simp [last]
      rw [List.cons_append, List.intercalate_cons_of_ne_nil filled, ih last,
        List.intercalate_cons_of_ne_nil last, List.append_assoc _ _ (mark :: _)]

/-- The parts of a text come first in those of another exactly if the other one is the same or goes
on with the mark. -/
theorem splitAtMark_prefix_iff {mark : Char} {front text : List Char} :
    splitAtMark mark front <+: splitAtMark mark text ↔
      text = front ∨ front ++ [mark] <+: text := by
  constructor
  · rintro ⟨rest, whole⟩
    have joined := intercalate_splitAtMark mark text
    by_cases last : rest = []
    · rw [← whole, last, List.append_nil, intercalate_splitAtMark] at joined
      exact .inl joined.symm
    · rw [← whole, intercalate_append (splitAtMark_ne_nil mark front) last,
        intercalate_splitAtMark] at joined
      exact .inr ⟨[mark].intercalate rest, by rw [← joined, List.append_assoc]; rfl⟩
  · rintro (rfl | ⟨rest, rfl⟩)
    · exact List.prefix_refl _
    · rw [List.append_assoc, List.singleton_append, splitAtMark_append_mark]
      exact List.prefix_append _ _

theorem mem_intercalate {c : Char} {separator : String} {texts : List String}
    (member : c ∈ (separator.intercalate texts).toList) :
    c ∈ separator.toList ∨ ∃ text ∈ texts, c ∈ text.toList := by
  induction texts with
  | nil => cases member
  | cons text rest ih =>
    by_cases last : rest = []
    · subst last
      rw [String.intercalate_singleton] at member
      exact .inr ⟨text, List.mem_cons_self, member⟩
    · rw [String.intercalate_cons_of_ne_nil last, String.toList_append, String.toList_append,
        List.mem_append, List.mem_append] at member
      rcases member with (first | between) | later
      · exact .inr ⟨text, List.mem_cons_self, first⟩
      · exact .inl between
      · refine (ih later).imp_right ?_
        rintro ⟨other, listed, inside⟩
        exact ⟨other, List.mem_cons_of_mem text listed, inside⟩

end SpecLexicon.Text
