import Mathlib.Data.List.Forall2
import SpecLexicon.Proofs.Mnemonic
import SpecLexicon.Proofs.Template.Rebuild
import SpecLexicon.Proofs.Text.Split

/-!
# Built-in keys

A line that is put together from a command, arguments and a remark is a template, and the command is
its key. So the built-in templates have fourteen different keys, and these come first wherever they
are compiled before others.
-/

set_option autoImplicit false

namespace SpecLexicon.Template

open Text

namespace Slot

/-- The label of an argument does not start a remark. -/
def isPlain : Slot → Bool
  | motor => true
  | counter => true
  | labeled label => !label.toList.contains '#'

theorem exists_toList_text {slot : Slot} (plain : slot.isPlain = true) (number : Nat) :
    ∃ rest, (slot.text number).toList = '$' :: rest ∧ '#' ∉ rest := by
  have digits : '#' ∉ Nat.toDigits 10 number := by
    intro member
    exact absurd (Nat.isDigit_of_mem_toDigits (by decide) (by decide) member) (by decide)
  refine ⟨(slot.text number).toList.tail, ?_, ?_⟩
  · simp [Slot.text]
  · cases slot with
    | motor => simp [Slot.text, digits]
    | counter => simp [Slot.text, digits]
    | labeled label =>
      have labeled : '#' ∉ label.toList := by simpa [isPlain] using plain
      simp [Slot.text, digits, labeled]

end Slot

/-- The texts of the arguments of a line. -/
def arguments (slots : List Slot) : List String :=
  slots.zipIdx.map fun (slot, index) => slot.text (index + 1)

theorem exists_toList_of_mem_arguments {slots : List Slot}
    (plain : ∀ slot ∈ slots, slot.isPlain = true) {text : String}
    (member : text ∈ arguments slots) : ∃ rest, text.toList = '$' :: rest ∧ '#' ∉ rest := by
  obtain ⟨⟨slot, index⟩, listed, rfl⟩ := List.mem_map.mp member
  exact Slot.exists_toList_text (plain slot (List.fst_mem_of_mem_zipIdx listed)) (index + 1)

theorem exists_intercalate_arguments {slots : List Slot}
    (plain : ∀ slot ∈ slots, slot.isPlain = true) (filled : slots ≠ []) :
    ∃ rest, (String.intercalate " " (arguments slots)).toList = '$' :: rest ∧ '#' ∉ rest := by
  have starts : ∃ rest, (String.intercalate " " (arguments slots)).toList = '$' :: rest := by
    cases texts : arguments slots with
    | nil => simp [arguments, filled] at texts
    | cons text others =>
      obtain ⟨rest, shown, _⟩ := exists_toList_of_mem_arguments plain
        (show text ∈ arguments slots by rw [texts]; exact List.mem_cons_self)
      by_cases last : others = []
      · rw [last, String.intercalate_singleton, shown]
        exact ⟨rest, rfl⟩
      · rw [String.intercalate_cons_of_ne_nil last, String.toList_append, String.toList_append,
          shown]
        exact ⟨_, rfl⟩
  obtain ⟨rest, shown⟩ := starts
  refine ⟨rest, shown, fun member => ?_⟩
  have inside : '#' ∈ (String.intercalate " " (arguments slots)).toList := by
    rw [shown]
    exact List.mem_cons_of_mem '$' member
  rcases mem_intercalate inside with blank | ⟨text, listed, hash⟩
  · exact absurd blank (by decide)
  · obtain ⟨tail, starts, absent⟩ := exists_toList_of_mem_arguments plain listed
    rw [starts, List.mem_cons] at hash
    rcases hash with first | later
    · exact absurd first (by decide)
    · exact absent later

theorem exists_dropBlankEnd_cons {c : Char} (shown : isBlank c = false) (text : List Char) :
    ∃ rest, dropBlankEnd (c :: text) = c :: rest ∧ ∀ d ∈ rest, d ∈ text := by
  obtain ⟨tail, whole, _⟩ := exists_dropBlankEnd_append (c :: text)
  cases kept : dropBlankEnd (c :: text) with
  | nil => exact absurd kept (dropBlankEnd_ne_nil rfl shown)
  | cons first rest =>
    rw [kept, List.cons_append, List.cons.injEq] at whole
    obtain ⟨rfl, rfl⟩ := whole
    exact ⟨rest, rfl, fun d member => List.mem_append_left tail member⟩

theorem parts_line {command : String} (remark : String) {slots : List Slot}
    (isWord : IsWord command.toList) (plain : ∀ slot ∈ slots, slot.isPlain = true)
    (filled : slots ≠ []) :
    ∃ words rest, words ≠ [] ∧ (∀ c ∈ rest, c = ' ' ∨ c ∈ remark.toList) ∧
      Parts (trim (line command slots remark).toList) command.toList [' '] words (some rest) := by
  obtain ⟨shown, starts, absent⟩ := exists_intercalate_arguments plain filled
  have some_arguments : arguments slots ≠ [] := by simpa [arguments] using filled
  have text : (line command slots remark).toList =
      command.toList ++ ([' '] ++ '$' :: (shown ++ [' '])) ++ '#' :: ' ' :: remark.toList := by
    change (String.intercalate " " (command :: arguments slots) ++ " # " ++ remark).toList = _
    rw [String.intercalate_cons_of_ne_nil some_arguments]
    simp [starts]
  have visible : ∀ c ∈ (line command slots remark).toList.head?, isBlank c = false := by
    obtain ⟨first, rest, same, start, _⟩ := isWord
    rw [text, same]
    intro c found
    obtain rfl : first = c := by simpa using found
    exact Mnemonic.isBlank_of_isWordStart start
  obtain ⟨rest, kept, inside⟩ := exists_dropBlankEnd_cons (show isBlank '#' = false by decide)
    (' ' :: remark.toList)
  refine ⟨'$' :: (shown ++ [' ']), rest, List.cons_ne_nil _ _,
    fun c member => by simpa using inside c member, ?_⟩
  refine ⟨?_, isWord, ?_, by simp [IsBlankText, isBlank], List.cons_ne_nil _ _, ?_, ?_⟩
  · rw [trim, dropBlank_eq_self visible, text,
      dropBlankEnd_append_of_ne_nil _ (dropBlankEnd_ne_nil rfl (by decide)), kept]
    rfl
  · simp [isWordPart]
  · simp [isBlank]
  · simp [absent]

/-- The key of a line that is put together is its command. -/
theorem map_name_parse?_line {command remark : String} {slots : List Slot}
    (word : leadingWord? command.toList = some (command.toList, []))
    (plain : ∀ slot ∈ slots, slot.isPlain = true) (filled : slots ≠ [])
    (oneLine : '\n' ∉ remark.toList) :
    (parse? (line command slots remark)).map name = some command := by
  have isWord := isWord_of_leadingWord? word
  obtain ⟨words, rest, shown, inside, parts⟩ := parts_line remark isWord plain filled
  have accepted : Accepted [' '] words (some rest) := by
    refine ⟨.inl shown, ?_⟩
    rintro remark ⟨⟩ member
    rcases inside _ ((List.dropWhile_suffix isBlank).subset member) with blank | feed
    · exact absurd blank (by decide)
    · exact oneLine feed
  have starts : command.toList <+: bodyOf command.toList [' '] words := by
    rw [← bodyOf_eq command.toList parts.blanks_longest]
    exact List.prefix_append _ _
  have parsed : parse? (line command slots remark) =
      some ⟨command.toList, _, _, isWord, starts⟩ :=
    parseTrimmed?_eq_some_iff.mpr ⟨_, _, _, parts, accepted, rfl, rfl⟩
  rw [parsed, Option.map_some, name, String.ofList_toList]

/-- The keys of the built-in templates. -/
def builtInKeys : List String :=
  ["mv", "mvr", "umv", "umvr", "ascan", "dscan", "a2scan", "d2scan", "mesh", "a3scan", "d3scan",
    "a4scan", "d4scan", "plotselect"]

/-- The text is a template with this key. -/
def HasKey (text key : String) : Prop :=
  (parse? text).map name = some key

theorem map_name_ofLines {texts keys : List String} (known : List.Forall₂ HasKey texts keys) :
    (ofLines (texts.map .text)).map name = keys := by
  induction known with
  | nil => rfl
  | @cons text key texts keys first _ ih =>
    obtain ⟨template, parsed, named⟩ := Option.map_eq_some_iff.mp first
    rw [ofLines] at ih ⊢
    rw [List.map_cons, List.filterMap_cons_some (by rwa [LooseText.plain_text]), List.map_cons,
      named, ih]

theorem forall_hasKey_builtIn : List.Forall₂ HasKey builtIn builtInKeys := by
  unfold builtIn builtInKeys
  repeat refine .cons (map_name_parse?_line (by decide) (by decide) (by decide) (by decide)) ?_
  exact .nil

theorem names_builtIn_append (lines : List LooseText) :
    (ofLines (builtIn.map .text ++ lines)).map name = builtInKeys ++ (ofLines lines).map name := by
  rw [← map_name_ofLines forall_hasKey_builtIn, ofLines, List.filterMap_append, List.map_append]
  rfl

/-- Where the built-in templates are compiled before others, their keys come first. -/
theorem builtInKeys_prefix_names (lines : List LooseText) :
    builtInKeys <+: ((ofLines (builtIn.map .text ++ lines)).map name).eraseDups := by
  have distinct : builtInKeys.Nodup := by decide
  rw [names_builtIn_append, List.eraseDups_append, OrderedMap.eraseDups_of_nodup distinct]
  exact List.prefix_append _ _

end SpecLexicon.Template
