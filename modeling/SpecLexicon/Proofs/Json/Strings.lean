import SpecLexicon.Proofs.Json.Bounds
import SpecLexicon.Proofs.Json.Unambiguous
import SpecLexicon.Proofs.Json.Writing

/-!
# Lists of strings

A list of strings has many texts. If none of its characters is escaped, each of them stands in the
text as often as in the strings, apart from those that make up the list. The reader gives such a
list for texts of the grammar only.
-/

set_option autoImplicit false

namespace SpecLexicon.Json

/-- The list of some texts. -/
def ofTexts (texts : List String) : Json :=
  .list (texts.map fun text => .string (.text text))

theorem isPlain_ofTexts {bound : Nat} (texts : List String) : IsPlain bound (ofTexts texts) :=
  .list fun item listed => by
    obtain ⟨text, _, rfl⟩ := List.mem_map.mp listed
    exact .string rfl

theorem isDocument_write (texts : List String) :
    IsDocument 1 (write (ofTexts texts)) (ofTexts texts) := by
  have document := (isPlain_ofTexts texts).isDocument Nat.one_pos
  rwa [toText, String.toList_ofList] at document

theorem hasDistinctKeys_ofTexts (texts : List String) : HasDistinctKeys (ofTexts texts) :=
  .list fun item listed => by
    obtain ⟨text, _, rfl⟩ := List.mem_map.mp listed
    exact .string _

theorem nesting_ofTexts (texts : List String) : (ofTexts texts).nesting ≤ 1 := by
  have flat : nestingOfItems (texts.map fun text => .string (.text text)) = 0 := by
    induction texts with
    | nil => rfl
    | cons text rest ih => simp [nestingOfItems, nesting, ih]
  cases texts with
  | nil => simp [ofTexts, nesting]
  | cons text rest =>
    rw [List.map_cons, nestingOfItems] at flat
    rw [ofTexts, List.map_cons, nesting]
    omega

theorem decode_of_texts {limit : Nat} {text : String} {texts : List String}
    (written : IsDocument limit text.toList (ofTexts texts)) :
    decode text = .ok (ofTexts texts) :=
  written.decode (isPlain_ofTexts texts).isBounded.allows_decoding (hasDistinctKeys_ofTexts texts)
    (Nat.lt_of_le_of_lt (nesting_ofTexts texts) (by decide))

/-!
## The parts of a list
-/

/-- The strings stand in the text one after the other, with layout and the marks of a list around
them. -/
inductive Spells : List Char → List String → Prop where
  | nil : Spells [] []
  | mark {c : Char} {rest : List Char} {texts : List String} :
      isLayout c = true ∨ c ∈ ['[', ']', ','] → Spells rest texts → Spells (c :: rest) texts
  | string {text rest : List Char} {string : String} {texts : List String} :
      WritesString text string.toList → Spells rest texts →
      Spells ('"' :: (text ++ rest)) (string :: texts)

namespace Spells

variable {text rest : List Char} {texts others : List String}

theorem append (spells : Spells text texts) (behind : Spells rest others) :
    Spells (text ++ rest) (texts ++ others) := by
  induction spells with
  | nil => exact behind
  | mark known _ ih => exact .mark known ih
  | string written _ ih =>
    rw [List.cons_append, List.append_assoc]
    exact .string written ih

theorem of_layout (isLayout : IsLayout text) : Spells text [] := by
  induction text with
  | nil => exact .nil
  | cons c rest ih =>
    exact .mark (.inl (isLayout c List.mem_cons_self))
      (ih fun d member => isLayout d (List.mem_cons_of_mem c member))

theorem layout_append (isLayout : IsLayout text) (spells : Spells rest texts) :
    Spells (text ++ rest) texts :=
  (of_layout isLayout).append spells

end Spells

section Document

variable {limit : Nat} {text : List Char} {texts : List String}

theorem exists_writesString {string : String}
    (written : Writes limit text (.string (.text string))) :
    ∃ rest, WritesString rest string.toList ∧ text = '"' :: rest := by
  generalize whole : Json.string (.text string) = value at written
  cases written with
  | word known =>
    subst whole
    simp [words] at known
  | number =>
    rw [ofNumeral] at whole
    split at whole <;> cases whole
  | @string rest body written =>
    cases whole
    exact ⟨rest, by rwa [String.toList_ofList], rfl⟩
  | emptyList | list | emptyObject | object => cases whole

theorem WritesItems.spells
    (written : WritesItems limit text (texts.map fun text => .string (.text text))) :
    Spells text texts := by
  induction texts generalizing text with
  | nil =>
    generalize whole : [].map (fun text => Json.string (.text text)) = items at written
    cases written <;> cases whole
  | cons string rest ih =>
    generalize whole : (string :: rest).map (fun text => Json.string (.text text)) = items
      at written
    rw [List.map_cons] at whole
    cases written with
    | last first after =>
      obtain ⟨rfl, empty⟩ := List.cons.inj whole
      obtain rfl := List.map_eq_nil_iff.mp empty
      obtain ⟨front, written, rfl⟩ := exists_writesString first
      exact .string written (.layout_append after (.mark (.inr (by decide)) .nil))
    | more first after before others =>
      obtain ⟨rfl, rfl⟩ := List.cons.inj whole
      obtain ⟨front, written, rfl⟩ := exists_writesString first
      exact .string written
        (.layout_append after (.mark (.inr (by decide)) (.layout_append before (ih others))))

theorem IsDocument.spells (written : IsDocument limit text (ofTexts texts)) :
    Spells text texts := by
  generalize whole : ofTexts texts = value at written
  cases written with
  | around before written after =>
    have inner : ∀ {text}, Spells text texts → Spells (text ++ _) (texts ++ []) := fun spells =>
      spells.append (.of_layout after)
    rw [List.append_nil] at inner
    refine .layout_append before (inner ?_)
    cases written with
    | word known =>
      subst whole
      simp [words, ofTexts] at known
    | number =>
      rw [ofNumeral] at whole
      split at whole <;> cases whole
    | emptyList layout =>
      obtain rfl := List.map_eq_nil_iff.mp (Json.list.inj whole)
      exact .mark (.inr (by decide)) (.layout_append layout (.mark (.inr (by decide)) .nil))
    | list layout items =>
      obtain rfl := Json.list.inj whole
      exact .mark (.inr (by decide)) (.layout_append layout items.spells)
    | string | emptyObject | object => cases whole

end Document

/-!
## Characters of a list
-/

/-- Without an escape a string is written as it is. -/
theorem WritesString.eq_of_plain {text body : List Char} (written : WritesString text body)
    (plain : '\\' ∉ text) : text = body ++ ['"'] := by
  induction written with
  | closed => rfl
  | @char first rest c body written _ ih =>
    rw [List.mem_append, not_or] at plain
    rw [ih plain.2]
    cases written with
    | plain => rfl
    | short => exact absurd List.mem_cons_self plain.1
    | unit => exact absurd List.mem_cons_self plain.1
    | pair => exact absurd List.mem_cons_self plain.1

/-- Without an escape a character that is neither layout nor a mark stands in the strings only. -/
theorem Spells.count_eq {text : List Char} {texts : List String} {c : Char}
    (layout : isLayout c = false) (mark : c ∉ ['"', '[', ']', ',']) (spells : Spells text texts)
    (plain : '\\' ∉ text) : text.count c = (texts.flatMap String.toList).count c := by
  induction spells with
  | nil => rfl
  | @mark d rest texts known _ ih =>
    have other : d ≠ c := by
      rintro rfl
      rcases known with isLayout | isMark
      · rw [layout] at isLayout
        cases isLayout
      · exact mark (List.mem_cons_of_mem '"' isMark)
    rw [List.mem_cons, not_or] at plain
    rw [List.count_cons_of_ne other, ih plain.2]
  | string written _ ih =>
    have quote : '"' ≠ c := fun same => mark (same ▸ List.mem_cons_self)
    simp only [List.mem_cons, List.mem_append, not_or] at plain
    rw [written.eq_of_plain plain.2.1]
    simp [quote, ih plain.2.2]

/-!
## What is read as a list
-/

section Reader

variable {dialect : Dialect} {limit : Nat}

theorem exists_layout_append (text : List Char) :
    ∃ layout, IsLayout layout ∧ text = layout ++ skipLayout text :=
  ⟨text.takeWhile isLayout, fun c member => List.all_eq_true.mp List.all_takeWhile c member,
    List.takeWhile_append_dropWhile.symm⟩

theorem writesString_of_readString? {fuel : Nat} {text rest : List Char} {points : List CodePoint}
    (plain : '\\' ∉ text) (read : readString? dialect fuel text = some (points, rest)) :
    ∃ front body, WritesString front body ∧ points = body.map .char ∧ text = front ++ rest := by
  induction fuel generalizing text points with
  | zero => cases read
  | succ fuel ih =>
    unfold readString? at read
    split at read
    · cases read
      exact ⟨['"'], [], .closed, rfl, rfl⟩
    · rename_i unquoted
      split at read
      · cases read
      · rename_i point behind first
        split at read
        · cases read
        · rename_i body last others
          cases read
          cases text with
          | nil => cases first
          | cons c tail =>
            rw [List.mem_cons, not_or] at plain
            rw [readChar?, if_neg (Ne.symm plain.1)] at first
            split at first
            · cases first
            · rename_i visible
              cases first
              obtain ⟨front, letters, written, rfl, rfl⟩ := ih plain.2 others
              have quote : c ≠ '"' := fun same => unquoted _ (by rw [same])
              have single : WritesChar [c] c :=
                .plain (Nat.le_of_not_lt visible) quote (Ne.symm plain.1)
              exact ⟨c :: front, c :: letters, .char single written, rfl, rfl⟩

theorem ne_of_readAtom {text rest : List Char} {value : Json}
    (read : readAtom dialect text = .ok (value, rest)) :
    (∀ found, value ≠ .string found) ∧ ∀ items, value ≠ .list items := by
  unfold readAtom at read
  split at read
  · rename_i entry named
    obtain ⟨name, listed, stripped⟩ := List.exists_of_findSome?_eq_some named
    obtain ⟨behind, _, rfl⟩ := Option.map_eq_some_iff.mp stripped
    have others : ∀ name ∈ names, (∀ found, name.2 ≠ .string found) ∧
        ∀ items, name.2 ≠ .list items := by
      simp [names]
    cases read
    exact others name listed
  · unfold readNumber at read
    dsimp only at read
    split at read
    · cases read
    · split at read
      · cases read
      · cases read
        rw [ofNumeral]
        split <;> simp

theorem writesString_of_readQuoted {text rest : List Char} {body : LooseText}
    (plain : '\\' ∉ text) (read : readQuoted dialect text = .ok (body, rest)) :
    ∃ front letters, WritesString front letters ∧ body = .text (String.ofList letters) ∧
      text = front ++ rest := by
  unfold readQuoted at read
  split at read
  · rename_i points others chars
    cases read
    obtain ⟨front, letters, written, rfl, split⟩ := writesString_of_readString? plain chars
    exact ⟨front, letters, written, LooseText.ofPoints_map_char letters, split⟩
  · cases read

theorem writes_of_readValue {fuel depth : Nat} {text rest : List Char} {found : LooseText}
    (plain : '\\' ∉ text)
    (read : readValue dialect fuel depth text = .ok (.string found, rest)) :
    ∃ front, Writes limit front (.string found) ∧ text = front ++ rest := by
  cases fuel with
  | zero => cases read
  | succ fuel =>
    cases readsValue_of_readValue read with
    | string quoted =>
      rw [List.mem_cons, not_or] at plain
      obtain ⟨front, letters, written, rfl, rfl⟩ := writesString_of_readQuoted plain.2 quoted
      exact ⟨'"' :: front, .string written, rfl⟩
    | atom atom => exact absurd rfl ((ne_of_readAtom atom).1 found)

theorem writesItems_of_readItems {fuel depth : Nat} {text rest : List Char} {texts : List String}
    (plain : '\\' ∉ text)
    (read : readItems dialect fuel depth text =
      .ok (texts.map fun text => .string (.text text), rest)) :
    ∃ front, WritesItems limit front (texts.map fun text => .string (.text text)) ∧
      text = front ++ rest := by
  induction fuel generalizing text texts with
  | zero => cases read
  | succ fuel ih =>
    generalize whole : texts.map (fun text => Json.string (.text text)) = items at read
    cases readsItems_of_readItems read with
    | @last behind _ item first closed =>
      obtain ⟨after, isLayout, behind_eq⟩ := exists_layout_append behind
      obtain ⟨string, rfl, rfl⟩ := List.map_eq_singleton_iff.mp whole
      obtain ⟨front, written, rfl⟩ := writes_of_readValue plain first
      refine ⟨front ++ (after ++ [']']), .last written isLayout, ?_⟩
      rw [behind_eq, closed]
      simp
    | @more behind later _ item items first continued more =>
      obtain ⟨after, isLayout, behind_eq⟩ := exists_layout_append behind
      obtain ⟨before, isLayoutBefore, later_eq⟩ := exists_layout_append later
      obtain ⟨string, strings, rfl, rfl, rfl⟩ := List.map_eq_cons_iff.mp whole
      obtain ⟨front, written, rfl⟩ := @writes_of_readValue dialect limit _ _ _ _ _ plain first
      rw [behind_eq, continued, later_eq] at plain ⊢
      simp only [List.mem_append, List.mem_cons, not_or] at plain
      obtain ⟨items, writtenItems, inner⟩ := ih plain.2.2.2.2 more
      refine ⟨front ++ (after ++ ',' :: (before ++ items)),
        .more written isLayout isLayoutBefore writtenItems, ?_⟩
      rw [inner]
      simp

theorem writes_of_readValue_texts {fuel depth : Nat} {text rest : List Char}
    {texts : List String} (plain : '\\' ∉ text)
    (read : readValue dialect fuel depth text = .ok (ofTexts texts, rest)) :
    ∃ front, Writes limit front (ofTexts texts) ∧ text = front ++ rest := by
  cases fuel with
  | zero => cases read
  | succ fuel =>
    generalize whole : ofTexts texts = value at read
    cases readsValue_of_readValue read with
    | string _ => cases whole
    | @emptyList opened _ closed =>
      obtain ⟨layout, isLayout, opened_eq⟩ := exists_layout_append opened
      rw [closed] at opened_eq
      exact ⟨'[' :: (layout ++ [']']), .emptyList isLayout, by rw [opened_eq]; simp⟩
    | @list opened _ items inner =>
      obtain ⟨layout, isLayout, opened_eq⟩ := exists_layout_append opened
      obtain rfl := Json.list.inj whole
      rw [opened_eq] at plain
      simp only [List.mem_cons, List.mem_append, not_or] at plain
      obtain ⟨front, written, behind⟩ := writesItems_of_readItems plain.2.2 inner
      refine ⟨'[' :: (layout ++ front), .list isLayout written, ?_⟩
      rw [opened_eq, behind]
      simp
    | emptyObject _ => cases whole
    | object _ => cases whole
    | atom atom => exact absurd whole.symm ((ne_of_readAtom atom).2 _)

theorem isDocument_of_readText {text : List Char} {texts : List String} (plain : '\\' ∉ text)
    (read : readText dialect text = .ok (ofTexts texts)) :
    IsDocument limit text (ofTexts texts) := by
  obtain ⟨before, isLayout, text_eq⟩ := exists_layout_append text
  rw [readText] at read
  split at read
  · cases read
  · rename_i value rest found
    split at read
    · rename_i closed
      cases read
      obtain ⟨after, isLayoutAfter, rest_eq⟩ := exists_layout_append rest
      have inner : '\\' ∉ skipLayout text := by
        rw [text_eq, List.mem_append, not_or] at plain
        exact plain.2
      obtain ⟨front, written, behind⟩ := writes_of_readValue_texts inner found
      rw [closed, List.append_nil] at rest_eq
      rw [text_eq, behind, rest_eq]
      exact .around isLayout written isLayoutAfter
    · cases read

theorem eq_ofTexts_of_settle {value : Json} {texts : List String}
    (settled : settle value = ofTexts texts) : value = ofTexts texts := by
  cases value with
  | list items =>
    rw [settle, ofTexts, Json.list.injEq] at settled
    rw [ofTexts, Json.list.injEq]
    induction items generalizing texts with
    | nil =>
      rw [settleItems] at settled
      exact settled
    | cons item rest ih =>
      rw [settleItems] at settled
      obtain ⟨text, others, rfl, same, later⟩ := List.map_eq_cons_iff.mp settled.symm
      rw [List.map_cons, ih later.symm]
      cases item with
      | string found =>
        rw [settle] at same
        rw [same]
      | null | bool | integer | real | list | object =>
        rw [settle] at same
        cases same
  | null | bool | integer | real | string | object =>
    rw [settle] at settled
    cases settled

theorem isDocument_of_decode {text : String} {texts : List String} (plain : '\\' ∉ text.toList)
    (read : decode text = .ok (ofTexts texts)) :
    IsDocument limit text.toList (ofTexts texts) := by
  obtain ⟨value, found, settled⟩ := exists_of_map_eq_ok read
  rw [eq_ofTexts_of_settle settled] at found
  exact isDocument_of_readText plain found

end Reader

end SpecLexicon.Json
