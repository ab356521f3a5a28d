import SpecLexicon.Item
import SpecLexicon.Journal
import SpecLexicon.Rejection
import SpecLexicon.Text.Remark
import SpecLexicon.Text.Word

/-!
# Mnemonics

The short names of motors and counters. A configuration line holds a name of at most seven
characters and may end with a remark that describes it. A list of lines becomes a map of symbols: of
lines with the same name the last one counts, and a line of any other form is passed over with a
record.
-/

set_option autoImplicit false

namespace SpecLexicon

/-- A name fits when it is one word of at most seven characters. -/
def IsMnemonicName (name : List Char) : Prop :=
  Text.IsWord name ∧ name.length ≤ 7

/-- A motor or a counter, by its name. -/
structure Mnemonic where
  name : List Char
  description : Option String
  name_fits : IsMnemonicName name

namespace Mnemonic

def parseTrimmed? (line : List Char) : Option Mnemonic :=
  match split : Text.leadingWord? line with
  | none => none
  | some (word, rest) =>
    if short : word.length ≤ 7 then
      let fits : IsMnemonicName word := ⟨Text.isWord_of_leadingWord? split, short⟩
      match Text.dropBlank rest with
      | [] => some ⟨word, none, fits⟩
      | c :: remark =>
        if c = '#' then
          (Text.readRemark? remark).map fun description =>
            ⟨word, description.map String.ofList, fits⟩
        else none
    else none

def parse? (text : String) : Option Mnemonic :=
  parseTrimmed? (Text.trim text.toList)

theorem isBlank_of_isWordStart {c : Char} (start : Text.isWordStart c = true) :
    Text.isBlank c = false := by
  have letter : ((decide ('A'.val ≤ c.val ∧ c.val ≤ 'Z'.val) ||
      decide ('a'.val ≤ c.val) && decide (c.val ≤ 'z'.val)) || c == '_') = true := start
  simp only [Bool.or_eq_true, Bool.and_eq_true, decide_eq_true_eq, beq_iff_eq] at letter
  simp only [Text.isBlank, Bool.or_eq_false_iff, Bool.and_eq_false_iff, decide_eq_false_iff_not,
    beq_eq_false_iff_ne, ne_eq]
  have point : 65 ≤ c.toNat ∧ c.toNat ≤ 122 := by
    rcases letter with (⟨lower, upper⟩ | ⟨lower, upper⟩) | same
    · exact ⟨UInt32.le_iff_toNat_le.mp lower,
        Nat.le_trans (UInt32.le_iff_toNat_le.mp upper) (by decide)⟩
    · exact ⟨Nat.le_trans (by decide) (UInt32.le_iff_toNat_le.mp lower),
        UInt32.le_iff_toNat_le.mp upper⟩
    · subst same
      decide
  omega

theorem isVisible_name (mnemonic : Mnemonic) : IsVisible (String.ofList mnemonic.name) := by
  obtain ⟨first, rest, same, start, _⟩ := mnemonic.name_fits.1
  intro blank
  have := blank first (by simp [same])
  rw [isBlank_of_isWordStart start] at this
  exact Bool.false_ne_true this

def text (mnemonic : Mnemonic) : String := String.ofList mnemonic.name

def item (mnemonic : Mnemonic) : Item :=
  Item.ofSignature mnemonic.text mnemonic.description none mnemonic.isVisible_name

end Mnemonic

/-- A map of symbols that was built anew, with the records of the work. -/
structure Rebuilt where
  items : ItemMap
  journal : List Record

namespace Mnemonic

def rejection (text : LooseText) : Record :=
  ⟨.debug, .mnemonics, "Skipped: " ++ (Rejection.mk text "mnemonic").message⟩

def addLine (built : Rebuilt) (text : LooseText) : Rebuilt :=
  match parse? text.plain with
  | some mnemonic => { built with items := built.items.insert mnemonic.text mnemonic.item }
  | none => { built with journal := built.journal ++ [rejection text] }

def rebuild (target : ItemMap) (texts : List LooseText) : Rebuilt :=
  texts.foldl addLine ⟨target.clear, []⟩

end Mnemonic

end SpecLexicon
