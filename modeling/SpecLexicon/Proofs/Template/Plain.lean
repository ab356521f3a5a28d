import SpecLexicon.Proofs.Template.Forms
import SpecLexicon.Proofs.Template.Symbols

/-!
# Characters that templates keep out

A pass of substitution writes what it finds and what it puts in the place of placeholders. So what
is neither in a body nor in one of the words that stand for placeholders is not in its signature
either. A line feed of a body is also in its signature, unless it stands among choices. A body has
no hash, since a remark starts at the first one.
-/

set_option autoImplicit false

namespace SpecLexicon

namespace Placeholder

open Text

theorem avoids_labeled (c : Char) : Recognizer.Avoids labeled c := by
  intro text shown rest found absent
  obtain ⟨opening, _, _, _, rfl⟩ := labeled_eq_some_iff.mp found
  simp only [List.mem_append, List.mem_cons, not_or] at absent
  exact ⟨absent.2.2.1, absent.2.2.2.2⟩

theorem avoids_choice {c : Char} (other : c ∉ "choice".toList) : Recognizer.Avoids choice c := by
  intro text shown rest found absent
  obtain ⟨rfl, opening, choices, _, _, _, rfl⟩ := choice_eq_some_iff.mp found
  simp only [List.mem_append, List.mem_cons, not_or] at absent
  exact ⟨other, absent.2.2.2.2.2⟩

/-- A placeholder has no line feed but in its label. -/
theorem keeps_labeled : Recognizer.Keeps labeled '\n' := by
  intro text shown rest found member
  obtain ⟨opening, numbered, _, _, rfl⟩ := labeled_eq_some_iff.mp found
  have absent : '\n' ∉ opening := numbered.not_mem (by decide) (by decide)
  simpa [absent] using member

end Placeholder

namespace Template

open Text Placeholder

/-- The words that a signature has in the place of placeholders. -/
def standIns : List Char :=
  ":motor:counterchoice".toList

theorem standIns_eq :
    standIns = fill [] "motor".toList ++ (fill [] "counter".toList ++ "choice".toList) :=
  rfl

/-- The signature of a body before the pass for choices. -/
def choicesKept (body : List Char) : List Char :=
  substitute labeled (insertable [] [] body)

theorem signature_eq_substitute (body : List Char) :
    signature body = substitute choice (choicesKept body) :=
  rfl

theorem not_mem_choicesKept {c : Char} {body : List Char} (other : c ∉ standIns)
    (absent : c ∉ body) : c ∉ choicesKept body := by
  rw [standIns_eq, List.mem_append, List.mem_append, not_or, not_or] at other
  have motors : (literal motorMarker _).Avoids c := avoids_literal other.1
  have counters : (literal counterMarker _).Avoids c := avoids_literal other.2.1
  exact (avoids_labeled c).substitute (counters.substitute (motors.substitute absent))

theorem not_mem_signature {c : Char} {body : List Char} (other : c ∉ standIns) (absent : c ∉ body) :
    c ∉ signature body := by
  have word : c ∉ "choice".toList := by
    intro member
    rw [standIns_eq] at other
    exact other (List.mem_append_right _ (List.mem_append_right _ member))
  exact (avoids_choice word).substitute (not_mem_choicesKept other absent)

theorem mem_choicesKept {body : List Char} (member : '\n' ∈ body) : '\n' ∈ choicesKept body := by
  have motors : (literal motorMarker (fill [] "motor".toList)).Keeps '\n' :=
    keeps_literal (by decide)
  have counters : (literal counterMarker (fill [] "counter".toList)).Keeps '\n' :=
    keeps_literal (by decide)
  exact keeps_labeled.substitute (counters.substitute (motors.substitute member))

/-- Line feeds are lost only among choices. -/
theorem mem_signature_iff {body : List Char} (unbarred : '|' ∉ body) :
    '\n' ∈ signature body ↔ '\n' ∈ body := by
  have kept : '|' ∉ choicesKept body := not_mem_choicesKept (by decide) unbarred
  have same : signature body = choicesKept body := by
    rw [signature_eq_substitute]
    refine substitute_eq_self (finds_choice.absent_iff.mpr ?_)
    rintro _ ⟨_, _, _⟩ inside
    exact kept (inside.subset (by simp))
  constructor
  · intro member
    apply Decidable.byContradiction
    intro absent
    exact not_mem_signature (by decide) absent member
  · intro member
    rw [same]
    exact mem_choicesKept member

/-- A body is a part of the line in front of its remark. -/
theorem mem_front_of_mem_body {key blanks words : List Char} {c : Char}
    (member : c ∈ bodyOf key blanks words) : c ∈ key ++ (blanks ++ words) := by
  rw [bodyOf] at member
  split at member
  · exact member
  · exact mem_of_mem_dropBlankEnd member

theorem mem_text_of_mem_body {text : String} {template : Template}
    (parsed : parse? text = some template) {c : Char} (member : c ∈ template.body) :
    c ∈ text.toList := by
  obtain ⟨blanks, words, remark, parts, _, body, _⟩ := parseTrimmed?_eq_some_iff.mp parsed
  rw [body] at member
  have trimmed : c ∈ trim text.toList := by
    rw [parts.whole]
    exact List.mem_append_left _ (mem_front_of_mem_body member)
  exact (List.dropWhile_suffix isBlank).subset (mem_of_mem_dropBlankEnd trimmed)

theorem hash_not_mem_body {text : String} {template : Template}
    (parsed : parse? text = some template) : '#' ∉ template.body := by
  obtain ⟨blanks, words, remark, parts, _, body, _⟩ := parseTrimmed?_eq_some_iff.mp parsed
  have plain := parts.front_plain
  rw [body]
  exact fun member => plain (mem_front_of_mem_body member)

theorem isRemark_of_parse? {text : String} {template : Template}
    (parsed : parse? text = some template) : ∀ comment ∈ template.comment, IsRemark comment := by
  obtain ⟨blanks, words, remark, _, accepted, _, commented⟩ := parseTrimmed?_eq_some_iff.mp parsed
  intro comment shown
  rw [commented, commentOf] at shown
  obtain ⟨kept, trimmed, rfl⟩ := Option.map_eq_some_iff.mp shown
  obtain ⟨remark, rfl, trimmed⟩ := Option.bind_eq_some_iff.mp trimmed
  have read : readRemark? remark = some (some kept) := by
    have kept : trimmed? remark = some kept := trimmed
    rw [readRemark?, if_neg (accepted.oneLine remark rfl), trimmed?_dropBlank, kept]
  obtain ⟨visible, trimmed, plain⟩ := of_readRemark? read
  refine ⟨?_, by rwa [String.toList_ofList], by rwa [String.toList_ofList]⟩
  simpa using visible

end Template

end SpecLexicon
