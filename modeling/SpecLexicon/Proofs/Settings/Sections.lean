import SpecLexicon.Proofs.Settings.Change
import SpecLexicon.Proofs.Settings.Fields
import SpecLexicon.Proofs.Text.Split

/-!
# Sections by component

The name of a section falls into components at its points. One section lies within another if the
components of the other come first in its own. A change affects the sections within which something
changed: a section that is named by a mere beginning of a component is not affected.
-/

set_option autoImplicit false

namespace SpecLexicon

namespace Change

def components (shown : String) : List (List Char) :=
  Text.splitAtMark '.' shown.toList

/-- A section is another one or lies below it. -/
def IsWithin (inner outer : String) : Prop :=
  components outer <+: components inner

/-- A text with which the name of a section begins, and which ends inside of a component. -/
def IsMereBeginning (front shown : String) : Prop :=
  ∃ c rest, shown.toList = front.toList ++ c :: rest ∧ c ≠ '.'

section Within

variable {inner outer : String}

theorem isWithin_iff :
    IsWithin inner outer ↔ inner = outer ∨ (outer ++ ".").toList <+: inner.toList := by
  rw [IsWithin, components, components, Text.splitAtMark_prefix_iff, String.toList_append,
    String.toList_inj]
  rfl

theorem IsWithin.begins (within : IsWithin inner outer) : outer.toList <+: inner.toList := by
  rcases isWithin_iff.mp within with rfl | longer
  · exact List.prefix_refl _
  · rw [String.toList_append] at longer
    exact (List.prefix_append _ _).trans longer

theorem IsWithin.not_isMereBeginning (within : IsWithin inner outer) :
    ¬ IsMereBeginning outer inner := by
  rintro ⟨c, rest, begins, noPoint⟩
  rcases isWithin_iff.mp within with rfl | ⟨more, longer⟩
  · exact List.cons_ne_nil c rest (List.self_eq_append_right.mp begins)
  · rw [String.toList_append, begins, List.append_assoc] at longer
    exact noPoint (List.cons.inj (List.append_cancel_left longer)).1.symm

end Within

theorem affects_iff {change : Change} {queried : String} :
    change.affects queried = true ↔ ∃ changed ∈ change.sections, IsWithin changed queried := by
  simp [affects, isWithin_iff]

theorem affects_of_isWithin {change : Change} {queried parent : String}
    (below : IsWithin queried parent) (affected : change.affects queried = true) :
    change.affects parent = true := by
  obtain ⟨changed, member, within⟩ := affects_iff.mp affected
  exact affects_iff.mpr ⟨changed, member, below.trans within⟩

theorem affects_eq_false_of_isMereBeginning {change : Change} {queried : String}
    (mere : ∀ changed ∈ change.sections,
      queried.toList <+: changed.toList → IsMereBeginning queried changed) :
    change.affects queried = false := by
  rw [Bool.eq_false_iff]
  intro affected
  obtain ⟨changed, member, within⟩ := affects_iff.mp affected
  exact within.not_isMereBeginning (mere changed member within.begins)

end Change

/-!
## Fields that differ
-/

namespace Settings.Field

open Schema

variable {old middle new : Settings}

theorem mem_all (field : Field) : field ∈ all := by
  cases field <;> decide

theorem agrees_trans {first second third : Lines} (early : first.agrees second = true)
    (late : second.agrees third = true) : first.agrees third = true := by
  cases first <;> cases second <;> cases third <;>
    simp_all [Lines.agrees, Json.alike_eq_true_iff]

/-- What two configurations have in common, and the second one with a third, all three have. -/
theorem differs_eq_false_trans {field : Field} (early : field.differs old middle = false)
    (late : field.differs middle new = false) : field.differs old new = false := by
  cases field <;>
    simp only [differs, Bool.not_eq_false', Json.alike_eq_true_iff, bne_eq_false_iff_eq]
      at early late ⊢
  case motors | counters | templates => exact agrees_trans early late
  case preview | database | attempts | interval => exact early.trans late

theorem preview_of_build {sources : Sources} {settings : Settings}
    (built : build sources = .ok settings) : ∃ on, settings.preview = .state on := by
  obtain ⟨text, decoded⟩ := exists_fileText_of_build built
  have checked := checkFields_eq_valid_iff.mp (checkFields_of_build decoded built) .preview
  rw [checkField] at checked
  split at checked
  · exact ⟨true, (Checked.valid.inj checked).symm⟩
  · obtain ⟨on, _, same⟩ := Checked.map_eq_valid_iff.mp (Checked.within_eq_valid_iff.mp checked)
    exact ⟨on, same.symm⟩

theorem not_agrees_iff_ne {left right : Lines} (leftProper : left.IsProper)
    (rightProper : right.IsProper) : (!left.agrees right) = true ↔ left ≠ right := by
  rw [leftProper.eq_texts, rightProper.eq_texts, Lines.agrees_texts, Bool.not_eq_true',
    beq_eq_false_iff_ne, ne_eq, ne_eq, Lines.texts.injEq]

theorem alike_state_iff (left right : Bool) :
    (Switch.state left).toJson.alike (Switch.state right).toJson = true ↔ left = right := by
  cases left <;> cases right <;> decide

/-- Settings from sources differ in a field with a section exactly if its values are not equal. -/
theorem differs_iff_get_ne {oldSources newSources : Sources} (oldBuilt : build oldSources = .ok old)
    (newBuilt : build newSources = .ok new) {field : Field}
    (listed : field.configSection?.isSome = true) :
    field.differs old new = true ↔ old.get field ≠ new.get field := by
  have oldProper := isProper_of_build oldBuilt
  have newProper := isProper_of_build newBuilt
  cases field with
  | motors => exact not_agrees_iff_ne oldProper.motors newProper.motors
  | counters => exact not_agrees_iff_ne oldProper.counters newProper.counters
  | templates => exact not_agrees_iff_ne oldProper.templates newProper.templates
  | preview =>
    obtain ⟨oldOn, oldState⟩ := preview_of_build oldBuilt
    obtain ⟨newOn, newState⟩ := preview_of_build newBuilt
    change (!old.preview.toJson.alike new.preview.toJson) = true ↔ old.preview ≠ new.preview
    rw [oldState, newState, Bool.not_eq_true', ← Bool.not_eq_true, alike_state_iff, ne_eq,
      Switch.state.injEq]
  | database => exact bne_iff_ne
  | attempts => cases listed
  | interval => cases listed

end Settings.Field

namespace Change

open Settings

variable {old middle new : Settings}

theorem mem_sections_between {shown : String} :
    shown ∈ (between old new).sections ↔
      ∃ field : Field, field.differs old new = true ∧ field.configSection? = some shown := by
  rw [between, List.mem_filterMap]
  constructor
  · rintro ⟨field, _, found⟩
    by_cases different : field.differs old new = true
    · rw [if_pos different] at found
      exact ⟨field, different, found⟩
    · rw [if_neg different] at found
      cases found
  · rintro ⟨field, different, known⟩
    exact ⟨field, field.mem_all, by rw [if_pos different, known]⟩

theorem affects_between_iff {queried : String} :
    (between old new).affects queried = true ↔ ∃ (field : Field) (shown : String),
      field.differs old new = true ∧ field.configSection? = some shown ∧
        IsWithin shown queried := by
  rw [affects_iff]
  constructor
  · rintro ⟨shown, member, within⟩
    obtain ⟨field, different, known⟩ := mem_sections_between.mp member
    exact ⟨field, shown, different, known, within⟩
  · rintro ⟨field, shown, different, known, within⟩
    exact ⟨shown, mem_sections_between.mpr ⟨field, different, known⟩, within⟩

theorem sections_between_subset :
    (between old new).sections ⊆
      (between old middle).sections ++ (between middle new).sections := by
  intro shown member
  obtain ⟨field, different, known⟩ := mem_sections_between.mp member
  rw [List.mem_append, mem_sections_between, mem_sections_between]
  by_cases early : field.differs old middle = true
  · exact .inl ⟨field, early, known⟩
  · refine .inr ⟨field, ?_, known⟩
    rw [Bool.not_eq_true] at early
    cases late : field.differs middle new with
    | true => rfl
    | false =>
      rw [Field.differs_eq_false_trans early late] at different
      cases different

/-- The change between two configurations affects the sections within which a field differs. For any
change, what affects a section affects those above it, a mere beginning of a component is no section
above, and going by way of a third configuration changes no less. -/
theorem affects_by_components (old middle new : Settings) (change : Change) (queried : String) :
    ((between old new).affects queried = true ↔ ∃ (field : Field) (shown : String),
        field.differs old new = true ∧ field.configSection? = some shown ∧
          IsWithin shown queried) ∧
      (∀ oldSources newSources, build oldSources = .ok old → build newSources = .ok new →
        ∀ field : Field, field.configSection?.isSome = true →
          (field.differs old new = true ↔ old.get field ≠ new.get field)) ∧
      (change.affects queried = true ↔ ∃ changed ∈ change.sections, IsWithin changed queried) ∧
      (∀ parent, IsWithin queried parent →
        change.affects queried = true → change.affects parent = true) ∧
      ((∀ changed ∈ change.sections,
          queried.toList <+: changed.toList → IsMereBeginning queried changed) →
        change.affects queried = false) ∧
      (between old new).sections ⊆
        (between old middle).sections ++ (between middle new).sections := by
  refine ⟨affects_between_iff, ?differ, affects_iff, fun _ => affects_of_isWithin,
    affects_eq_false_of_isMereBeginning, sections_between_subset⟩
  case differ =>
    intro _ _ oldBuilt newBuilt field listed
    exact Field.differs_iff_get_ne oldBuilt newBuilt listed

def motorSources : Sources := ⟨[(Field.motors.name, .list [.string (.text "th")])], [], none⟩

def motorSettings : Settings := { standard with motors := .texts [.text "th"] }

/-- One motor more affects the section of the motors and the one above it, and no beginning of its
last component. -/
theorem affects_above_motors :
    build ⟨[], [], none⟩ = .ok standard ∧ build motorSources = .ok motorSettings ∧
      standard.get .motors ≠ motorSettings.get .motors ∧
      IsWithin "spec-command.mnemonic.motors" "spec-command.mnemonic" ∧
      (between standard motorSettings).affects "spec-command.mnemonic" = true ∧
      IsMereBeginning "spec-command.mnemonic.mot" "spec-command.mnemonic.motors" ∧
      (between standard motorSettings).affects "spec-command.mnemonic.mot" = false := by
  obtain ⟨affected, differ, _, above, _, _⟩ := affects_by_components standard standard motorSettings
    (between standard motorSettings) "spec-command.mnemonic.motors"
  obtain ⟨_, _, _, _, passed, _⟩ := affects_by_components standard standard motorSettings
    (between standard motorSettings) "spec-command.mnemonic.mot"
  have built : build motorSources = .ok motorSettings := (build_of_values _).trans rfl
  have different : Field.motors.differs standard motorSettings = true := rfl
  have within : IsWithin "spec-command.mnemonic.motors" "spec-command.mnemonic" :=
    isWithin_iff.mpr (.inr (by decide))
  have mere : IsMereBeginning "spec-command.mnemonic.mot" "spec-command.mnemonic.motors" :=
    ⟨'o', ['r', 's'], by decide⟩
  have only : (between standard motorSettings).sections = ["spec-command.mnemonic.motors"] := by
    decide +kernel
  refine ⟨build_nothing, built, (differ _ _ build_nothing built .motors rfl).mp different, within,
    above _ within (affected.mpr ⟨.motors, _, different, rfl, List.prefix_rfl⟩), mere,
    passed fun changed member _ => ?_⟩
  rw [only, List.mem_singleton] at member
  exact member ▸ mere

/-- A point at the end of a section's name is followed by an empty component. -/
example : affects ⟨["spec-command..motors"]⟩ "spec-command." = true ∧
    affects ⟨["spec-command.mnemonic.motors"]⟩ "spec-command." = false := by decide

end Change

end SpecLexicon
