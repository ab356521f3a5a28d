import SpecLexicon.Proofs.Schema.Checked
import SpecLexicon.Settings.Sources

/-!
# Proper settings

Settings are proper when their motors, counters and templates are lists of texts. All settings that
are built from sources are proper; only a program that puts values into settings without a check
makes others.
-/

set_option autoImplicit false

namespace SpecLexicon

def Lines.IsProper (lines : Lines) : Prop :=
  ∃ texts, lines = .texts texts

theorem Lines.IsProper.eq_texts {lines : Lines} (proper : lines.IsProper) :
    lines = .texts lines.readable := by
  obtain ⟨texts, rfl⟩ := proper
  rfl

theorem Lines.IsProper.eq_of_agrees {left right : Lines} (leftProper : left.IsProper)
    (rightProper : right.IsProper) (same : left.agrees right = true) : left = right := by
  obtain ⟨leftTexts, rfl⟩ := leftProper
  obtain ⟨rightTexts, rfl⟩ := rightProper
  rw [Lines.agrees_texts, beq_iff_eq] at same
  rw [same]

namespace Settings

/-- The lines of all three fields are lists of texts. -/
structure IsProper (settings : Settings) : Prop where
  motors : settings.motors.IsProper
  counters : settings.counters.IsProper
  templates : settings.templates.IsProper

theorem IsProper.isRow {settings : Settings} (proper : settings.IsProper) :
    settings.templates.isRow = true := by
  rw [proper.templates.eq_texts]
  rfl

theorem isProper_standard : standard.IsProper :=
  ⟨⟨_, rfl⟩, ⟨_, rfl⟩, ⟨_, rfl⟩⟩

open Schema

/-!
## Fields and their checks
-/

def Field.Value : Field → Type
  | motors => Lines
  | counters => Lines
  | templates => Lines
  | preview => Switch
  | database => Location
  | attempts => Count
  | interval => Delay

/-- The value of a field in the settings. -/
def get (settings : Settings) : (field : Field) → field.Value
  | .motors => settings.motors
  | .counters => settings.counters
  | .templates => settings.templates
  | .preview => settings.preview
  | .database => settings.database
  | .attempts => settings.attempts
  | .interval => settings.interval

/-- The check that a JSON value has to pass for a field, and what it becomes. -/
def Field.check : (field : Field) → Json → Checked field.Value
  | motors => checkedLines
  | counters => checkedLines
  | templates => checkedLines
  | preview => fun json => (boolean json).map .state
  | database => location
  | attempts => checkedCount
  | interval => fun json => (positiveReal json).map .exact

theorem ext_get {left right : Settings} (same : ∀ field, left.get field = right.get field) :
    left = right := by
  cases left
  cases right
  rw [Settings.mk.injEq]
  exact ⟨same .motors, same .counters, same .templates, same .preview, same .database,
    same .attempts, same .interval⟩

theorem isProper_of_checkField {found : Field → Option Json} {field : Field}
    {texts : List LooseText} {lines : Lines}
    (accepted : checkField found field (.texts texts) checkedLines = .valid lines) :
    lines.IsProper := by
  rw [checkField] at accepted
  split at accepted
  · exact ⟨texts, (Checked.valid.inj accepted).symm⟩
  · rw [Checked.within_eq_valid_iff, checkedLines, Checked.map_eq_valid_iff] at accepted
    obtain ⟨items, _, same⟩ := accepted
    exact ⟨items, same.symm⟩

/-- The settings are those whose fields come from their checks. -/
theorem checkFields_eq_valid_iff {found : Field → Option Json} {settings : Settings} :
    checkFields found = .valid settings ↔ ∀ field,
      checkField found field (standard.get field) field.check = .valid (settings.get field) := by
  rw [checkFields, Checked.map_eq_valid_iff]
  constructor
  · rintro ⟨⟨motors, counters, templates, preview, database, attempts, interval⟩, fields, rfl⟩
    simp only [Checked.both_eq_valid_iff] at fields
    obtain ⟨motorsChecked, countersChecked, templatesChecked, previewChecked, databaseChecked,
      attemptsChecked, intervalChecked⟩ := fields
    rintro (_ | _)
    · exact motorsChecked
    · exact countersChecked
    · exact templatesChecked
    · exact previewChecked
    · exact databaseChecked
    · exact attemptsChecked
    · exact intervalChecked
  · intro fields
    refine ⟨(settings.motors, settings.counters, settings.templates, settings.preview,
      settings.database, settings.attempts, settings.interval), ?_, rfl⟩
    simp only [Checked.both_eq_valid_iff]
    exact ⟨fields .motors, fields .counters, fields .templates, fields .preview,
      fields .database, fields .attempts, fields .interval⟩

theorem isProper_of_checkFields {found : Field → Option Json} {settings : Settings}
    (accepted : checkFields found = .valid settings) : settings.IsProper := by
  have checked := checkFields_eq_valid_iff.mp accepted
  exact ⟨isProper_of_checkField (checked .motors), isProper_of_checkField (checked .counters),
    isProper_of_checkField (checked .templates)⟩

theorem isProper_of_build {sources : Sources} {settings : Settings}
    (built : build sources = .ok settings) : settings.IsProper := by
  simp only [build, bind, Except.bind] at built
  split at built
  · cases built
  · split at built
    · cases built
    · split at built
      · cases built
      · split at built
        · rename_i accepted
          cases built
          exact isProper_of_checkFields (Checked.both_eq_valid_iff.mp accepted).1
        · cases built

end Settings

end SpecLexicon
