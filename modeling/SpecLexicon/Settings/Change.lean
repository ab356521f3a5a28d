import SpecLexicon.Settings.Basic

/-!
# Configuration changes

A change is known by the sections of the configuration that it touches. It affects a section when it
touches that section or one below it; the names of sections below one another are separated by
points.
-/

set_option autoImplicit false

namespace SpecLexicon

/-- The sections that changed. -/
structure Change where
  sections : List String
deriving DecidableEq, Repr

namespace Change

/-- A section is affected when it changed or a section below it did. -/
def affects (change : Change) (queried : String) : Bool :=
  change.sections.any fun changed =>
    changed == queried || (queried ++ ".").toList.isPrefixOf changed.toList

/-- The change between two configurations: the sections of the fields that differ. -/
def between (left right : Settings) : Change where
  sections := Settings.Field.all.filterMap fun field =>
    if field.differs left right then field.configSection? else none

def affectsField (change : Change) (field : Settings.Field) : Bool :=
  field.configSection?.any change.affects

end Change

end SpecLexicon
