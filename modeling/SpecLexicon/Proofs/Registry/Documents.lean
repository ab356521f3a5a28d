import SpecLexicon.Proofs.Registry.Layout

/-!
# What a request for a document gives

A request gives a manual if it is not cancelled and its URI is one of the system whose source is
there, and nothing if not. Only a URI that cannot be split fails, for its authority alone.
-/

set_option autoImplicit false

namespace SpecLexicon

namespace Uri

/-- The characters for which an authority may be refused. -/
def isSuspicious (c : Char) : Bool :=
  c == '[' || c == ']' || delimiterLookalikes.contains c.toNat

theorem check_of_plain {authority : List Char}
    (plain : ∀ c ∈ authority, isSuspicious c = false) : check authority = .ok () := by
  simp only [isSuspicious, Bool.or_eq_false_iff, beq_eq_false_iff_ne, ne_eq] at plain
  have opening : authority.contains '[' = false := by
    rw [List.contains_eq_mem, decide_eq_false_iff_not]
    exact fun member => (plain _ member).1.1 rfl
  have closing : authority.contains ']' = false := by
    rw [List.contains_eq_mem, decide_eq_false_iff_not]
    exact fun member => (plain _ member).1.2 rfl
  have lookalike : ¬authority.any (fun c => delimiterLookalikes.contains c.toNat) = true := by
    rw [List.any_eq_true]
    rintro ⟨c, member, found⟩
    rw [(plain c member).2] at found
    cases found
  rw [check, checkBrackets, opening, closing, checkLookalikes, if_neg lookalike]
  rfl

theorem exists_isSuspicious_of_refused {authority : List Char} {fault : Fault}
    (refused : check authority = .error fault) : ∃ c ∈ authority, isSuspicious c = true := by
  apply Classical.byContradiction
  intro plain
  have accepted : check authority = .ok () :=
    check_of_plain fun c member => by simpa using fun found => plain ⟨c, member, found⟩
  rw [accepted] at refused
  cases refused

theorem IsSystem.check {uri : Uri} (system : uri.IsSystem) : check uri.authority = .ok () := by
  rw [system.2]
  exact check_system

end Uri

namespace Registry

theorem served_of_absent {store : Store} {uri : Uri}
    (absent : ¬(uri.IsSystem ∧ store.contains (String.ofList uri.source) = true)) :
    served store uri = .ok none := by
  rw [served]
  split
  · rename_i system
    cases found : store.get? (String.ofList uri.source) with
    | none => rfl
    | some partition =>
      refine absurd ⟨system, ?_⟩ absent
      rw [Store.contains, found]
      rfl
  · rfl

theorem Layout.served {store : Store} (layout : Layout store) {uri : Uri} {partition : Partition}
    (system : uri.IsSystem) (stored : store.get? (String.ofList uri.source) = some partition) :
    served store uri =
      .ok (some (Manual.document (some (String.ofList uri.query)) partition)) := by
  rw [Registry.served, if_pos system, stored]
  have listed := layout.isListed stored (ne_activeDocument system.isSystemSource).symm
  exact shown_of_isListed listed _

theorem Layout.served_eq_none_iff {store : Store} (layout : Layout store) {uri : Uri} :
    Registry.served store uri = .ok none ↔
      ¬(uri.IsSystem ∧ store.contains (String.ofList uri.source) = true) := by
  constructor
  · rintro none ⟨system, contained⟩
    obtain ⟨partition, stored⟩ := Option.isSome_iff_exists.mp contained
    rw [layout.served system stored] at none
    cases none
  · exact served_of_absent

theorem Layout.served_eq_some_iff {store : Store} (layout : Layout store) {uri : Uri}
    {text : String} :
    Registry.served store uri = .ok (some text) ↔ uri.IsSystem ∧
      ∃ partition, store.get? (String.ofList uri.source) = some partition ∧
        text = Manual.document (some (String.ofList uri.query)) partition := by
  constructor
  · intro answered
    have present : uri.IsSystem ∧ store.contains (String.ofList uri.source) = true := by
      apply Classical.byContradiction
      intro absent
      rw [served_of_absent absent] at answered
      cases answered
    obtain ⟨system, contained⟩ := present
    obtain ⟨partition, stored⟩ := Option.isSome_iff_exists.mp contained
    rw [layout.served system stored] at answered
    cases answered
    exact ⟨system, partition, stored, rfl⟩
  · rintro ⟨system, partition, stored, rfl⟩
    exact layout.served system stored

theorem Layout.served_ne_error {store : Store} (layout : Layout store) {uri : Uri}
    {fault : Fault} : Registry.served store uri ≠ .error fault := by
  by_cases present : uri.IsSystem ∧ store.contains (String.ofList uri.source) = true
  · obtain ⟨partition, stored⟩ := Option.isSome_iff_exists.mp present.2
    rw [layout.served present.1 stored]
    nofun
  · rw [served_of_absent present]
    nofun

theorem documentText_of_refused {registry : Registry} {uri : String} {fault : Uri.Fault}
    (refused : Uri.check (Uri.parts uri.toList).authority = .error fault) :
    registry.documentText uri false = .error (.badUri fault) := by
  rw [documentText_eq, Uri.split_eq, refused]
  rfl

theorem documentText_of_accepted {registry : Registry} {uri : String}
    (accepted : Uri.check (Uri.parts uri.toList).authority = .ok ()) :
    registry.documentText uri false = served registry.store (Uri.parts uri.toList) := by
  rw [documentText_eq, Uri.split_eq, accepted]
  rfl

/-- A request for a document gives the manual of a stored source of the system or nothing, and it
fails only if the authority of the URI is refused, whatever happened to the registry before. -/
theorem Attainable.documentText_answers {registry : Registry} (attainable : Attainable registry)
    (uri : String) :
    let parts := Uri.parts uri.toList
    let source := String.ofList parts.source
    registry.documentText uri true = .ok none ∧
      (∀ fault, registry.documentText uri false = .error fault ↔
        ∃ refused, Uri.check parts.authority = .error refused ∧ fault = .badUri refused) ∧
      (registry.documentText uri false = .ok none ↔ Uri.check parts.authority = .ok () ∧
        ¬(parts.IsSystem ∧ registry.store.contains source = true)) ∧
      (∀ text, registry.documentText uri false = .ok (some text) ↔ parts.IsSystem ∧
        ∃ partition, registry.store.get? source = some partition ∧
          text = Manual.document (some (String.ofList parts.query)) partition) ∧
      ((∃ refused, Uri.check parts.authority = .error refused) →
        ¬parts.IsSystem ∧ ∃ c ∈ parts.authority, Uri.isSuspicious c = true) := by
  intro parts source
  refine ⟨rfl, ?_⟩
  cases checked : Uri.check parts.authority with
  | error refused =>
    have outside : ¬parts.IsSystem := by
      intro system
      rw [system.check] at checked
      cases checked
    rw [documentText_of_refused checked]
    refine ⟨?_, ⟨nofun, fun accepted => nomatch accepted.1⟩,
      fun text => ⟨nofun, fun answered => absurd answered.1 outside⟩,
      fun _ => ⟨outside, Uri.exists_isSuspicious_of_refused checked⟩⟩
    intro fault
    constructor
    · intro same
      cases same
      exact ⟨refused, rfl, rfl⟩
    · rintro ⟨_, same, rfl⟩
      cases same
      rfl
  | ok _ =>
    have layout := attainable.isLaidOut.layout
    rw [documentText_of_accepted checked]
    refine ⟨fun fault => ⟨fun failed => absurd failed layout.served_ne_error, nofun⟩, ?_,
      fun text => layout.served_eq_some_iff, nofun⟩
    rw [layout.served_eq_none_iff]
    exact ⟨fun absent => ⟨rfl, absent⟩, fun answered => answered.2⟩

theorem documentText_of_motors :
    Attainable (create .standard none) ∧ ∃ partition,
      (create .standard none).store.get? Source.motor = some partition ∧
        (create .standard none).documentText "SPEC://system/mnemonic-motor.md?member" false =
          .ok (some (Manual.document (some "member") partition)) := by
  have attainable : Attainable (create .standard none) := .create Settings.isProper_standard rfl
  have answers := attainable.documentText_answers "SPEC://system/mnemonic-motor.md?member"
  obtain ⟨partition, stored⟩ : ∃ partition,
      (create .standard none).store.get? Source.motor = some partition := ⟨_, rfl⟩
  exact ⟨attainable, partition, stored,
    (answers.2.2.2.1 _).mpr ⟨by decide, partition, stored, rfl⟩⟩

theorem documentText_of_open_bracket :
    Attainable (create .standard none) ∧
      (create .standard none).documentText "spec://[" false = .error (.badUri .brackets) :=
  ⟨.create Settings.isProper_standard rfl, rfl⟩

end Registry

end SpecLexicon
