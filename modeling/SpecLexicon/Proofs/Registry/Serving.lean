import SpecLexicon.Proofs.Manual
import SpecLexicon.Proofs.Registry.Settled
import SpecLexicon.Proofs.Uri.Splitting
import SpecLexicon.Registry.Query

/-!
# Serving documents

A served text depends on the parts of the URI and on the one partition that they ask for. Only URIs
of the system are served, and whatever their path is, the identity that it leads to is one of the
system. So documents of users are out of reach, and a query that is put on the URI of a source comes
back as the query of the manual, as far as a URI keeps it.
-/

set_option autoImplicit false

namespace SpecLexicon.Registry

def shown (partition : Partition) (query : Option String) : Except Fault (Option String) :=
  ((Manual.render partition query).mapError Fault.unlistedKind).map some

def served (store : Store) (uri : Uri) : Except Fault (Option String) :=
  if uri.IsSystem then
    match store.get? (String.ofList uri.source) with
    | none => .ok none
    | some partition => shown partition (some (String.ofList uri.query))
  else .ok none

theorem shown_congr {left right : Option String} (same : filled? left = filled? right)
    (partition : Partition) : shown partition left = shown partition right := by
  rw [shown, shown, Manual.render_congr same]

theorem shown_eq_iff {left right : Option String} {partition : Partition} :
    shown partition left = shown partition right ↔
      Manual.render partition left = Manual.render partition right := by
  rw [shown, shown]
  cases Manual.render partition left with
  | ok text =>
    cases Manual.render partition right with
    | ok other => simp [mapError_ok, Except.map]
    | error failure => simp [mapError_ok, mapError_error, Except.map]
  | error failure =>
    cases Manual.render partition right with
    | ok other => simp [mapError_ok, mapError_error, Except.map]
    | error other => simp [mapError_error, Except.map]

theorem shown_of_isListed {partition : Partition} (listed : partition.IsListed)
    (query : Option String) :
    shown partition query = .ok (some (Manual.document query partition)) := by
  rw [shown, Manual.render_of_isListed listed]
  rfl

theorem documentText_eq (registry : Registry) (uri : String) :
    registry.documentText uri false =
      ((Uri.split uri.toList).mapError .badUri).bind (served registry.store) := by
  rw [documentText, DocumentUri.parse, Uri.split_eq]
  cases Uri.check (Uri.parts uri.toList).authority with
  | error fault => rfl
  | ok _ =>
    have colonless := Uri.not_mem_scheme_parts uri.toList
    generalize Uri.parts uri.toList = parts at colonless
    simp only [Except.map, mapError_ok, Except.bind, bind, pure, Except.pure,
      Bool.false_eq_true, if_false, String.toList_ofList]
    have same : ((Source.scheme ++ "://").toList.isPrefixOf parts.source &&
        String.ofList parts.authority == "system") = true ↔ parts.IsSystem := by
      rw [Bool.and_eq_true, beq_iff_eq, Uri.IsSystem, ← String.toList_inj, String.toList_ofList]
      refine and_congr_left fun authority => ?_
      exact Uri.isPrefixOf_source_iff colonless (by simp [authority])
    by_cases system : parts.IsSystem
    · rw [if_pos (same.mpr system), served, if_pos system]
      cases registry.store.get? (String.ofList parts.source) with
      | none => rfl
      | some partition =>
        refine shown_congr ?_ partition
        by_cases empty : parts.query = []
        · rw [empty]
          rfl
        · simp [empty]
    · rw [if_neg (mt same.mp system), served, if_neg system]

/-!
## Documents of users
-/

def SameSystem (left right : Registry) : Prop :=
  ∀ uri, Uri.IsSystemSource uri → left.store.get? uri = right.store.get? uri

theorem served_congr {left right : Registry} (same : SameSystem left right) (uri : Uri) :
    served left.store uri = served right.store uri := by
  rw [served, served]
  by_cases system : uri.IsSystem
  · rw [same _ system.isSystemSource]
  · rw [if_neg system, if_neg system]

theorem SameSystem.documentText_eq {left right : Registry} (same : SameSystem left right)
    (uri : String) (cancelled : Bool) :
    left.documentText uri cancelled = right.documentText uri cancelled := by
  cases cancelled with
  | true => rfl
  | false =>
    rw [Registry.documentText_eq, Registry.documentText_eq, funext (served_congr same)]

theorem not_isSystemSource_activeDocument : ¬Uri.IsSystemSource Source.activeDocument := by
  rw [Uri.IsSystemSource]
  decide

theorem ne_activeDocument {uri : String} (system : Uri.IsSystemSource uri) :
    Source.activeDocument ≠ uri := by
  rintro rfl
  exact not_isSystemSource_activeDocument system

def withDocument (partition : Partition) (registry : Registry) : Registry :=
  { registry with store := registry.store.install Source.activeDocument partition }

def withoutDocument (registry : Registry) : Registry :=
  { registry with store := registry.store.remove Source.activeDocument }

theorem sameSystem_withDocument (partition : Partition) (registry : Registry) :
    SameSystem (registry.withDocument partition) registry := by
  intro uri system
  exact (Store.get?_install _ _ _ _).trans (if_neg (ne_activeDocument system))

theorem sameSystem_withoutDocument (registry : Registry) :
    SameSystem registry.withoutDocument registry := by
  intro uri system
  exact (Store.get?_remove _ _ _).trans (if_neg (ne_activeDocument system).symm)

theorem Reachable.sameSystem_setActiveDocument {registry : Registry}
    (reachable : Reachable registry) (partition : Partition) :
    SameSystem (registry.setActiveDocument partition) registry := by
  obtain ⟨settings, symbols, settled⟩ := reachable.settled
  have installed : Settled settings symbols (registry.withDocument partition) :=
    settled.install (by decide) partition
  -- Whoever listens may rebuild the snippets, but they are up to date already.
  have announced := installed.holds.core_eq_of_refreshes installed.current
    (notify_refreshes Source.activeDocument _)
  intro uri system
  refine Eq.trans ?_ (sameSystem_withDocument partition registry uri system)
  exact congrArg (fun store => store.get? uri) (store_eq_of_core_eq announced)

/-- Nothing but the sources of the system decides what is served, whatever the URI looks like: not
the other sources, and so not the active document. -/
theorem documentText_hides_documents :
    (∀ left right : Registry, SameSystem left right → ∀ uri cancelled,
      left.documentText uri cancelled = right.documentText uri cancelled) ∧
    (∀ (registry : Registry) (partition : Partition) (uri : String) (cancelled : Bool),
      (registry.withDocument partition).documentText uri cancelled =
          registry.documentText uri cancelled ∧
        registry.withoutDocument.documentText uri cancelled =
          registry.documentText uri cancelled) ∧
    ∀ registry : Registry, Reachable registry → ∀ partition uri cancelled,
      (registry.setActiveDocument partition).documentText uri cancelled =
        registry.documentText uri cancelled := by
  refine ⟨fun left right same => same.documentText_eq, ?_, ?_⟩
  · intro registry partition uri cancelled
    exact ⟨(sameSystem_withDocument partition registry).documentText_eq uri cancelled,
      registry.sameSystem_withoutDocument.documentText_eq uri cancelled⟩
  · intro registry reachable partition
    exact (reachable.sameSystem_setActiveDocument partition).documentText_eq

/-- The URI of the active document spelled with the authority of the system. -/
theorem documentText_of_disguised_document :
    SameSystem ((create .standard none).setActiveDocument (.ofList [(.variableDef, .empty)]))
        (create .standard none) ∧
      ((create .standard none).setActiveDocument
        (.ofList [(.variableDef, .empty)])).documentText "SPEC://system/../user/active-document.md"
          false = .ok none := by
  have reachable : Reachable (create .standard none) := .create Settings.isProper_standard rfl
  have same := reachable.sameSystem_setActiveDocument (.ofList [(.variableDef, .empty)])
  refine ⟨same, ?_⟩
  rw [documentText_hides_documents.1 _ _ same]
  rfl

/-!
## Queries on the way through a URI
-/

def systemSources : List String :=
  [Source.builtIn, Source.motor, Source.counter, Source.snippet]

def page (name : String) : Uri :=
  ⟨Source.scheme.toList, "system".toList, '/' :: name.toList, []⟩

theorem isPlain_page {name : String}
    (clean : ('/' :: name.toList).all (fun c => Uri.isKept c && (c != '?' && c != '#')) = true) :
    (page name).IsPlain where
  scheme := ⟨'s', ['p', 'e', 'c'], rfl, rfl, rfl, rfl⟩
  host := List.cons_ne_nil _ _
  authority := by
    have plain : "system".toList.all (fun c => Uri.isKept c && !Uri.endsAuthority c) = true := rfl
    simp only [List.all_eq_true, Bool.and_eq_true, Bool.not_eq_true'] at plain
    exact plain
  slash := fun _ found => (Option.some.inj found).symm
  path := by
    simp only [List.all_eq_true, Bool.and_eq_true, bne_iff_ne] at clean
    exact clean

theorem exists_page {uri : String} (system : uri ∈ systemSources) :
    ∃ name, (page name).IsPlain ∧ uri.toList = (page name).join := by
  simp only [systemSources, List.mem_cons, List.not_mem_nil, or_false] at system
  rcases system with rfl | rfl | rfl | rfl
  · exact ⟨"built-in.md", isPlain_page rfl, rfl⟩
  · exact ⟨"mnemonic-motor.md", isPlain_page rfl, rfl⟩
  · exact ⟨"mnemonic-counter.md", isPlain_page rfl, rfl⟩
  · exact ⟨"code-snippet.md", isPlain_page rfl, rfl⟩

/-- What is left of a query that was put on a URI. -/
def keptText (query : String) : String :=
  String.ofList (Uri.keptQuery query.toList)

/-- A query on the URI of a source selects the sections that it selects in the manual of the source,
as far as it is left. -/
theorem documentText_withQuery {registry : Registry} {uri : String} {partition : Partition}
    (system : uri ∈ systemSources) (stored : registry.store.get? uri = some partition)
    (query : Option String) :
    ∃ selected, Uri.withQuery uri query = .ok selected ∧
      registry.documentText selected false = shown partition (query.map keptText) := by
  obtain ⟨name, plain, written⟩ := exists_page system
  have splits := plain.split_join Uri.check_system
  have whole : Uri.split uri.toList = .ok (page name) := by
    rw [written]
    exact splits []
  refine ⟨_, by rw [Uri.withQuery, whole]; rfl, ?_⟩
  have source : String.ofList (page name).join = uri := by rw [← written, String.ofList_toList]
  rw [documentText_eq, String.toList_ofList, splits]
  have system : Uri.IsSystem { page name with query := Uri.keptQuery (query.getD "").toList } :=
    ⟨rfl, rfl⟩
  change served registry.store _ = _
  rw [served, if_pos system]
  change (match registry.store.get? (String.ofList (page name).join) with
    | none => Except.ok none
    | some partition =>
      shown partition (some (String.ofList (Uri.keptQuery (query.getD "").toList)))) = _
  rw [source, stored]
  cases query with
  | none => exact shown_congr (show filled? (some "") = filled? none from rfl) partition
  | some query => rfl

theorem withQuery_none {uri : String} (system : uri ∈ systemSources) :
    Uri.withQuery uri none = .ok uri := by
  simp only [systemSources, List.mem_cons, List.not_mem_nil, or_false] at system
  obtain same | same | same | same := system
  · subst same
    rfl
  · subst same
    rfl
  · subst same
    rfl
  · subst same
    rfl

/-- The URI of a source, as it is, asks for the whole manual. -/
theorem documentText_source {registry : Registry} {uri : String} {partition : Partition}
    (system : uri ∈ systemSources) (stored : registry.store.get? uri = some partition) :
    registry.documentText uri false = shown partition none := by
  obtain ⟨selected, written, text⟩ := documentText_withQuery system stored none
  rw [withQuery_none system] at written
  cases written
  exact text

/-- The text holds none of the characters that a query loses, or is cut off at, in a URI. -/
def ComesThrough (query : String) : Prop :=
  ∀ c ∈ query.toList, c ∉ ['\t', '\r', '\n', '#']

instance (query : String) : Decidable (ComesThrough query) :=
  decidable_of_iff (query.toList.all (fun c => !(['\t', '\r', '\n', '#'].contains c)) = true)
    (by simp only [ComesThrough, List.all_eq_true, Bool.not_eq_true', List.contains_eq_mem,
      decide_eq_false_iff_not])

theorem keptText_eq_self_iff {query : String} : keptText query = query ↔ ComesThrough query := by
  rw [keptText, ← String.toList_inj, String.toList_ofList, Uri.keptQuery_eq_self_iff]
  simp only [ComesThrough, Uri.isKept, Bool.and_eq_true, bne_iff_ne, List.mem_cons,
    List.not_mem_nil, or_false, not_or, and_assoc]

theorem comesThrough_label {kind : Kind} {label : String} (found : kind.label? = some label) :
    ComesThrough label := by
  have every : ∀ kind ∈ Kind.listed, ∀ label ∈ kind.label?, ComesThrough label := by decide
  have listed : kind ∈ Kind.listed := by
    cases kind with
    | unlisted code fresh => cases found
    | _ => decide
  exact every kind listed label found

theorem selected_of_not_comesThrough {query : String} (lost : ¬ComesThrough query)
    (partition : Partition) : Manual.selected (some query) partition = [] := by
  have filled : query ≠ "" := by
    rintro rfl
    exact lost (by simp [ComesThrough])
  rw [Manual.selected_some filled, List.map_eq_nil_iff, List.filter_eq_nil_iff]
  intro entry _ named
  exact lost (comesThrough_label (of_decide_eq_true named))

/-- What a URI makes of a query selects what the query selects, unless the query is one that selects
nothing and what is left of it selects something. -/
theorem shown_keptText_eq_iff {query : String} {partition : Partition} :
    shown partition (some (keptText query)) = shown partition (some query) ↔
      ComesThrough query ∨ ¬partition.IsListed ∨
        Manual.selected (some (keptText query)) partition = [] := by
  by_cases through : ComesThrough query
  · simp [through, keptText_eq_self_iff.mpr through]
  by_cases listed : partition.IsListed
  · have bare : Manual.document (some query) partition = Manual.header ++ Manual.citation :=
      Manual.document_eq_header_iff.mpr (selected_of_not_comesThrough through partition)
    rw [shown_of_isListed listed, shown_of_isListed listed, Except.ok.injEq, Option.some.injEq,
      bare, Manual.document_eq_header_iff]
    simp [through, listed]
  · obtain ⟨failure, failed⟩ := Manual.render_of_not_isListed listed
    rw [shown_eq_iff, failed, failed]
    simp [listed]

end SpecLexicon.Registry
