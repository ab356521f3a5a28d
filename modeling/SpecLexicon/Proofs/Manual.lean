import SpecLexicon.Manual

/-!
# What a manual shows

A manual is the title and the citation, followed by the sections that the query selects. Every
section shows something. A partition with a kind that has no label has no manual, whatever is asked
for.
-/

set_option autoImplicit false

namespace SpecLexicon

def Partition.IsListed (partition : Partition) : Prop :=
  ∀ kind ∈ partition.keys, kind.label? ≠ none

namespace Manual

def selectedEntry (query : Option String) (entry : Kind × ItemMap) : Option (String × ItemMap) :=
  entry.1.label?.bind fun label => if selects query label then some (label, entry.2) else none

def selected (query : Option String) (partition : Partition) : List (String × ItemMap) :=
  partition.toList.filterMap (selectedEntry query)

/-- The title, the citation, and the sections that the query selects. -/
def document (query : Option String) (partition : Partition) : String :=
  header ++ citation ++
    String.join ((selected query partition).map fun (label, items) => kindSection label items)

theorem label_eq_ok {kind : Kind} {label : String} (found : kind.label? = some label) :
    kind.label = .ok label := by
  rw [Kind.label, found]

theorem sections_of_listed (query : Option String) {entries : List (Kind × ItemMap)}
    (listed : ∀ entry ∈ entries, entry.1.label? ≠ none) :
    sections query entries =
      .ok (String.join ((entries.filterMap (selectedEntry query)).map fun (label, items) =>
        kindSection label items)) := by
  induction entries with
  | nil => rfl
  | cons entry rest ih =>
    obtain ⟨kind, items⟩ := entry
    have others := ih fun entry member => listed entry (List.mem_cons_of_mem _ member)
    cases found : kind.label? with
    | none => exact absurd found (listed _ List.mem_cons_self)
    | some label =>
      simp only [sections, label_eq_ok found, others, bind, Except.bind, pure, Except.pure]
      rw [List.filterMap_cons]
      by_cases chosen : selects query label = true
      · simp [selectedEntry, found, chosen]
      · simp [selectedEntry, found, chosen]

theorem sections_append {query : Option String} {before after : List (Kind × ItemMap)}
    {front behind : String} (first : sections query before = .ok front)
    (second : sections query after = .ok behind) :
    sections query (before ++ after) = .ok (front ++ behind) := by
  induction before generalizing front with
  | nil =>
    cases first
    rw [String.empty_append]
    exact second
  | cons entry rest ih =>
    obtain ⟨kind, items⟩ := entry
    rw [List.cons_append]
    unfold sections at first ⊢
    cases labeled : kind.label with
    | error failure =>
      rw [labeled] at first
      cases first
    | ok label =>
      cases others : sections query rest with
      | error failure =>
        rw [labeled, others] at first
        cases first
      | ok text =>
        rw [labeled, others] at first
        cases first
        rw [ih others, String.append_assoc]
        rfl

theorem sections_of_unlisted {entries : List (Kind × ItemMap)}
    (unlisted : ∃ entry ∈ entries, entry.1.label? = none) :
    ∃ failure, ∀ query, sections query entries = .error failure := by
  induction entries with
  | nil => simp at unlisted
  | cons entry rest ih =>
    obtain ⟨kind, items⟩ := entry
    cases found : kind.label? with
    | none =>
      exact ⟨⟨kind.code⟩, fun query => by
        simp [sections, Kind.label, found, bind, Except.bind]⟩
    | some label =>
      have later : ∃ entry ∈ rest, entry.1.label? = none := by
        obtain ⟨entry, member, missing⟩ := unlisted
        rcases List.mem_cons.mp member with rfl | member
        · rw [found] at missing
          cases missing
        · exact ⟨entry, member, missing⟩
      obtain ⟨failure, failed⟩ := ih later
      exact ⟨failure, fun query => by
        simp [sections, label_eq_ok found, failed query, bind, Except.bind]⟩

theorem render_of_isListed {partition : Partition} (listed : partition.IsListed)
    (query : Option String) : render partition query = .ok (document query partition) := by
  have every : ∀ entry ∈ partition.toList, entry.1.label? ≠ none := fun entry member =>
    listed entry.1 (List.mem_map_of_mem member)
  rw [render, sections_of_listed query every]
  rfl

theorem render_of_not_isListed {partition : Partition} (unlisted : ¬partition.IsListed) :
    ∃ failure, ∀ query, render partition query = .error failure := by
  have missing : ∃ entry ∈ partition.toList, entry.1.label? = none := by
    simp only [Partition.IsListed, OrderedMap.keys, List.forall_mem_map, Classical.not_forall,
      ne_eq, Classical.not_not] at unlisted
    obtain ⟨entry, member, missing⟩ := unlisted
    exact ⟨entry, member, missing⟩
  obtain ⟨failure, failed⟩ := sections_of_unlisted missing
  exact ⟨failure, fun query => by rw [render, failed query]; rfl⟩

theorem selects_congr {left right : Option String} (same : filled? left = filled? right) :
    selects left = selects right := by
  funext label
  rw [selects, selects, same]

theorem document_congr {left right : Option String} {partition : Partition}
    (same : selected left partition = selected right partition) :
    document left partition = document right partition := by
  rw [document, document, same]

theorem selected_congr {left right : Option String} (same : filled? left = filled? right)
    (partition : Partition) : selected left partition = selected right partition := by
  rw [selected, selected]
  congr 1
  funext entry
  rw [selectedEntry, selectedEntry, selects_congr same]

theorem render_congr {left right : Option String} (same : filled? left = filled? right)
    (partition : Partition) : render partition left = render partition right := by
  by_cases listed : partition.IsListed
  · rw [render_of_isListed listed, render_of_isListed listed,
      document_congr (selected_congr same partition)]
  · obtain ⟨failure, failed⟩ := render_of_not_isListed listed
    rw [failed left, failed right]

theorem kindSection_ne_empty (label : String) (items : ItemMap) : kindSection label items ≠ "" := by
  intro empty
  have shown := congrArg String.toList empty
  simp [kindSection] at shown

theorem document_eq_header_iff {query : Option String} {partition : Partition} :
    document query partition = header ++ citation ↔ selected query partition = [] := by
  constructor
  · intro bare
    cases chosen : selected query partition with
    | nil => rfl
    | cons entry rest =>
      obtain ⟨label, items⟩ := entry
      have letters := congrArg String.toList bare
      simp only [document, chosen, List.map_cons, String.join_cons, String.toList_append,
        List.append_right_eq_self, List.append_eq_nil_iff, String.toList_eq_nil_iff] at letters
      exact absurd letters.1 (kindSection_ne_empty label items)
  · intro none_selected
    simp [document, none_selected]

theorem selectedEntry_some {query : String} (filled : query ≠ "") (entry : Kind × ItemMap) :
    selectedEntry (some query) entry =
      if entry.1.label? = some query then some (query, entry.2) else none := by
  have wanted : filled? (some query) = some query := by simp [filled?, filled]
  cases found : entry.1.label? with
  | none => simp [selectedEntry, found]
  | some label =>
    by_cases same : query = label
    · subst same
      simp [selectedEntry, found, selects, wanted]
    · simp [selectedEntry, found, selects, wanted, same, Ne.symm same]

theorem selected_some {query : String} (filled : query ≠ "") (partition : Partition) :
    selected (some query) partition =
      (partition.toList.filter fun entry => entry.1.label? = some query).map fun entry =>
        (query, entry.2) := by
  rw [selected]
  induction partition.toList with
  | nil => rfl
  | cons entry rest ih =>
    rw [List.filterMap_cons, List.filter_cons, ih, selectedEntry_some filled]
    by_cases named : entry.1.label? = some query
    · simp [named]
    · simp [named]

/-- The manual for a label is the title, the citation, and the section with that label if there is
one. -/
theorem document_some {query : String} (filled : query ≠ "") (partition : Partition) :
    document (some query) partition = header ++ citation ++
      String.join ((partition.toList.filter fun entry => entry.1.label? = some query).map
        fun entry => kindSection query entry.2) := by
  rw [document, selected_some filled, List.map_map]
  rfl

end Manual

end SpecLexicon
