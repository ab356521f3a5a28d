import Mathlib.Data.List.Forall2
import Mathlib.Data.List.Nodup
import SpecLexicon.Proofs.Manual

/-!
# The sections of a manual

A section consists of paragraphs: the heading of its kind, and for every symbol its name, its
signature, its comments and its other call forms. Nothing but the kind and its symbols goes into a
section, and no two kinds share a label. So a label picks one section, and the manuals of all labels
put together are the whole manual.
-/

set_option autoImplicit false

namespace SpecLexicon.Manual

/-!
## Paragraphs
-/

inductive Paragraph where
  | kindHeading (label : String)
  | nameHeading (name : String)
  | callForm (signature : String) (description : Option String)
  | prose (text : String)

def Paragraph.text : Paragraph → String
  | kindHeading label => "## " ++ label ++ "\n\n"
  | nameHeading name => "### " ++ name ++ "\n\n"
  | callForm signature none => "`" ++ signature ++ "`\n\n"
  | callForm signature (some description) => "`" ++ signature ++ "` — " ++ description ++ "\n\n"
  | prose text => text ++ "\n\n"

def writeParagraphs (paragraphs : List Paragraph) : String :=
  String.join (paragraphs.map Paragraph.text)

/-- The paragraphs of a symbol. Descriptions and comments without characters do not count. -/
def symbolParagraphs (name : String) (item : Item) : List Paragraph :=
  .nameHeading name :: .callForm item.signature (filled? item.description) ::
    ((filled? item.comments).toList.map .prose ++
      (item.overloads.getD []).map fun overload =>
        .callForm overload.signature (filled? overload.description))

def sectionParagraphs (label : String) (items : ItemMap) : List Paragraph :=
  .kindHeading label :: items.toList.flatMap fun (name, item) => symbolParagraphs name item

theorem writeParagraphs_cons (first : Paragraph) (rest : List Paragraph) :
    writeParagraphs (first :: rest) = first.text ++ writeParagraphs rest := by
  rw [writeParagraphs, List.map_cons, String.join_cons, writeParagraphs]

theorem writeParagraphs_append (front rest : List Paragraph) :
    writeParagraphs (front ++ rest) = writeParagraphs front ++ writeParagraphs rest := by
  rw [writeParagraphs, List.map_append, String.join_append, writeParagraphs, writeParagraphs]

theorem writeParagraphs_flatMap {α : Type} (parts : α → List Paragraph) (items : List α) :
    writeParagraphs (items.flatMap parts) =
      String.join (items.map fun item => writeParagraphs (parts item)) := by
  induction items with
  | nil => rfl
  | cons item items ih =>
    rw [List.flatMap_cons, writeParagraphs_append, ih, List.map_cons, String.join_cons]

theorem signatureLine_eq (signature : String) (description : Option String) :
    signatureLine signature description =
      (Paragraph.callForm signature (filled? description)).text := by
  unfold signatureLine
  split
  · rename_i empty
    rw [empty, Paragraph.text]
  · rename_i shown given
    rw [given, Paragraph.text]

theorem commentsParagraph_eq (comments : Option String) :
    commentsParagraph comments = writeParagraphs ((filled? comments).toList.map .prose) := by
  unfold commentsParagraph
  split
  · rename_i empty
    rw [empty]
    rfl
  · rename_i shown given
    rw [given, Option.toList_some, List.map_singleton, writeParagraphs_cons, Paragraph.text]
    exact String.append_empty.symm

theorem entry_eq (name : String) (item : Item) :
    entry name item = writeParagraphs (symbolParagraphs name item) := by
  have forms : String.join ((item.overloads.getD []).map fun overload =>
      signatureLine overload.signature overload.description) =
        writeParagraphs ((item.overloads.getD []).map fun overload =>
          .callForm overload.signature (filled? overload.description)) := by
    rw [writeParagraphs, List.map_map]
    congr 2
    funext overload
    exact signatureLine_eq overload.signature overload.description
  rw [entry, forms, signatureLine_eq, commentsParagraph_eq, symbolParagraphs, writeParagraphs_cons,
    writeParagraphs_cons, writeParagraphs_append, Paragraph.text, String.append_assoc,
    String.append_assoc]

theorem kindSection_eq (label : String) (items : ItemMap) :
    kindSection label items = writeParagraphs (sectionParagraphs label items) := by
  have symbols : (fun (name, item) => entry name item) =
      fun symbol : String × Item => writeParagraphs (symbolParagraphs symbol.1 symbol.2) :=
    funext fun symbol => entry_eq symbol.1 symbol.2
  rw [kindSection, symbols, sectionParagraphs, writeParagraphs_cons, writeParagraphs_flatMap]
  rfl

/-!
## Labels
-/

theorem ne_empty_of_label? {kind : Kind} {label : String} (labeled : kind.label? = some label) :
    label ≠ "" := by
  rintro rfl
  cases kind <;> simp [Kind.label?] at labeled

section Selected

variable (partition : Partition)

theorem selectedEntry_none (entry : Kind × ItemMap) :
    selectedEntry none entry = entry.1.label?.map fun label => (label, entry.2) := by
  cases found : entry.1.label? with
  | none => simp [selectedEntry, found]
  | some label =>
    have chosen : selects none label = true := rfl
    simp [selectedEntry, found, chosen]

/-- A query picks from all sections. -/
theorem selected_eq_filter {query : String} (filled : query ≠ "") :
    selected (some query) partition =
      (selected none partition).filter fun shown => shown.1 = query := by
  rw [selected, selected, List.filter_filterMap]
  congr 1
  funext entry
  rw [selectedEntry_some filled, selectedEntry_none]
  cases found : entry.1.label? with
  | none => simp
  | some label =>
    by_cases same : label = query
    · simp [same, Option.filter]
    · simp [same, Option.filter]

/-- No label comes up twice. -/
theorem nodup_labels_selected : ((selected none partition).map Prod.fst).Nodup := by
  have distinct := List.pairwise_map.mp partition.keys_nodup
  rw [List.nodup_iff_pairwise_ne, List.pairwise_map, selected, List.pairwise_filterMap]
  refine distinct.imp fun different first firstShown second secondShown same => different ?_
  rw [selectedEntry_none] at firstShown secondShown
  obtain ⟨label, labeled, rfl⟩ := Option.map_eq_some_iff.mp firstShown
  obtain ⟨other, otherLabeled, rfl⟩ := Option.map_eq_some_iff.mp secondShown
  obtain rfl : label = other := same
  exact Kind.label?_injective labeled otherLabeled

variable {partition}

/-- In a list without repeated labels a label picks the one entry that has it. -/
theorem filter_label_eq {α : Type} {shown : String × α} {sections : List (String × α)}
    (distinct : (sections.map Prod.fst).Nodup) (member : shown ∈ sections) :
    sections.filter (fun other => other.1 = shown.1) = [shown] := by
  obtain ⟨before, behind, rfl⟩ := List.append_of_mem member
  rw [List.map_append, List.map_cons, List.nodup_middle, List.nodup_cons,
    ← List.map_append] at distinct
  have others : ∀ other ∈ before ++ behind, ¬other.1 = shown.1 := fun other listed same =>
    distinct.1 (same ▸ List.mem_map_of_mem listed)
  have front : before.filter (fun other => other.1 = shown.1) = [] :=
    List.filter_eq_nil_iff.mpr fun other listed => by
      simpa using others other (List.mem_append_left behind listed)
  have rest : behind.filter (fun other => other.1 = shown.1) = [] :=
    List.filter_eq_nil_iff.mpr fun other listed => by
      simpa using others other (List.mem_append_right before listed)
  rw [List.filter_append, List.filter_cons_of_pos (by simp), front, rest, List.nil_append]

end Selected

/-!
## The decomposition
-/

def IsSection (entry : Kind × ItemMap) (shown : String × String) : Prop :=
  entry.1.label? = some shown.1 ∧ shown.2 = writeParagraphs (sectionParagraphs shown.1 entry.2)

def shownSection (entry : Kind × ItemMap) : Option (String × String) :=
  entry.1.label?.map fun label => (label, writeParagraphs (sectionParagraphs label entry.2))

/-- The labels and the texts of all sections, in the order of the partition. -/
def shownSections (partition : Partition) : List (String × String) :=
  partition.toList.filterMap shownSection

/-- The manual that has these sections. -/
def written (sections : List (String × String)) : String :=
  header ++ citation ++ String.join (sections.map Prod.snd)

/-- What is left of a manual without the title and the citation. -/
def body (manual : String) : String :=
  String.ofList (manual.toList.drop (header ++ citation).toList.length)

theorem body_written (sections : List (String × String)) :
    body (written sections) = String.join (sections.map Prod.snd) := by
  have letters : (written sections).toList =
      (header ++ citation).toList ++ (String.join (sections.map Prod.snd)).toList :=
    String.toList_append
  rw [body, letters, List.drop_left, String.ofList_toList]

section Decomposition

variable (partition : Partition)

theorem shownSections_eq :
    shownSections partition =
      (selected none partition).map fun shown => (shown.1, kindSection shown.1 shown.2) := by
  rw [shownSections, selected, List.map_filterMap]
  congr 1
  funext entry
  rw [shownSection, selectedEntry_none, Option.map_map]
  congr 1
  funext label
  rw [Function.comp_apply, kindSection_eq]

theorem nodup_labels_shownSections : ((shownSections partition).map Prod.fst).Nodup := by
  rw [shownSections_eq, List.map_map]
  exact nodup_labels_selected partition

theorem document_none : document none partition = written (shownSections partition) := by
  rw [document, written, shownSections_eq, List.map_map]
  rfl

theorem document_query {query : String} (filled : query ≠ "") :
    document (some query) partition =
      written ((shownSections partition).filter fun shown => shown.1 = query) := by
  rw [document, selected_eq_filter partition filled, written, shownSections_eq, List.filter_map,
    List.map_map]
  rfl

theorem label_ne_empty {shown : String × String} (member : shown ∈ shownSections partition) :
    shown.1 ≠ "" := by
  obtain ⟨entry, _, found⟩ := List.mem_filterMap.mp member
  obtain ⟨label, labeled, rfl⟩ := Option.map_eq_some_iff.mp found
  exact ne_empty_of_label? labeled

/-- A query has one section or none. -/
theorem length_filter_label_le (query : String) :
    ((shownSections partition).filter fun shown => shown.1 = query).length ≤ 1 := by
  by_cases shows : ∃ shown ∈ shownSections partition, shown.1 = query
  · obtain ⟨shown, member, rfl⟩ := shows
    exact Nat.le_of_eq (congrArg List.length
      (filter_label_eq (nodup_labels_shownSections partition) member))
  · have none_shown := List.filter_eq_nil_iff.mpr fun shown member (same : decide _ = true) =>
      shows ⟨shown, member, of_decide_eq_true same⟩
    rw [none_shown]
    exact Nat.zero_le 1

variable {partition}

theorem document_label {shown : String × String} (member : shown ∈ shownSections partition) :
    document (some shown.1) partition = written [shown] := by
  rw [document_query partition (label_ne_empty partition member),
    filter_label_eq (nodup_labels_shownSections partition) member]

theorem forall₂_isSection (listed : partition.IsListed) :
    List.Forall₂ IsSection partition.toList (shownSections partition) := by
  have every : ∀ entry ∈ partition.toList, entry.1.label? ≠ none := fun entry member =>
    listed entry.1 (List.mem_map_of_mem member)
  rw [shownSections]
  generalize partition.toList = entries at every ⊢
  induction entries with
  | nil => exact .nil
  | cons entry rest ih =>
    obtain ⟨label, labeled⟩ := Option.ne_none_iff_exists'.mp (every entry List.mem_cons_self)
    have found : shownSection entry =
        some (label, writeParagraphs (sectionParagraphs label entry.2)) := by
      rw [shownSection, labeled, Option.map_some]
    rw [List.filterMap_cons_some found]
    exact .cons ⟨labeled, rfl⟩ (ih fun entry member => every entry (List.mem_cons_of_mem _ member))

theorem mapM_render_labels (listed : partition.IsListed) :
    ((shownSections partition).map Prod.fst).mapM (fun label => render partition (some label)) =
      .ok ((shownSections partition).map fun shown => written [shown]) := by
  have each : ∀ shown ∈ shownSections partition,
      render partition (some shown.1) = .ok (written [shown]) := fun shown member => by
    rw [render_of_isListed listed, document_label member]
  generalize shownSections partition = sections at each ⊢
  induction sections with
  | nil => rfl
  | cons shown rest ih =>
    rw [List.map_cons, List.mapM_cons, each shown List.mem_cons_self,
      ih fun other member => each other (List.mem_cons_of_mem _ member)]
    rfl

/-- The manual has one section for every kind, made of nothing but the kind's label and symbols, a
query that is not empty keeps the sections with that label, of which there is one at most, and the
sections of the manuals for all labels are the sections of the whole manual. -/
theorem render_eq_written_sections (listed : partition.IsListed) :
    List.Forall₂ IsSection partition.toList (shownSections partition) ∧
      (∀ query, filled? query = none →
        render partition query = .ok (written (shownSections partition))) ∧
      (∀ query, query ≠ "" →
        render partition (some query) =
            .ok (written ((shownSections partition).filter fun shown => shown.1 = query)) ∧
          ((shownSections partition).filter fun shown => shown.1 = query).length ≤ 1) ∧
      ∃ manuals,
        ((shownSections partition).map Prod.fst).mapM
            (fun label => render partition (some label)) = .ok manuals ∧
          (∀ manual ∈ manuals, manual = header ++ citation ++ body manual) ∧
          render partition none = .ok (header ++ citation ++ String.join (manuals.map body)) := by
  have whole : render partition none = .ok (written (shownSections partition)) := by
    rw [render_of_isListed listed, document_none]
  refine ⟨forall₂_isSection listed, fun query absent => ?unfiltered, fun query filled => ?filtered,
    (shownSections partition).map fun shown => written [shown], mapM_render_labels listed, ?parts,
    ?joined⟩
  case unfiltered =>
    have same : filled? query = filled? none := absent
    rw [render_congr same, whole]
  case filtered =>
    rw [render_of_isListed listed, document_query partition filled]
    exact ⟨rfl, length_filter_label_le partition query⟩
  case parts =>
    intro manual member
    obtain ⟨shown, _, rfl⟩ := List.mem_map.mp member
    rw [body_written, written]
  case joined =>
    have bodies : ((shownSections partition).map fun shown => written [shown]).map body =
        (shownSections partition).map Prod.snd := by
      rw [List.map_map]
      refine List.map_congr_left fun shown _ => ?_
      rw [Function.comp_apply, body_written, List.map_singleton, String.join_cons, String.join_nil,
        String.append_empty]
    rw [whole, written, bodies]

end Decomposition

def moveItem : Item where
  signature := "mv(mot, pos)"
  description := some "Move a motor."
  comments := some "Waits until the motor stops."
  snippet := none
  location := none
  overloads := some [⟨"mv()", none, by decide⟩]
  signature_visible := by decide

/-- A function with another call form, before a kind without symbols. -/
def movePartition : Partition :=
  .ofList [(.function, .ofList [("mv", moveItem)]), (.constant, .empty)]

theorem render_movePartition :
    movePartition.IsListed ∧
      render movePartition (some "constant") =
        .ok (written [("constant", writeParagraphs [.kindHeading "constant"])]) ∧
      render movePartition none = .ok (written
        [("function", writeParagraphs [.kindHeading "function", .nameHeading "mv",
          .callForm "mv(mot, pos)" (some "Move a motor."), .prose "Waits until the motor stops.",
          .callForm "mv()" none]),
         ("constant", writeParagraphs [.kindHeading "constant"])]) := by
  have listed : movePartition.IsListed := by
    unfold Partition.IsListed
    decide
  obtain ⟨_, unfiltered, filtered, _⟩ := render_eq_written_sections listed
  exact ⟨listed, (filtered "constant" (by decide)).1, unfiltered none rfl⟩

end SpecLexicon.Manual
