import SpecLexicon.Proofs.Uri.Splitting

/-!
# Source identities

The identity of a source is written from the parts of a URI and is a URI again. It is its own
identity, with the same authority, and it stays the identity of the URI whatever query is put there,
unless two slashes at the start of a path are taken for the start of an authority. The main
statement says for which URIs this happens.
-/

set_option autoImplicit false

namespace SpecLexicon.Uri

open Text

/-- What a document URI says, read off its parts. -/
def toDocument (uri : Uri) : DocumentUri where
  source := String.ofList uri.source
  authority := String.ofList uri.authority
  query := if uri.query = [] then none else some (String.ofList uri.query)

/-- A path without an authority starts with two slashes. What stands behind them up to the next
slash is read as an authority, and if nothing stands there, two slashes are not written again. -/
def IsMisread (uri : Uri) : Prop :=
  uri.authority = [] ∧ ∃ rest, uri.path = '/' :: '/' :: rest ∧
    ((∃ c ∈ rest.head?, c ≠ '/') ∨ { uri with path := rest }.writesAuthority = false)

/-- The identity of a document identifies itself, and no query on the URI changes it. -/
structure IsCanonical (text : String) (document : DocumentUri) : Prop where
  source : DocumentUri.parse document.source = .ok { document with query := none }
  query : ∀ query, ∃ changed other, withQuery text query = .ok changed ∧
    DocumentUri.parse changed = .ok other ∧
    other.source = document.source ∧ other.authority = document.authority

/-!
## What is read from an identity
-/

theorem source_eq (uri : Uri) : uri.source = writtenScheme uri.scheme ++ uri.hierarchy := by
  calc
    uri.source = writtenScheme uri.scheme ++ (uri.hierarchy ++ writtenQuery []) := join_eq uri []
    _ = writtenScheme uri.scheme ++ uri.hierarchy := by simp [writtenQuery]

theorem source_eq_iff_hierarchy_eq (uri : Uri) (path : List Char) :
    { uri with path }.source = uri.source ↔ { uri with path }.hierarchy = uri.hierarchy := by
  simp only [source_eq, List.append_cancel_left_eq]

section Reread

variable {uri : Uri}

/-- A path that is written behind an empty authority is read with the slash that it needs. -/
theorem reread_of_written (empty : uri.authority = []) (writes : uri.writesAuthority = true) :
    uri.reread = { uri with path := rooted uri.path } := by
  have boundary : ∀ c ∈ (rooted uri.path).head?, endsAuthority c = true := by
    intro c found
    rw [head?_rooted uri.path c found]
    rfl
  have noHost : ∀ c ∈ ([] : List Char), endsAuthority c = false := fun _ => nofun
  have split := takeAuthority_slashes noHost boundary
  simp only [reread, hierarchy_of_writesAuthority writes, empty, split]

theorem hierarchy_rooted (empty : uri.authority = []) (writes : uri.writesAuthority = true) :
    { uri with path := rooted uri.path }.hierarchy = uri.hierarchy := by
  have known : authoritySchemes.contains (String.ofList uri.scheme) = true ∧
      (uri.path.take 2 != ['/', '/']) = true := by
    simpa [writesAuthority, empty] using writes
  have single : ((rooted uri.path).take 2 != ['/', '/']) = true := by
    rw [rooted]
    split
    · rename_i other
      cases path : uri.path with
      | nil => rfl
      | cons first rest => simpa [path] using other
    · exact known.2
  have writesAgain : { uri with path := rooted uri.path }.writesAuthority = true := by
    simp only [writesAuthority, known.1, single, Bool.and_self, Bool.or_true]
  rw [hierarchy_of_writesAuthority writesAgain, hierarchy_of_writesAuthority writes]
  simp only [rooted_eq_self (head?_rooted uri.path)]

/-- A path that does not start with two slashes is read as a path. -/
theorem reread_keeps_of_single (empty : uri.authority = [])
    (single : ¬['/', '/'] <+: uri.path) :
    uri.reread.authority = uri.authority ∧ uri.reread.source = uri.source := by
  cases writes : uri.writesAuthority with
  | true =>
    rw [reread_of_written empty writes]
    exact ⟨rfl, (source_eq_iff_hierarchy_eq _ _).mpr (hierarchy_rooted empty writes)⟩
  | false =>
    have same : uri.reread = uri := by
      rw [reread, hierarchy_of_not_writesAuthority writes, takeAuthority_eq_self single, ← empty]
    exact ⟨congrArg authority same, congrArg source same⟩

section Doubled

variable {rest : List Char} (empty : uri.authority = []) (path : uri.path = '/' :: '/' :: rest)

include empty path

theorem hierarchy_of_doubled : uri.hierarchy = '/' :: '/' :: rest := by
  have silent : uri.writesAuthority = false := by simp [writesAuthority, empty, path]
  rw [hierarchy_of_not_writesAuthority silent, path]

/-- The character behind the two slashes becomes part of an authority. -/
theorem reread_authority_ne (isSplit : uri.IsSplit) (filled : ∃ c ∈ rest.head?, c ≠ '/') :
    uri.reread.authority ≠ uri.authority := by
  obtain ⟨c, found, other⟩ := filled
  obtain ⟨tail, rfl⟩ := List.head?_eq_some_iff.mp found
  obtain ⟨-, noQuery, noFragment⟩ := isSplit.path c (by simp [path])
  have inside : endsAuthority c = false := by simp [endsAuthority, other, noQuery, noFragment]
  simp [reread, hierarchy_of_doubled empty path, takeAuthority, inside, empty]

/-- With no character between them and a further slash the two slashes are read as an empty
authority. -/
theorem reread_of_gap (gap : ∀ c ∈ rest.head?, c = '/') :
    uri.reread = { uri with path := rest } := by
  have boundary : ∀ c ∈ rest.head?, endsAuthority c = true := by
    intro c found
    rw [gap c found]
    rfl
  have noHost : ∀ c ∈ ([] : List Char), endsAuthority c = false := fun _ => nofun
  have split := takeAuthority_slashes noHost boundary
  rw [List.nil_append] at split
  simp only [reread, hierarchy_of_doubled empty path, split, empty]

theorem source_of_gap_iff (gap : ∀ c ∈ rest.head?, c = '/') :
    { uri with path := rest }.source = uri.source ↔
      { uri with path := rest }.writesAuthority = true := by
  rw [source_eq_iff_hierarchy_eq, hierarchy_of_doubled empty path]
  cases writes : { uri with path := rest }.writesAuthority with
  | true =>
    rw [hierarchy_of_writesAuthority writes]
    simp [empty, rooted_eq_self gap]
  | false =>
    rw [hierarchy_of_not_writesAuthority writes]
    have shorter : rest ≠ '/' :: '/' :: rest := by
      intro same
      have lengths := congrArg List.length same
      simp only [List.length_cons] at lengths
      omega
    simp [shorter]

end Doubled

/-- The authority and the identity that are read from an identity are those of the URI exactly if
its path is not misread. -/
theorem reread_keeps_iff (isSplit : uri.IsSplit) :
    (uri.reread.authority = uri.authority ∧ uri.reread.source = uri.source) ↔
      ¬uri.IsMisread := by
  by_cases empty : uri.authority = []
  · by_cases doubled : ['/', '/'] <+: uri.path
    · obtain ⟨rest, path⟩ := doubled
      have path : uri.path = '/' :: '/' :: rest := path.symm
      by_cases filled : ∃ c ∈ rest.head?, c ≠ '/'
      · have misread : uri.IsMisread := ⟨empty, rest, path, .inl filled⟩
        simp [misread, reread_authority_ne empty path isSplit filled]
      · have gap : ∀ c ∈ rest.head?, c = '/' := by simpa using filled
        have misread_iff : uri.IsMisread ↔ { uri with path := rest }.writesAuthority = false := by
          constructor
          · rintro ⟨-, other, same, filledAlso | silent⟩
            · rw [path] at same
              cases same
              exact absurd filledAlso filled
            · rw [path] at same
              cases same
              exact silent
          · exact fun silent => ⟨empty, rest, path, .inr silent⟩
        rw [misread_iff, Bool.not_eq_false, ← source_of_gap_iff empty path gap,
          reread_of_gap empty path gap]
        simp
    · have fine : ¬uri.IsMisread := by
        rintro ⟨-, rest, path, -⟩
        exact doubled ⟨rest, path.symm⟩
      simp only [fine, not_false_eq_true, iff_true]
      exact reread_keeps_of_single empty doubled
  · have fine : ¬uri.IsMisread := fun misread => empty misread.1
    simp [fine, isSplit.reread_eq_self empty]

end Reread

/-!
## Documents
-/

theorem parse_eq (text : String) :
    DocumentUri.parse text =
      (check (parts text.toList).authority).map fun _ => (parts text.toList).toDocument := by
  rw [DocumentUri.parse, split_eq]
  cases check (parts text.toList).authority <;> rfl

theorem withQuery_eq (text : String) (query : Option String) :
    withQuery text query = (check (parts text.toList).authority).map fun _ =>
      String.ofList { parts text.toList with query := (query.getD "").toList }.join := by
  rw [withQuery, split_eq]
  cases check (parts text.toList).authority <;> rfl

theorem parse_join {uri : Uri} (isSplit : uri.IsSplit) (query : List Char) :
    DocumentUri.parse (String.ofList { uri with query }.join) =
      (check uri.reread.authority).map fun _ =>
        { uri.reread with query := keptQuery query }.toDocument := by
  rw [parse_eq, String.toList_ofList, isSplit.parts_join]

theorem exists_of_parse {text : String} {document : DocumentUri}
    (accepted : DocumentUri.parse text = .ok document) :
    check (parts text.toList).authority = .ok () ∧
      document = (parts text.toList).toDocument := by
  rw [parse_eq] at accepted
  cases checked : check (parts text.toList).authority with
  | error fault =>
    rw [checked] at accepted
    cases accepted
  | ok _ =>
    rw [checked] at accepted
    exact ⟨rfl, (Except.ok.inj accepted).symm⟩

section Canonical

variable {text : String} {uri : Uri} (isSplit : uri.IsSplit)

include isSplit

theorem parse_source : DocumentUri.parse uri.toDocument.source =
    (check uri.reread.authority).map fun _ => { uri.reread with query := [] }.toDocument :=
  parse_join isSplit []

/-- Where authority and identity are kept, the identity is read as a document without a query. -/
theorem parse_source_of_kept (accepted : check uri.authority = .ok ())
    (authority : uri.reread.authority = uri.authority)
    (source : uri.reread.source = uri.source) :
    DocumentUri.parse uri.toDocument.source = .ok { uri.toDocument with query := none } := by
  have same : { uri.reread with query := [] }.toDocument =
      { uri.toDocument with query := none } := by
    change DocumentUri.mk (String.ofList uri.reread.source) (String.ofList uri.reread.authority)
      none = _
    rw [authority, source]
    rfl
  rw [parse_source isSplit, authority, accepted, same]
  rfl

theorem kept_of_parse_source
    (read : DocumentUri.parse uri.toDocument.source =
      .ok { uri.toDocument with query := none }) :
    uri.reread.authority = uri.authority ∧ uri.reread.source = uri.source := by
  rw [parse_source isSplit] at read
  cases checked : check uri.reread.authority with
  | error fault =>
    rw [checked] at read
    cases read
  | ok _ =>
    rw [checked] at read
    obtain ⟨source, authority, -⟩ := DocumentUri.mk.inj (Except.ok.inj read)
    exact ⟨String.ofList_injective authority, String.ofList_injective source⟩

end Canonical

theorem isCanonical_of_kept {text : String}
    (accepted : check (parts text.toList).authority = .ok ())
    (authority : (parts text.toList).reread.authority = (parts text.toList).authority)
    (source : (parts text.toList).reread.source = (parts text.toList).source) :
    IsCanonical text (parts text.toList).toDocument where
  source := parse_source_of_kept (isSplit_parts _) accepted authority source
  query := by
    intro query
    refine ⟨_, _, by rw [withQuery_eq, accepted]; rfl,
      by rw [parse_join (isSplit_parts _), authority, accepted]; rfl, ?_, ?_⟩
    · exact congrArg String.ofList source
    · exact congrArg String.ofList authority

/-- The identity of an accepted URI is canonical exactly if its path is not misread. Then it
determines the authority too. -/
theorem isCanonical_iff_not_isMisread {text : String} {document : DocumentUri}
    (accepted : DocumentUri.parse text = .ok document) :
    (IsCanonical text document ↔ ¬(parts text.toList).IsMisread) ∧
      ∀ otherText other, DocumentUri.parse otherText = .ok other →
        ¬(parts text.toList).IsMisread → ¬(parts otherText.toList).IsMisread →
        document.source = other.source → document.authority = other.authority := by
  have canonical_iff {text : String} {document : DocumentUri}
      (accepted : DocumentUri.parse text = .ok document) :
      IsCanonical text document ↔ ¬(parts text.toList).IsMisread := by
    obtain ⟨checked, rfl⟩ := exists_of_parse accepted
    rw [← reread_keeps_iff (isSplit_parts _)]
    constructor
    · exact fun canonical => kept_of_parse_source (isSplit_parts _) canonical.source
    · exact fun kept => isCanonical_of_kept checked kept.1 kept.2
  refine ⟨canonical_iff accepted, fun otherText other acceptedAlso fine fineAlso same => ?_⟩
  have read := ((canonical_iff accepted).mpr fine).source
  have readAlso := ((canonical_iff acceptedAlso).mpr fineAlso).source
  rw [same, readAlso] at read
  exact (congrArg DocumentUri.authority (Except.ok.inj read)).symm

/-- A relative path of a scheme that is always written with an authority, with a query and a
fragment. -/
theorem isCanonical_of_relative_path :
    DocumentUri.parse "HTTP:x?q#f" = .ok ⟨"http:///x", "", some "q"⟩ ∧
      IsCanonical "HTTP:x?q#f" ⟨"http:///x", "", some "q"⟩ := by
  have accepted : DocumentUri.parse "HTTP:x?q#f" = .ok ⟨"http:///x", "", some "q"⟩ := rfl
  have fine : ¬(parts "HTTP:x?q#f".toList).IsMisread := by
    rintro ⟨-, rest, path, -⟩
    cases path
  exact ⟨accepted, (isCanonical_iff_not_isMisread accepted).1.mpr fine⟩

/-- A path behind two slashes takes the identity of the built-in source, whose authority it does not
have, and a query gives it that authority. -/
theorem identity_of_doubled_slashes :
    DocumentUri.parse "spec:////system/built-in.md" = .ok ⟨Source.builtIn, "", none⟩ ∧
      DocumentUri.parse Source.builtIn = .ok ⟨Source.builtIn, "system", none⟩ ∧
      withQuery "spec:////system/built-in.md" (some "macro") =
        .ok "spec://system/built-in.md?macro" ∧
      ¬IsCanonical "spec:////system/built-in.md" ⟨Source.builtIn, "", none⟩ := by
  have read : DocumentUri.parse Source.builtIn = .ok ⟨Source.builtIn, "system", none⟩ := rfl
  refine ⟨rfl, read, rfl, fun canonical => ?_⟩
  have again := canonical.source
  rw [read] at again
  exact absurd (congrArg DocumentUri.authority (Except.ok.inj again)) (by decide)

end SpecLexicon.Uri
