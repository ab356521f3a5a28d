import SpecLexicon.Proofs.Text.Span
import SpecLexicon.Source
import SpecLexicon.Uri

/-!
# Splitting and joining URIs

A text falls into its parts whatever its authority looks like, and then the authority alone decides
whether the text is refused. Parts that are joined with a query are read again as they are written,
but of the query only what stands before a number sign is left, without tabs and line breaks. If the
parts have an authority they are read as what they are.
-/

set_option autoImplicit false

namespace SpecLexicon.Uri

open Text

/-- The parts of a text, be its authority accepted or not. -/
def parts (text : List Char) : Uri :=
  let (scheme, hierarchy) := takeScheme (clean text)
  let (authority, rest) := takeAuthority hierarchy
  let (path, query) := cutAtMark '?' (cutAtMark '#' rest).1
  { scheme, authority, path, query := query.getD [] }

def check (authority : List Char) : Except Fault Unit := do
  checkBrackets authority
  checkLookalikes authority

theorem split_eq (text : List Char) :
    split text = (check (parts text).authority).map fun _ => parts text := by
  simp only [split, check, parts, bind, Except.bind]
  cases checkBrackets (takeAuthority (takeScheme (clean text)).2).1 with
  | error fault => rfl
  | ok _ =>
    cases checkLookalikes (takeAuthority (takeScheme (clean text)).2).1 with
    | error fault => rfl
    | ok _ => rfl

/-!
## Schemes
-/

theorem isUpper_iff {c : Char} : c.isUpper = true ↔ 65 ≤ c.toNat ∧ c.toNat ≤ 90 :=
  decide_eq_true_iff.trans (by simp only [ge_iff_le, UInt32.le_iff_toNat_le]; rfl)

theorem isLower_iff {c : Char} : c.isLower = true ↔ 97 ≤ c.toNat ∧ c.toNat ≤ 122 := by
  change (decide (c.val ≥ 'a'.val) && decide (c.val ≤ 'z'.val)) = true ↔ _
  simp only [Bool.and_eq_true, decide_eq_true_eq, ge_iff_le, UInt32.le_iff_toNat_le]
  rfl

theorem isAlpha_iff {c : Char} : c.isAlpha = true ↔ c.isUpper = true ∨ c.isLower = true :=
  Bool.or_eq_true_iff

theorem toLower_of_not_isUpper {c : Char} (other : c.isUpper = false) : c.toLower = c :=
  dif_neg (of_decide_eq_false other)

theorem isLower_toLower {c : Char} (upper : c.isUpper = true) : c.toLower.isLower = true := by
  have lowered : c.toLower.val = c.val + ('a'.val - 'A'.val) :=
    congrArg Char.val (dif_pos (of_decide_eq_true upper))
  have shifted : c.toLower.toNat = (c.toNat + 32) % 2 ^ 32 := by
    change c.toLower.val.toNat = _
    rw [lowered, UInt32.toNat_add]
    rfl
  rw [isUpper_iff] at upper
  rw [isLower_iff, shifted]
  omega

theorem isUpper_eq_false_of_isLower {c : Char} (lower : c.isLower = true) :
    c.isUpper = false := by
  rw [isLower_iff] at lower
  rw [Bool.eq_false_iff, Ne, isUpper_iff]
  omega

theorem toLower_toLower (c : Char) : c.toLower.toLower = c.toLower := by
  cases upper : c.isUpper with
  | true => exact toLower_of_not_isUpper (isUpper_eq_false_of_isLower (isLower_toLower upper))
  | false => rw [toLower_of_not_isUpper upper, toLower_of_not_isUpper upper]

/-- A class that has all letters has every character of it in lower case too. -/
theorem toLower_of_letters {test : Char → Bool} (letters : ∀ c : Char, c.isAlpha = true → test c)
    {c : Char} (inside : test c = true) : test c.toLower = true := by
  cases upper : c.isUpper with
  | true => exact letters _ (isAlpha_iff.mpr (.inr (isLower_toLower upper)))
  | false => rwa [toLower_of_not_isUpper upper]

theorem isSchemePart_of_isAlpha {c : Char} (letter : c.isAlpha = true) : isSchemePart c = true := by
  simp [isSchemePart, Char.isAlphanum, letter]

theorem ne_colon_of_isSchemePart {c : Char} (part : isSchemePart c = true) : c ≠ ':' := by
  rintro rfl
  revert part
  decide

theorem not_isControl_of_isAlpha {c : Char} (letter : c.isAlpha = true) : ¬c.toNat ≤ 0x20 := by
  rw [isAlpha_iff, isUpper_iff, isLower_iff] at letter
  omega

/-- A scheme as it is kept: a letter and characters of schemes, in lower case. -/
def IsScheme (scheme : List Char) : Prop :=
  ∃ first name, scheme = first :: name ∧ first.isAlpha = true ∧ name.all isSchemePart = true ∧
    scheme.map Char.toLower = scheme

/-- The text starts with a scheme, in letters of any case, and a colon. -/
def OpensScheme (text : List Char) : Prop :=
  ∃ first name rest, text = first :: (name ++ ':' :: rest) ∧ first.isAlpha = true ∧
    name.all isSchemePart = true

theorem cutAtMark_scheme {first : Char} {name : List Char} (rest : List Char)
    (letter : first.isAlpha = true) (others : name.all isSchemePart = true) :
    cutAtMark ':' (first :: (name ++ ':' :: rest)) = (first :: name, some rest) := by
  have inside : ∀ c ∈ first :: name, (c != ':') = true := by
    intro c member
    rw [bne_iff_ne]
    rcases List.mem_cons.mp member with rfl | member
    · exact ne_colon_of_isSchemePart (isSchemePart_of_isAlpha letter)
    · exact ne_colon_of_isSchemePart (List.all_eq_true.mp others c member)
  rw [← List.cons_append, cutAtMark, takeWhile_span inside (by simp),
    dropWhile_span inside (by simp)]
  rfl

theorem eq_append_of_cutAtMark {mark : Char} {text front rest : List Char}
    (cut : cutAtMark mark text = (front, some rest)) : text = front ++ mark :: rest := by
  obtain ⟨taken, dropped⟩ := Prod.mk.inj cut
  obtain ⟨c, behind⟩ : ∃ c, text.dropWhile (· != mark) = c :: rest := by
    cases found : text.dropWhile (· != mark) with
    | nil => simp [found] at dropped
    | cons c tail => exact ⟨c, by simpa [found] using dropped⟩
  have other := head?_dropWhile_eq_false (· != mark) text c (by rw [behind]; rfl)
  obtain rfl : c = mark := by simpa using other
  rw [← taken, ← behind, List.takeWhile_append_dropWhile]

theorem takeScheme_opening {first : Char} {name : List Char} (rest : List Char)
    (letter : first.isAlpha = true) (others : name.all isSchemePart = true) :
    takeScheme (first :: (name ++ ':' :: rest)) = ((first :: name).map Char.toLower, rest) := by
  simp only [takeScheme, cutAtMark_scheme rest letter others, letter, others, Bool.and_self,
    if_true]

theorem takeScheme_eq_self {text : List Char} (absent : ¬OpensScheme text) :
    takeScheme text = ([], text) := by
  rw [takeScheme]
  split
  · rename_i first name rest cut
    split
    · rename_i shaped
      rw [Bool.and_eq_true] at shaped
      exact absurd ⟨first, name, rest, eq_append_of_cutAtMark cut, shaped.1, shaped.2⟩ absent
    · rfl
  · rfl

theorem isScheme_map_toLower {first : Char} {name : List Char} (letter : first.isAlpha = true)
    (others : name.all isSchemePart = true) : IsScheme ((first :: name).map Char.toLower) := by
  refine ⟨first.toLower, name.map Char.toLower, rfl, toLower_of_letters (fun _ => id) letter,
    ?_, ?_⟩
  · rw [List.all_eq_true] at others ⊢
    intro c member
    obtain ⟨d, inside, rfl⟩ := List.mem_map.mp member
    exact toLower_of_letters (fun _ => isSchemePart_of_isAlpha) (others d inside)
  · rw [List.map_map]
    exact List.map_congr_left fun c _ => toLower_toLower c

namespace IsScheme

variable {scheme : List Char} (isScheme : IsScheme scheme)

include isScheme

theorem isSchemePart : ∀ c ∈ scheme, Uri.isSchemePart c = true := by
  obtain ⟨first, name, rfl, letter, others, _⟩ := isScheme
  intro c member
  rcases List.mem_cons.mp member with rfl | member
  · exact isSchemePart_of_isAlpha letter
  · exact List.all_eq_true.mp others c member

theorem takeScheme_append (rest : List Char) :
    takeScheme (scheme ++ ':' :: rest) = (scheme, rest) := by
  obtain ⟨first, name, rfl, letter, others, lower⟩ := isScheme
  rw [List.cons_append, takeScheme_opening rest letter others, lower]

end IsScheme

/-!
## Parts of a text
-/

/-- The characters that are not deleted wherever they stand. -/
def isKept (c : Char) : Bool :=
  c != '\t' && c != '\r' && c != '\n'

theorem isKept_of_isSchemePart {c : Char} (part : isSchemePart c = true) : isKept c = true := by
  rw [isKept, Bool.and_eq_true, Bool.and_eq_true, bne_iff_ne, bne_iff_ne, bne_iff_ne]
  refine ⟨⟨?_, ?_⟩, ?_⟩ <;> rintro rfl <;> revert part <;> decide

theorem isKept_of_mem_clean {text : List Char} {c : Char} (member : c ∈ clean text) :
    isKept c = true :=
  (List.mem_filter.mp member).2

theorem not_isControl_of_head?_clean {text : List Char} {c : Char}
    (found : c ∈ (clean text).head?) : ¬c.toNat ≤ 0x20 := by
  have outside := head?_dropWhile_eq_false (fun c => decide (c.toNat ≤ 0x20)) text
  rw [clean] at found
  cases front : text.dropWhile (fun c => decide (c.toNat ≤ 0x20)) with
  | nil => simp [front] at found
  | cons first rest =>
    have shown : ¬first.toNat ≤ 0x20 := by simpa using outside first (by rw [front]; rfl)
    have kept : isKept first = true := by
      rw [isKept, Bool.and_eq_true, Bool.and_eq_true, bne_iff_ne, bne_iff_ne, bne_iff_ne]
      refine ⟨⟨?_, ?_⟩, ?_⟩ <;> rintro rfl <;> revert shown <;> decide
    rw [front] at found
    change c ∈ ((first :: rest).filter isKept).head? at found
    rw [List.filter_cons_of_pos kept, List.head?_cons, Option.mem_def, Option.some.injEq] at found
    exact found ▸ shown

/-- What holds of the parts of any text. -/
structure IsSplit (uri : Uri) : Prop where
  scheme : uri.scheme = [] ∨ IsScheme uri.scheme
  authority : ∀ c ∈ uri.authority, isKept c = true ∧ endsAuthority c = false
  path : ∀ c ∈ uri.path, isKept c = true ∧ c ≠ '?' ∧ c ≠ '#'
  slash : uri.authority ≠ [] → ∀ c ∈ uri.path.head?, c = '/'
  start : uri.scheme = [] → ¬OpensScheme uri.path ∧ ∀ c ∈ uri.path.head?, ¬c.toNat ≤ 0x20

/-- The scheme of a text stands in front of the rest, and where it has none the rest is the text. -/
theorem takeScheme_cases (text : List Char) :
    IsScheme (takeScheme text).1 ∧ (takeScheme text).2 <:+ text ∨
      takeScheme text = ([], text) ∧ ¬OpensScheme text := by
  by_cases opens : OpensScheme text
  · obtain ⟨first, name, rest, rfl, letter, others⟩ := opens
    rw [takeScheme_opening rest letter others]
    exact .inl ⟨isScheme_map_toLower letter others, [first] ++ name ++ [':'], by simp⟩
  · exact .inr ⟨takeScheme_eq_self opens, opens⟩

theorem takeScheme_suffix (text : List Char) : (takeScheme text).2 <:+ text := by
  rcases takeScheme_cases text with ⟨-, within⟩ | ⟨same, -⟩
  · exact within
  · simp [same]

/-- Either two slashes stand in front of an authority, or it is empty. -/
theorem takeAuthority_cases (text : List Char) :
    (text = '/' :: '/' :: ((takeAuthority text).1 ++ (takeAuthority text).2) ∧
      (∀ c ∈ (takeAuthority text).1, endsAuthority c = false) ∧
      ∀ c ∈ (takeAuthority text).2.head?, endsAuthority c = true) ∨
    takeAuthority text = ([], text) ∧ ¬['/', '/'] <+: text := by
  unfold takeAuthority
  split
  · rename_i rest
    refine .inl ⟨by simp, fun c member => ?_, fun c found => ?_⟩
    · simpa using forall_mem_takeWhile _ rest c member
    · simpa using head?_dropWhile_eq_false _ rest c found
  · rename_i single
    exact .inr ⟨rfl, fun ⟨rest, whole⟩ => single rest whole.symm⟩

theorem takeAuthority_suffix (text : List Char) :
    (takeAuthority text).1 ++ (takeAuthority text).2 <:+ text := by
  rcases takeAuthority_cases text with ⟨same, -, -⟩ | ⟨same, -⟩
  · exact ⟨['/', '/'], same.symm⟩
  · simp [same]

theorem mem_head?_of_opens {front text : List Char} (starts : front <+: text) :
    ∀ c ∈ front.head?, c ∈ text.head? := by
  obtain ⟨rest, rfl⟩ := starts
  intro c found
  rw [List.head?_append, Option.mem_def.mp found]
  rfl

theorem OpensScheme.of_prefix {front text : List Char} (opens : OpensScheme front)
    (starts : front <+: text) : OpensScheme text := by
  obtain ⟨first, name, rest, rfl, letter, others⟩ := opens
  obtain ⟨behind, rfl⟩ := starts
  exact ⟨first, name, rest ++ behind, by simp, letter, others⟩

/-- A path ends at the first question mark or number sign. -/
theorem pathOf_spec (rest : List Char) :
    (cutAtMark '?' (cutAtMark '#' rest).1).1 <+: rest ∧
      ∀ c ∈ (cutAtMark '?' (cutAtMark '#' rest).1).1, c ≠ '?' ∧ c ≠ '#' := by
  have front : (cutAtMark '?' (cutAtMark '#' rest).1).1 <+: (cutAtMark '#' rest).1 :=
    List.takeWhile_prefix _
  refine ⟨front.trans (List.takeWhile_prefix _), fun c member => ⟨?_, ?_⟩⟩
  · simpa using forall_mem_takeWhile _ _ c member
  · simpa using forall_mem_takeWhile _ _ c (front.subset member)

/-- Behind an authority a path starts with a slash, since it does not start with another mark. -/
theorem head?_pathOf_eq_slash {rest : List Char}
    (ends : ∀ c ∈ rest.head?, endsAuthority c = true) :
    ∀ c ∈ (cutAtMark '?' (cutAtMark '#' rest).1).1.head?, c = '/' := by
  obtain ⟨starts, plain⟩ := pathOf_spec rest
  intro c first
  obtain ⟨noQuery, noFragment⟩ := plain c (List.mem_of_mem_head? first)
  simpa [endsAuthority, noQuery, noFragment] using ends c (mem_head?_of_opens starts c first)

theorem isSplit_parts (text : List Char) : (parts text).IsSplit := by
  rcases scheme : takeScheme (clean text) with ⟨found, behind⟩
  rcases authority : takeAuthority behind with ⟨host, rest⟩
  obtain ⟨starts, plain⟩ := pathOf_spec rest
  have whole : parts text = ⟨found, host, (cutAtMark '?' (cutAtMark '#' rest).1).1,
      (cutAtMark '?' (cutAtMark '#' rest).1).2.getD []⟩ := by
    simp only [parts, scheme, authority]
  have schemes := takeScheme_cases (clean text)
  have authorities := takeAuthority_cases behind
  have within := takeScheme_suffix (clean text)
  have parted := takeAuthority_suffix behind
  rw [scheme] at schemes within
  rw [authority] at authorities parted
  have kept : ∀ c ∈ host ++ rest, isKept c = true := fun c member =>
    isKept_of_mem_clean (within.subset (parted.subset member))
  rw [whole]
  refine ⟨?_, fun c member => ⟨?_, ?_⟩, fun c member => ⟨?_, plain c member⟩, ?_, ?_⟩
  · rcases schemes with ⟨isScheme, -⟩ | ⟨same, -⟩
    · exact .inr isScheme
    · exact .inl (Prod.mk.inj same).1
  · exact kept c (List.mem_append_left rest member)
  · rcases authorities with ⟨-, inside, -⟩ | ⟨same, -⟩
    · exact inside c member
    · rw [(Prod.mk.inj same).1] at member
      exact absurd member List.not_mem_nil
  · exact kept c (List.mem_append_right host (starts.subset member))
  · intro present
    rcases authorities with ⟨-, -, ends⟩ | ⟨same, -⟩
    · exact head?_pathOf_eq_slash ends
    · exact absurd (Prod.mk.inj same).1 present
  · rintro rfl
    obtain ⟨rfl, absent⟩ : behind = clean text ∧ ¬OpensScheme (clean text) := by
      rcases schemes with ⟨⟨_, _, filled, _⟩, -⟩ | ⟨same, absent⟩
      · cases filled
      · exact ⟨(Prod.mk.inj same).2, absent⟩
    rcases authorities with ⟨-, -, ends⟩ | ⟨same, -⟩
    · refine ⟨?_, fun c first control => ?_⟩
      · rintro ⟨first, _, _, path, letter, -⟩
        dsimp only at path
        obtain rfl := head?_pathOf_eq_slash ends first (by rw [path]; rfl)
        exact absurd letter (by decide)
      · rw [head?_pathOf_eq_slash ends c first] at control
        exact absurd control (by decide)
    · obtain ⟨rfl, rfl⟩ := Prod.mk.inj same
      exact ⟨fun opens => absent (opens.of_prefix starts), fun c first =>
        not_isControl_of_head?_clean (mem_head?_of_opens starts c first)⟩

/-!
## Reading what was written
-/

/-- What is left of a query that is written into a URI and read from it again. -/
def keptQuery (query : List Char) : List Char :=
  (query.filter isKept).takeWhile (· != '#')

theorem keptQuery_eq_self_iff {query : List Char} :
    keptQuery query = query ↔ ∀ c ∈ query, isKept c = true ∧ c ≠ '#' := by
  constructor
  · intro same c member
    rw [← same] at member
    have before := forall_mem_takeWhile _ _ c member
    have kept := (List.mem_filter.mp ((List.takeWhile_sublist _).mem member)).2
    exact ⟨kept, by simpa using before⟩
  · intro plain
    have filtered : query.filter isKept = query :=
      List.filter_eq_self.mpr fun c member => (plain c member).1
    rw [keptQuery, filtered]
    have whole : (query ++ []).takeWhile (· != '#') = query :=
      takeWhile_span (fun c member => by simpa using (plain c member).2) (by simp)
    rwa [List.append_nil] at whole

def writtenScheme (scheme : List Char) : List Char :=
  if scheme = [] then [] else scheme ++ [':']

def writtenQuery (query : List Char) : List Char :=
  if query = [] then [] else '?' :: query

theorem join_eq (uri : Uri) (query : List Char) :
    { uri with query }.join = writtenScheme uri.scheme ++ (uri.hierarchy ++ writtenQuery query) :=
  List.append_assoc ..

/-- A query that was written starts with its mark, whatever of it is deleted. -/
theorem eq_mark_of_head?_writtenQuery {query : List Char} :
    ∀ c ∈ ((writtenQuery query).filter isKept).head?, c = '?' := by
  intro c found
  rw [writtenQuery] at found
  split at found
  · cases found
  · rw [List.filter_cons, if_pos (by decide)] at found
    exact (Option.some.inj found).symm

/-- The text of a path as it stands behind an authority. -/
def rooted (path : List Char) : List Char :=
  if path ≠ [] ∧ path.head? ≠ some '/' then '/' :: path else path

theorem head?_rooted (path : List Char) : ∀ c ∈ (rooted path).head?, c = '/' := by
  intro c found
  rw [rooted] at found
  split at found
  · exact (Option.some.inj found).symm
  · rename_i slash
    refine Decidable.byContradiction fun other => ?_
    refine slash ⟨List.ne_nil_of_mem (List.mem_of_mem_head? found), ?_⟩
    rw [Option.mem_def.mp found]
    exact fun same => other (Option.some.inj same)

theorem rooted_eq_self {path : List Char} (slash : ∀ c ∈ path.head?, c = '/') :
    rooted path = path := by
  rw [rooted, if_neg]
  rintro ⟨filled, other⟩
  obtain ⟨c, found⟩ := Option.isSome_iff_exists.mp (List.isSome_head?.mpr filled)
  exact other (slash c found ▸ found)

theorem mem_rooted {path : List Char} {c : Char} (member : c ∈ rooted path) :
    c = '/' ∨ c ∈ path := by
  rw [rooted] at member
  split at member
  · exact List.mem_cons.mp member
  · exact .inr member

theorem hierarchy_of_writesAuthority {uri : Uri} (writes : uri.writesAuthority = true) :
    uri.hierarchy = '/' :: '/' :: (uri.authority ++ rooted uri.path) := by
  rw [hierarchy, if_pos writes, rooted]
  split <;> simp [*]

theorem hierarchy_of_not_writesAuthority {uri : Uri} (silent : uri.writesAuthority = false) :
    uri.hierarchy = uri.path := by
  rw [hierarchy, if_neg (by simp [silent])]

/-- A text is cleaned only of what is deleted anywhere if no control character is at its start. -/
theorem clean_append_writtenQuery {front : List Char} (query : List Char)
    (kept : ∀ c ∈ front, isKept c = true) (start : ∀ c ∈ front.head?, ¬c.toNat ≤ 0x20) :
    clean (front ++ writtenQuery query) = front ++ (writtenQuery query).filter isKept := by
  have leading : (front ++ writtenQuery query).dropWhile (fun c => decide (c.toNat ≤ 0x20)) =
      front ++ writtenQuery query := by
    cases front with
    | cons first rest => exact List.dropWhile_cons_of_neg (by simpa using start first rfl)
    | nil =>
      rw [List.nil_append, writtenQuery]
      split
      · rfl
      · exact List.dropWhile_cons_of_neg (by decide)
  rw [clean, leading]
  change (front ++ writtenQuery query).filter isKept = _
  rw [List.filter_append, List.filter_eq_self.mpr kept]

theorem cutAtMark_writtenQuery {path : List Char} (query : List Char)
    (plain : ∀ c ∈ path, c ≠ '?' ∧ c ≠ '#') :
    cutAtMark '?' (cutAtMark '#' (path ++ (writtenQuery query).filter isKept)).1 =
      (path, if query = [] then none else some (keptQuery query)) := by
  have outside : ∀ c ∈ path, (c != '#') = true := fun c member => by
    simpa using (plain c member).2
  have inside : ∀ c ∈ path, (c != '?') = true := fun c member => by
    simpa using (plain c member).1
  -- A number sign in the query begins a fragment, one in the path there is not.
  have shortened : (cutAtMark '#' (path ++ (writtenQuery query).filter isKept)).1 =
      path ++ if query = [] then [] else '?' :: keptQuery query := by
    rw [cutAtMark, List.takeWhile_append_of_pos outside, writtenQuery]
    by_cases empty : query = []
    · simp [empty]
    · simp [empty, keptQuery, isKept]
  rw [shortened, cutAtMark]
  by_cases empty : query = []
  · rw [if_pos empty, if_pos empty, takeWhile_span inside (by simp),
      dropWhile_span inside (by simp)]
    rfl
  · rw [if_neg empty, if_neg empty, takeWhile_span inside (by simp),
      dropWhile_span inside (by simp)]
    rfl

theorem takeAuthority_slashes {host rest : List Char}
    (inside : ∀ c ∈ host, endsAuthority c = false)
    (boundary : ∀ c ∈ rest.head?, endsAuthority c = true) :
    takeAuthority ('/' :: '/' :: (host ++ rest)) = (host, rest) := by
  have inside : ∀ c ∈ host, (!endsAuthority c) = true := fun c member => by
    simpa using inside c member
  have behind : ∀ c ∈ rest.head?, (!endsAuthority c) = false := fun c found => by
    simpa using boundary c found
  rw [takeAuthority, takeWhile_span inside behind, dropWhile_span inside behind]

theorem takeAuthority_eq_self {text : List Char} (single : ¬['/', '/'] <+: text) :
    takeAuthority text = ([], text) := by
  unfold takeAuthority
  split
  · exact absurd ⟨_, rfl⟩ single
  · rfl

/-- A query behind a text completes no word that holds no question mark. -/
theorem prefix_of_prefix_append_writtenQuery {word text query : List Char} (plain : '?' ∉ word)
    (starts : word <+: text ++ (writtenQuery query).filter isKept) : word <+: text := by
  cases written : (writtenQuery query).filter isKept with
  | nil => rwa [written, List.append_nil] at starts
  | cons c rest =>
    obtain rfl := eq_mark_of_head?_writtenQuery c (by rw [written]; rfl)
    exact prefix_of_prefix_append plain (written ▸ starts)

/-- A query behind a text does not change which authority is read from it. -/
theorem takeAuthority_append_writtenQuery (text query : List Char) :
    takeAuthority (text ++ (writtenQuery query).filter isKept) =
      ((takeAuthority text).1, (takeAuthority text).2 ++ (writtenQuery query).filter isKept) := by
  rcases takeAuthority_cases text with ⟨whole, inside, boundary⟩ | ⟨same, single⟩
  · have ends : ∀ c ∈ ((takeAuthority text).2 ++ (writtenQuery query).filter isKept).head?,
        endsAuthority c = true := by
      intro c found
      rw [List.head?_append, Option.mem_def, Option.or_eq_some_iff] at found
      rcases found with inPath | ⟨-, inQuery⟩
      · exact boundary c inPath
      · rw [eq_mark_of_head?_writtenQuery c inQuery]
        rfl
    have split := takeAuthority_slashes inside ends
    rwa [← List.append_assoc, ← List.cons_append, ← List.cons_append, ← whole] at split
  · rw [same]
    exact takeAuthority_eq_self fun starts =>
      single (prefix_of_prefix_append_writtenQuery (by decide) starts)

/-- The parts that are read from a URI as it is written. -/
def reread (uri : Uri) : Uri :=
  { uri with
    authority := (takeAuthority uri.hierarchy).1
    path := (takeAuthority uri.hierarchy).2 }

namespace IsSplit

variable {uri : Uri} (isSplit : uri.IsSplit)

include isSplit

theorem plain_hierarchy :
    ∀ c ∈ uri.hierarchy, isKept c = true ∧ c ≠ '?' ∧ c ≠ '#' := by
  intro c member
  cases writes : uri.writesAuthority with
  | false =>
    rw [hierarchy_of_not_writesAuthority writes] at member
    exact isSplit.path c member
  | true =>
    rw [hierarchy_of_writesAuthority writes] at member
    have others : c = '/' ∨ c ∈ uri.authority ∨ c ∈ rooted uri.path := by
      simpa using member
    rcases others with rfl | inAuthority | inPath
    · decide
    · obtain ⟨kept, inside⟩ := isSplit.authority c inAuthority
      simp only [endsAuthority, Bool.or_eq_false_iff, beq_eq_false_iff_ne] at inside
      exact ⟨kept, inside.1.2, inside.2⟩
    · rcases mem_rooted inPath with rfl | inPath
      · decide
      · exact isSplit.path c inPath

/-- Without a scheme in front, what is written starts like no scheme and with no control
character. -/
theorem start_hierarchy (bare : uri.scheme = []) :
    ¬OpensScheme uri.hierarchy ∧ ∀ c ∈ uri.hierarchy.head?, ¬c.toNat ≤ 0x20 := by
  cases writes : uri.writesAuthority with
  | false =>
    rw [hierarchy_of_not_writesAuthority writes]
    exact isSplit.start bare
  | true =>
    rw [hierarchy_of_writesAuthority writes]
    refine ⟨?_, fun c found => ?_⟩
    · rintro ⟨first, name, rest, same, letter, -⟩
      rw [← (List.cons.inj same).1] at letter
      exact absurd letter (by decide)
    · obtain rfl : '/' = c := Option.some.inj found
      decide

theorem clean_join (query : List Char) :
    clean ({ uri with query }.join) =
      writtenScheme uri.scheme ++ (uri.hierarchy ++ (writtenQuery query).filter isKept) := by
  rw [join_eq, ← List.append_assoc, clean_append_writtenQuery, List.append_assoc]
  · intro c member
    rcases List.mem_append.mp member with inScheme | inHierarchy
    · rw [writtenScheme] at inScheme
      split at inScheme
      · exact absurd inScheme List.not_mem_nil
      · rename_i present
        rcases List.mem_append.mp inScheme with part | colon
        · exact isKept_of_isSchemePart
            ((isSplit.scheme.resolve_left present).isSchemePart c part)
        · rw [List.mem_singleton.mp colon]
          rfl
    · exact (isSplit.plain_hierarchy c inHierarchy).1
  · intro c found
    rw [writtenScheme] at found
    split at found
    · rename_i bare
      exact (isSplit.start_hierarchy bare).2 c found
    · rename_i present
      obtain ⟨first, name, written, letter, -⟩ := isSplit.scheme.resolve_left present
      rw [written] at found
      obtain rfl : first = c := Option.some.inj found
      exact not_isControl_of_isAlpha letter

theorem takeScheme_join (query : List Char) :
    takeScheme (writtenScheme uri.scheme ++
        (uri.hierarchy ++ (writtenQuery query).filter isKept)) =
      (uri.scheme, uri.hierarchy ++ (writtenQuery query).filter isKept) := by
  rcases isSplit.scheme with bare | isScheme
  · rw [writtenScheme, if_pos bare, List.nil_append, bare]
    apply takeScheme_eq_self
    rintro ⟨first, name, rest, whole, letter, others⟩
    have plain : '?' ∉ first :: (name ++ [':']) := by
      intro member
      rw [← List.cons_append, List.mem_append, List.mem_cons] at member
      rcases member with (rfl | inName) | colon
      · exact absurd letter (by decide)
      · exact absurd (List.all_eq_true.mp others _ inName) (by decide)
      · exact absurd colon (by decide)
    have starts : first :: (name ++ [':']) <+: uri.hierarchy :=
      prefix_of_prefix_append_writtenQuery plain ⟨rest, by rw [whole]; simp⟩
    obtain ⟨behind, same⟩ := starts
    exact (isSplit.start_hierarchy bare).1
      ⟨first, name, behind, by rw [← same]; simp, letter, others⟩
  · have present : uri.scheme ≠ [] := by
      obtain ⟨first, name, written, -⟩ := isScheme
      simp [written]
    rw [writtenScheme, if_neg present, List.append_assoc]
    exact isScheme.takeScheme_append _

/-- A URI is read again as it is written, and a query on it without what is deleted. -/
theorem parts_join (query : List Char) :
    parts ({ uri with query }.join) = { uri.reread with query := keptQuery query } := by
  have plain : ∀ c ∈ (takeAuthority uri.hierarchy).2, c ≠ '?' ∧ c ≠ '#' := by
    intro c member
    refine (isSplit.plain_hierarchy c ?_).2
    rcases takeAuthority_cases uri.hierarchy with ⟨whole, -, -⟩ | ⟨same, -⟩
    · rw [whole]
      simp [member]
    · rwa [same] at member
  simp only [parts, isSplit.clean_join, isSplit.takeScheme_join, takeAuthority_append_writtenQuery,
    cutAtMark_writtenQuery query plain, reread]
  by_cases empty : query = []
  · simp [empty, keptQuery]
  · simp [empty]

end IsSplit

/-!
## Plain URIs
-/

/-- A URI that is written with its scheme and its authority, and whose parts hold no character that
is deleted or ends them. -/
structure IsPlain (uri : Uri) : Prop where
  scheme : ∃ first name, uri.scheme = first :: name ∧ first.isAlpha = true ∧
    name.all isSchemePart = true ∧ uri.scheme.map Char.toLower = uri.scheme
  host : uri.authority ≠ []
  authority : ∀ c ∈ uri.authority, isKept c = true ∧ endsAuthority c = false
  slash : ∀ c ∈ uri.path.head?, c = '/'
  path : ∀ c ∈ uri.path, isKept c = true ∧ c ≠ '?' ∧ c ≠ '#'

theorem IsPlain.isSplit {uri : Uri} (plain : uri.IsPlain) : uri.IsSplit where
  scheme := .inr plain.scheme
  authority := plain.authority
  path := plain.path
  slash := fun _ => plain.slash
  start := by
    intro bare
    obtain ⟨first, name, written, -⟩ := plain.scheme
    rw [bare] at written
    cases written

/-- A URI with an authority is read as what it is. -/
theorem IsSplit.reread_eq_self {uri : Uri} (isSplit : uri.IsSplit) (host : uri.authority ≠ []) :
    uri.reread = uri := by
  have writes : uri.writesAuthority = true := by simp [writesAuthority, host]
  have boundary : ∀ c ∈ uri.path.head?, endsAuthority c = true := by
    intro c found
    rw [isSplit.slash host c found]
    rfl
  rw [reread, hierarchy_of_writesAuthority writes, rooted_eq_self (isSplit.slash host),
    takeAuthority_slashes (fun c member => (isSplit.authority c member).2) boundary]

theorem IsPlain.split_join {uri : Uri} (plain : uri.IsPlain)
    (accepted : check uri.authority = .ok ()) (query : List Char) :
    split ({ uri with query }.join) = .ok { uri with query := keptQuery query } := by
  rw [split_eq, plain.isSplit.parts_join, plain.isSplit.reread_eq_self plain.host, accepted]
  rfl

/-!
## System URIs
-/

theorem not_mem_scheme_parts (text : List Char) : ':' ∉ (parts text).scheme := by
  rcases (isSplit_parts text).scheme with bare | isScheme
  · rw [bare]
    exact List.not_mem_nil
  · exact fun member => ne_colon_of_isSchemePart (isScheme.isSchemePart _ member) rfl

def IsSystem (uri : Uri) : Prop :=
  uri.scheme = Source.scheme.toList ∧ uri.authority = "system".toList

instance (uri : Uri) : Decidable uri.IsSystem :=
  inferInstanceAs (Decidable (_ ∧ _))

theorem isPrefixOf_source_iff {uri : Uri} (colonless : ':' ∉ uri.scheme)
    (host : uri.authority ≠ []) :
    (Source.scheme ++ "://").toList.isPrefixOf uri.source = true ↔
      uri.scheme = Source.scheme.toList := by
  have inside : ∀ c ∈ uri.scheme, (c != ':') = true := by
    intro c member
    rw [bne_iff_ne]
    rintro rfl
    exact colonless member
  rw [List.isPrefixOf_iff_prefix]
  by_cases absent : uri.scheme = []
  · have starts : uri.source.head? = some '/' := by
      simp [source, join, hierarchy, writesAuthority, host, absent]
    constructor
    · rintro ⟨rest, whole⟩
      rw [← whole] at starts
      cases starts
    · intro same
      rw [absent] at same
      cases same
  · have written : ∃ rest, uri.source = uri.scheme ++ ':' :: '/' :: '/' :: rest := by
      refine ⟨uri.authority ++ (if uri.path ≠ [] ∧ uri.path.head? ≠ some '/' then ['/'] else []) ++
        uri.path, ?_⟩
      simp [source, join, hierarchy, writesAuthority, host, absent]
    obtain ⟨rest, written⟩ := written
    constructor
    · rintro ⟨behind, whole⟩
      have front : uri.source.takeWhile (· != ':') = uri.scheme := by
        rw [written, takeWhile_span inside (by simp)]
      rw [← whole] at front
      exact front.symm
    · intro same
      refine ⟨rest, ?_⟩
      rw [written, same]
      rfl

/-- The sources that a system URI can ask for. -/
def IsSystemSource (uri : String) : Prop :=
  uri = "spec://system" ∨ "spec://system/".toList <+: uri.toList

theorem IsSystem.isSystemSource {uri : Uri} (system : uri.IsSystem) :
    IsSystemSource (String.ofList uri.source) := by
  obtain ⟨scheme, authority⟩ := system
  have written : uri.source = "spec://system".toList ++
      ((if uri.path ≠ [] ∧ uri.path.head? ≠ some '/' then ['/'] else []) ++ uri.path) := by
    simp [source, join, hierarchy, writesAuthority, scheme, authority, Source.scheme]
  by_cases empty : uri.path = []
  · left
    rw [written, empty]
    rfl
  · right
    rw [String.toList_ofList, written]
    by_cases slash : uri.path.head? = some '/'
    · obtain ⟨rest, path⟩ := List.head?_eq_some_iff.mp slash
      exact ⟨rest, by simp [path]⟩
    · exact ⟨uri.path, by simp [empty, slash]⟩

theorem check_system : check "system".toList = .ok () := rfl

end SpecLexicon.Uri
