import SpecLexicon.Proofs.Template.Grammar

/-!
# The pattern of templates

The language of templates as a pattern with greedy and lazy runs: a word, blanks and a text without
a hash, then blanks and possibly a remark. The captures of its first way to match are those that the
reader gives, although the pattern may have to go back in each of its runs.
-/

set_option autoImplicit false

namespace SpecLexicon.Template

open Text Pattern

def wordPattern : Pattern :=
  .sequence (.one isWordStart) (.run .most 0 isWordPart)

/-- Group one is the body, which holds the key as group two. -/
def bodyPattern : Pattern :=
  .group 1 (.sequence (.group 2 wordPattern)
    (.sequence (.run .most 1 isBlank) (.run .least 1 (· != '#'))))

/-- Group three is the text of the remark behind its blanks. -/
def remarkPattern : Pattern :=
  .sequence (.one (· == '#')) (.sequence (.run .most 0 isBlank)
    (.group 3 (.run .most 0 (· != '\n'))))

def endPattern : Pattern :=
  .sequence (.option remarkPattern) .finish

def tailPattern : Pattern :=
  .sequence (.run .most 0 isBlank) endPattern

def pattern : Pattern :=
  .sequence bodyPattern tailPattern

def remarkGroups : Option (List Char) → List (Nat × List Char)
  | none => []
  | some shown => [(3, dropBlank shown)]

variable {α : Type} {goOn : Match → Option α} {remark : Option (List Char)}

/-!
## Behind the body
-/

theorem firstResult?_finish {text : List Char} (visible : EndsVisibly text) (more : text ≠ []) :
    finish.firstResult? text goOn = none := by
  have noFeed : text ≠ ['\n'] := by
    rintro rfl
    exact absurd (visible '\n' rfl) (by decide)
  simp [firstResult?, more, noFeed]

theorem firstResult?_end_hashed (oneLine : IsOneLine remark) {result : Match → α} :
    endPattern.firstResult? (hashed remark) (fun found => some (result found)) =
      some (result ⟨hashed remark, remarkGroups remark, []⟩) := by
  cases remark with
  | none =>
    simp only [endPattern, firstResult?_sequence, firstResult?_option, hashed, Option.map_none,
      Option.getD_none]
    rw [remarkPattern, firstResult?_sequence, firstResult?_one_eq_none (by simp), Option.none_or]
    simp only [Match.skip, firstResult?_finish_nil, Match.followedBy, List.append_nil, remarkGroups]
  | some shown =>
    have plain : ∀ c ∈ dropBlank shown, (c != '\n') = true := by
      intro c member
      rw [bne_iff_ne]
      rintro rfl
      exact oneLine shown rfl member
    have whole : (dropBlank shown).takeWhile (· != '\n') = dropBlank shown ∧
        (dropBlank shown).dropWhile (· != '\n') = [] := by
      have taken : (dropBlank shown ++ []).takeWhile (· != '\n') = dropBlank shown :=
        takeWhile_span plain (by simp)
      have dropped : (dropBlank shown ++ []).dropWhile (· != '\n') = [] :=
        dropWhile_span plain (by simp)
      rw [List.append_nil] at taken dropped
      exact ⟨taken, dropped⟩
    simp only [endPattern, firstResult?_sequence, firstResult?_option, hashed, Option.map_some,
      Option.getD_some]
    have remarkFound : remarkPattern.firstResult? ('#' :: shown) (fun found =>
        finish.firstResult? found.rest fun next => some (result (found.followedBy next))) =
          some (result ⟨'#' :: shown, remarkGroups (some shown), []⟩) := by
      simp only [remarkPattern, firstResult?_sequence, firstResult?_group]
      rw [firstResult?_one_cons rfl]
      apply firstResult?_run_most _ (Nat.zero_le _) (Nat.le_refl _) (by omega)
      rw [split_length_takeWhile]
      apply firstResult?_run_most _ (Nat.zero_le _) (Nat.le_refl _) (by omega)
      rw [split_length_takeWhile]
      change finish.firstResult? ((dropBlank shown).dropWhile (· != '\n')) _ = _
      rw [whole.2, firstResult?_finish_nil]
      simp only [Match.skip, Match.followedBy, Match.grouped, List.append_nil, remarkGroups,
        List.nil_append]
      rw [← dropBlank, whole.1, dropBlank, List.cons_append, List.nil_append,
        List.takeWhile_append_dropWhile]
    rw [remarkFound, Option.some_or]

theorem firstResult?_end_eq_none {text : List Char} (visible : EndsVisibly text) (more : text ≠ [])
    (feed : ∀ shown, text = '#' :: shown → '\n' ∈ dropBlank shown) :
    endPattern.firstResult? text goOn = none := by
  simp only [endPattern, firstResult?_sequence, firstResult?_option, Match.skip]
  rw [firstResult?_finish visible more, Option.or_none]
  simp only [remarkPattern, firstResult?_sequence, firstResult?_group]
  cases text with
  | nil => exact absurd rfl more
  | cons c shown =>
    by_cases hash : c = '#'
    · subst hash
      rw [firstResult?_one_cons rfl]
      apply firstResult?_run_eq_none
      intro blanks _ blanksFit
      apply firstResult?_run_eq_none
      intro length _ fits
      apply firstResult?_finish
      · have behind : EndsVisibly (['#'] ++ shown) := visible
        exact (behind.of_append.drop blanks).drop length
      · intro empty
        -- The run up to the end would take the line feed.
        have all : ∀ c ∈ shown.drop blanks, (c != '\n') = true := by
          have reached : (shown.drop blanks).length ≤ length := List.drop_eq_nil_iff.mp empty
          have same : (shown.drop blanks).takeWhile (· != '\n') = shown.drop blanks :=
            (List.takeWhile_prefix _).eq_of_length_le (Nat.le_trans reached fits)
          intro c member
          rw [← same] at member
          exact forall_mem_takeWhile _ _ c member
        have member : '\n' ∈ shown.drop blanks := by
          have behind : dropBlank shown = shown.drop (shown.takeWhile isBlank).length :=
            (congrArg Match.rest (split_length_takeWhile isBlank shown)).symm
          have inside := feed shown rfl
          rw [behind, ← Nat.add_sub_cancel' blanksFit, ← List.drop_drop] at inside
          exact List.mem_of_mem_drop inside
        exact absurd (all _ member) (by decide)
    · exact firstResult?_one_eq_none (by simpa using hash)

/-- The tail of a template takes blanks up to a remark, and a remark to its end. -/
theorem firstResult?_tail {blanks : List Char} (blank : IsBlankText blanks)
    (oneLine : IsOneLine remark) {result : Match → α} :
    tailPattern.firstResult? (blanks ++ hashed remark) (fun found => some (result found)) =
      some (result ⟨blanks ++ hashed remark, remarkGroups remark, []⟩) := by
  have boundary : ∀ c ∈ (hashed remark).head?, isBlank c = false := by
    intro c found
    rw [eq_hash_of_head?_hashed found]
    decide
  have taken := takeWhile_span blank boundary
  have behind := dropWhile_span blank boundary
  simp only [tailPattern, firstResult?_sequence]
  apply firstResult?_run_most _ (Nat.zero_le _) (Nat.le_refl _) (by omega)
  rw [split_length_takeWhile, taken, behind, firstResult?_end_hashed oneLine]
  simp only [Match.followedBy, List.nil_append]

theorem length_takeWhile_isBlank_le (text : List Char) (remark : Option (List Char)) :
    ((text ++ hashed remark).takeWhile isBlank).length ≤ text.length := by
  rw [List.takeWhile_append]
  split
  · cases remark with
    | none => simp [hashed]
    | some shown => simp [hashed, show isBlank '#' = false by decide]
  · exact (List.takeWhile_prefix _).length_le

/-- The tail of a template fails where something else stands in front of the remark, and where the
remark has a line feed. -/
theorem firstResult?_tail_eq_none {text : List Char} (visible : EndsVisibly (text ++ hashed remark))
    (plain : '#' ∉ text) (bad : ¬IsBlankText text ∨ ¬IsOneLine remark) :
    tailPattern.firstResult? (text ++ hashed remark) goOn = none := by
  simp only [tailPattern, firstResult?_sequence]
  apply firstResult?_run_eq_none
  intro length _ fits
  have short : length ≤ text.length :=
    Nat.le_trans fits (length_takeWhile_isBlank_le text remark)
  have rest : (Match.split length (text ++ hashed remark)).rest =
      text.drop length ++ hashed remark := List.drop_append_of_le_length short
  have blank_of_reached (reached : text.drop length = []) : IsBlankText text := by
    have whole : (text ++ hashed remark).takeWhile isBlank = text :=
      (List.prefix_of_prefix_length_le (List.takeWhile_prefix _) (List.prefix_append _ _)
        (length_takeWhile_isBlank_le text remark)).eq_of_length_le
          (Nat.le_trans (List.drop_eq_nil_iff.mp reached) fits)
    rw [← whole]
    exact forall_mem_takeWhile isBlank _
  rw [rest]
  apply firstResult?_end_eq_none
  · rw [← rest]
    exact visible.drop length
  · intro empty
    obtain ⟨reached, noRemark⟩ := List.append_eq_nil_iff.mp empty
    rcases bad with filled | feed
    · exact filled (blank_of_reached reached)
    · apply feed
      intro shown found
      rw [Option.mem_def.mp found] at noRemark
      cases noRemark
  · intro shown starts
    cases inner : text.drop length with
    | cons c others =>
      rw [inner, List.cons_append, List.cons.injEq] at starts
      have member : c ∈ text := List.mem_of_mem_drop (inner ▸ List.mem_cons_self)
      exact absurd (starts.1 ▸ member) plain
    | nil =>
      rw [inner, List.nil_append] at starts
      rcases bad with filled | feed
      · exact absurd (blank_of_reached inner) filled
      · cases remark with
        | none => cases starts
        | some other =>
          obtain rfl : other = shown := (List.cons.inj starts).2
          simpa [IsOneLine] using feed

/-!
## The body
-/

/-- The text of a body is the shortest one that has nothing but blanks between it and the remark. -/
theorem firstResult?_words {words blanks : List Char} (filled : words ≠ [])
    (plain : '#' ∉ words ++ blanks)
    (shortest : ∀ length, 1 ≤ length → length < words.length →
      ¬IsBlankText ((words ++ blanks).drop length))
    (blank : IsBlankText blanks) (oneLine : IsOneLine remark)
    (visible : EndsVisibly (words ++ blanks ++ hashed remark)) {result : Match → Match → α} :
    (run .least 1 (· != '#')).firstResult? (words ++ blanks ++ hashed remark)
        (fun found => tailPattern.firstResult? found.rest fun tail => some (result found tail)) =
      some (result ⟨words, [], blanks ++ hashed remark⟩
        ⟨blanks ++ hashed remark, remarkGroups remark, []⟩) := by
  have split : Match.split words.length (words ++ blanks ++ hashed remark) =
      ⟨words, [], blanks ++ hashed remark⟩ := by
    rw [Match.split, List.append_assoc, List.take_left, List.drop_left]
  apply firstResult?_run_least words.length
  · exact List.length_pos_iff.mpr filled
  · rw [(span_hashed plain remark).1]
    simp
  · intro length enough shorter
    have rest : (Match.split length (words ++ blanks ++ hashed remark)).rest =
        (words ++ blanks).drop length ++ hashed remark := by
      apply List.drop_append_of_le_length
      simp only [List.length_append]
      omega
    rw [rest]
    apply firstResult?_tail_eq_none
    · rw [← rest]
      exact visible.drop length
    · exact fun member => plain (List.mem_of_mem_drop member)
    · exact .inl (shortest length enough shorter)
  · rw [split, firstResult?_tail blank oneLine]

/-- A word is taken as a whole if what follows it in the pattern cannot start within a word. -/
theorem firstResult?_word {word rest : List Char} (isWord : IsWord word)
    (boundary : ∀ c ∈ rest.head?, isWordPart c = false)
    (fails : ∀ found : Match, (∃ c ∈ found.rest.head?, isWordPart c = true) →
      goOn found = none) :
    wordPattern.firstResult? (word ++ rest) goOn = goOn ⟨word, [], rest⟩ := by
  obtain ⟨first, part, rfl, start, inside⟩ := isWord
  have taken := takeWhile_span inside boundary
  have behind := dropWhile_span inside boundary
  simp only [wordPattern, firstResult?_sequence, List.cons_append]
  rw [firstResult?_one_cons start, firstResult?_run_most_longest (Nat.zero_le _)]
  · simp only [taken, behind, Match.followedBy, List.cons_append, List.nil_append]
  · intro length shorter
    rw [taken] at shorter
    apply fails
    refine ⟨part[length], ?_, inside _ (List.getElem_mem shorter)⟩
    change ((part ++ rest).drop length).head? = _
    rw [List.head?_drop, List.getElem?_append_left shorter, List.getElem?_eq_getElem shorter]

variable {line key blanks words : List Char}

/-- The match of the pattern: a key, what follows it in the body, and the tail. -/
def assembled (key : List Char) (behind tail : Match) : Match :=
  ⟨key ++ behind.taken ++ tail.taken,
    (1, key ++ behind.taken) :: (2, key) :: (behind.groups ++ tail.groups), tail.rest⟩

theorem firstResult?_pattern_of_boundary {rest : List Char} (isWord : IsWord key)
    (boundary : ∀ c ∈ rest.head?, isWordPart c = false) :
    pattern.firstResult? (key ++ rest) goOn =
      (run .most 1 isBlank).firstResult? rest fun blanks =>
        (run .least 1 (· != '#')).firstResult? blanks.rest fun words =>
          tailPattern.firstResult? words.rest fun tail =>
            goOn (assembled key (blanks.followedBy words) tail) := by
  simp only [pattern, bodyPattern, firstResult?_sequence, firstResult?_group]
  rw [firstResult?_word isWord boundary]
  · rfl
  · rintro found ⟨c, starts, part⟩
    apply firstResult?_run_eq_none_of_head (Nat.le_refl 1)
    intro d same
    have : c = d := Option.some.inj (starts.symm.trans same)
    exact this ▸ isBlank_of_isWordPart part

namespace Parts

theorem boundary (parts : Parts line key blanks words remark) :
    ∀ c ∈ (blanks ++ words ++ hashed remark).head?, isWordPart c = false := by
  intro c found
  apply parts.key_longest
  cases same : blanks with
  | nil => exact absurd same parts.blanks_ne_nil
  | cons d others => simpa [same] using found

theorem firstResult?_pattern (parts : Parts line key blanks words remark) :
    pattern.firstResult? line goOn =
      (run .most 1 isBlank).firstResult? (blanks ++ words ++ hashed remark) fun blanks =>
        (run .least 1 (· != '#')).firstResult? blanks.rest fun words =>
          tailPattern.firstResult? words.rest fun tail =>
            goOn (assembled key (blanks.followedBy words) tail) := by
  conv => lhs; rw [parts.whole, List.append_assoc]
  exact firstResult?_pattern_of_boundary parts.key_isWord parts.boundary

theorem takeWhile_isBlank (parts : Parts line key blanks words remark) :
    (blanks ++ words ++ hashed remark).takeWhile isBlank = blanks := by
  rw [List.append_assoc]
  apply takeWhile_span parts.blanks_blank
  intro c found
  cases same : words with
  | cons d others =>
    rw [same, List.cons_append, List.head?_cons] at found
    exact parts.blanks_longest c (by rw [same]; exact found)
  | nil =>
    rw [same, List.nil_append] at found
    rw [eq_hash_of_head?_hashed found]
    decide

theorem endsVisibly_drop (parts : Parts line key blanks words remark) (visible : EndsVisibly line)
    (length : Nat) : EndsVisibly ((blanks ++ words).drop length ++ hashed remark) := by
  rw [parts.whole, ← List.take_append_drop length (blanks ++ words), ← List.append_assoc,
    List.append_assoc] at visible
  exact visible.of_append

/-- The blanks are as many as there are, and the words end before the last blanks. -/
theorem first?_of_words (parts : Parts line key blanks words remark) (visible : EndsVisibly line)
    {first : Char} {others : List Char} (words_eq : words = first :: others)
    (oneLine : IsOneLine remark) :
    pattern.first? line =
      some ⟨line, (1, bodyOf key blanks words) :: (2, key) :: remarkGroups remark, []⟩ := by
  obtain ⟨ending, whole, blank⟩ := exists_dropBlankEnd_append words
  have starts : isBlank first = false := parts.blanks_longest first (by rw [words_eq]; rfl)
  have filled : dropBlankEnd words ≠ [] := dropBlankEnd_ne_nil words_eq starts
  have body : bodyOf key blanks words = key ++ (blanks ++ dropBlankEnd words) := by
    rw [← bodyOf_eq key parts.blanks_longest, if_neg (by simp [words_eq]),
      dropBlankEnd_append_of_ne_nil blanks filled]
  have split : Match.split blanks.length (blanks ++ words ++ hashed remark) =
      ⟨blanks, [], dropBlankEnd words ++ ending ++ hashed remark⟩ := by
    rw [Match.split, List.append_assoc, List.take_left, List.drop_left, whole]
  rw [first?_eq_firstResult?, parts.firstResult?_pattern]
  apply firstResult?_run_most blanks.length
  · exact List.length_pos_iff.mpr parts.blanks_ne_nil
  · exact Nat.le_of_eq (congrArg List.length parts.takeWhile_isBlank.symm)
  · rw [parts.takeWhile_isBlank]
    omega
  · have visibleWords : EndsVisibly (words ++ hashed remark) := by
      simpa using parts.endsVisibly_drop visible blanks.length
    rw [split, firstResult?_words filled (by rw [whole]; exact parts.words_plain)
      (fun length _ shorter => (endsVisibly_dropBlankEnd words).not_isBlankText_drop _ shorter)
      blank oneLine (by rw [whole]; exact visibleWords)]
    rw [assembled, body, parts.whole]
    simp only [Match.followedBy, List.append_assoc, List.nil_append]
    rw [← List.append_assoc (dropBlankEnd words), whole]

/-- The last blank counts as words if nothing but a remark follows, so there must be another. -/
theorem first?_of_blanks (parts : Parts line key blanks words remark) (visible : EndsVisibly line)
    (words_eq : words = []) (several : 2 ≤ blanks.length) (oneLine : IsOneLine remark) :
    pattern.first? line =
      some ⟨line, (1, bodyOf key blanks words) :: (2, key) :: remarkGroups remark, []⟩ := by
  subst words_eq
  have last : ∃ last, blanks.drop (blanks.length - 1) = [last] := by
    apply List.length_eq_one_iff.mp
    rw [List.length_drop]
    omega
  obtain ⟨last, last_eq⟩ := last
  have split : Match.split (blanks.length - 1) (blanks ++ [] ++ hashed remark) =
      ⟨blanks.take (blanks.length - 1), [], [last] ++ [] ++ hashed remark⟩ := by
    rw [Match.split, List.append_nil, List.take_append_of_le_length (by omega),
      List.drop_append_of_le_length (by omega), last_eq, List.append_nil]
  rw [first?_eq_firstResult?, parts.firstResult?_pattern]
  apply firstResult?_run_most (blanks.length - 1)
  · omega
  · rw [parts.takeWhile_isBlank]
    omega
  · rw [parts.takeWhile_isBlank]
    intro length more fits
    have whole : (Match.split length (blanks ++ [] ++ hashed remark)).rest = hashed remark := by
      rw [show length = blanks.length by omega, Match.split, List.append_nil, List.drop_left]
    apply firstResult?_run_eq_none_of_head (Nat.le_refl 1)
    intro c found
    rw [whole] at found
    rw [eq_hash_of_head?_hashed found]
    rfl
  · have member : last ∈ blanks := List.mem_of_mem_drop (last_eq ▸ List.mem_cons_self)
    have plain : '#' ∉ [last] ++ [] := by
      intro hash
      rw [List.append_nil, List.mem_singleton] at hash
      exact absurd (parts.blanks_blank '#' (hash ▸ member)) (by decide)
    have visibleLast : EndsVisibly ([last] ++ [] ++ hashed remark) := by
      have := parts.endsVisibly_drop visible (blanks.length - 1)
      rwa [List.append_nil, last_eq] at this
    rw [split, firstResult?_words (by simp) plain (fun length enough shorter => by
      rw [List.length_singleton] at shorter; omega) (by simp [IsBlankText]) oneLine visibleLast]
    have joined : blanks.take (blanks.length - 1) ++ [last] = blanks := by
      rw [← last_eq, List.take_append_drop]
    rw [assembled, parts.whole, bodyOf, if_pos rfl]
    simp only [Match.followedBy, List.append_assoc, List.nil_append, List.append_nil]
    rw [← List.append_assoc (blanks.take _) [last], joined]

theorem first?_of_accepted (parts : Parts line key blanks words remark)
    (visible : EndsVisibly line) (accepted : Accepted blanks words remark) :
    pattern.first? line =
      some ⟨line, (1, bodyOf key blanks words) :: (2, key) :: remarkGroups remark, []⟩ := by
  by_cases empty : words = []
  · rcases accepted.filled with filled | ⟨_, several⟩
    · exact absurd empty filled
    · exact parts.first?_of_blanks visible empty several accepted.oneLine
  · obtain ⟨first, others, words_eq⟩ := List.exists_cons_of_ne_nil empty
    exact parts.first?_of_words visible words_eq accepted.oneLine

/-- Every way through the pattern fails if the parts make up no template. -/
theorem first?_eq_none (parts : Parts line key blanks words remark) (visible : EndsVisibly line)
    (refused : ¬Accepted blanks words remark) : pattern.first? line = none := by
  rw [first?_eq_firstResult?, parts.firstResult?_pattern]
  apply firstResult?_run_eq_none
  intro taken enough fits
  rw [parts.takeWhile_isBlank] at fits
  have rest : (Match.split taken (blanks ++ words ++ hashed remark)).rest =
      (blanks ++ words).drop taken ++ hashed remark := by
    apply List.drop_append_of_le_length
    rw [List.length_append]
    omega
  rw [rest]
  have plain : '#' ∉ (blanks ++ words).drop taken := fun member =>
    parts.front_plain (List.mem_append_right _ (List.mem_of_mem_drop member))
  apply firstResult?_run_eq_none
  intro length some_length bounded
  rw [(span_hashed plain remark).1] at bounded
  have behind : (Match.split length ((blanks ++ words).drop taken ++ hashed remark)).rest =
      ((blanks ++ words).drop taken).drop length ++ hashed remark :=
    List.drop_append_of_le_length bounded
  rw [behind]
  apply firstResult?_tail_eq_none
  · rw [← behind]
    exact (parts.endsVisibly_drop visible taken).drop length
  · exact fun member => plain (List.mem_of_mem_drop member)
  · by_cases oneLine : IsOneLine remark
    · left
      intro blank
      apply refused
      refine ⟨?_, oneLine⟩
      by_cases filled : words = []
      · right
        subst filled
        rw [List.append_nil, List.length_drop] at bounded
        refine ⟨?_, by omega⟩
        cases remark with
        | some shown => rfl
        | none =>
          -- Without a remark the line would end with its blanks.
          have ends := parts.endsVisibly_drop visible 0
          have empty : blanks = [] := by
            apply EndsVisibly.eq_nil _ parts.blanks_blank
            simpa [hashed] using ends
          exact absurd empty parts.blanks_ne_nil
      · exact .inl filled
    · exact .inr oneLine

end Parts

/-!
## The reader and the pattern
-/

/-- The pattern fails on a line that does not fall into parts. -/
theorem first?_eq_none_of_no_parts
    (none_found : ∀ key blanks words remark, ¬Parts line key blanks words remark) :
    pattern.first? line = none := by
  have whole : (splitHash line).1 ++ hashed (splitHash line).2 = line := append_splitHash line
  rw [first?_eq_firstResult?, ← whole]
  cases split : leadingWord? (splitHash line).1 with
  | none =>
    simp only [pattern, bodyPattern, wordPattern, firstResult?_sequence, firstResult?_group]
    apply firstResult?_one_eq_none
    intro c found
    cases front : (splitHash line).1 with
    | nil =>
      rw [front, List.nil_append] at found
      rw [eq_hash_of_head?_hashed found]
      decide
    | cons d others =>
      rw [front, List.cons_append, List.head?_cons, Option.mem_def, Option.some.injEq] at found
      subst found
      rw [front, leadingWord?] at split
      simpa using split
  | some found =>
    obtain ⟨key, rest⟩ := found
    have front : key ++ rest = (splitHash line).1 := append_of_leadingWord? split
    have bare : (splitBlank rest).1 = [] := Decidable.byContradiction fun blank =>
      none_found _ _ _ _ (exists_parts split blank)
    have head (c : Char) (found : c ∈ (rest ++ hashed (splitHash line).2).head?) :
        isWordPart c = false ∧ isBlank c = false := by
      cases same : rest with
      | nil =>
        rw [same, List.nil_append] at found
        rw [eq_hash_of_head?_hashed found]
        decide
      | cons d others =>
        rw [same, List.cons_append, List.head?_cons, Option.mem_def, Option.some.injEq] at found
        subst found
        refine ⟨boundary_of_leadingWord? split d (by rw [same]; rfl), ?_⟩
        cases blank : isBlank d with
        | false => rfl
        | true => simp [same, splitBlank, blank] at bare
    rw [← front, List.append_assoc, firstResult?_pattern_of_boundary (isWord_of_leadingWord? split)
      fun c found => (head c found).1]
    exact firstResult?_run_eq_none_of_head (Nat.le_refl 1) fun c found => (head c found).2

/-- What the groups of the pattern hold: key, body and comment. -/
def captures (found : Match) : List Char × List Char × Option String :=
  ((found.group? 2).getD [], (found.group? 1).getD [],
    ((found.group? 3).bind trimmed?).map String.ofList)

def contents (template : Template) : List Char × List Char × Option String :=
  (template.key, template.body, template.comment)

theorem captures_groups (line key body : List Char) (remark : Option (List Char)) :
    captures ⟨line, (1, body) :: (2, key) :: remarkGroups remark, []⟩ =
      (key, body, commentOf remark) := by
  cases remark with
  | none => rfl
  | some shown =>
    change (key, body, (trimmed? (dropBlank shown)).map String.ofList) = _
    rw [trimmed?_dropBlank]
    rfl

theorem exists_parseTrimmed?_eq_some {remark : Option (List Char)}
    (parts : Parts line key blanks words remark) (accepted : Accepted blanks words remark) :
    ∃ template, parseTrimmed? line = some template := by
  have key_prefix : key <+: bodyOf key blanks words := by
    rw [← bodyOf_eq key parts.blanks_longest]
    exact List.prefix_append _ _
  exact ⟨⟨key, bodyOf key blanks words, commentOf remark, parts.key_isWord, key_prefix⟩,
    parseTrimmed?_eq_some_iff.mpr ⟨blanks, words, remark, parts, accepted, rfl, rfl⟩⟩

theorem captures_first? (visible : EndsVisibly line) :
    (pattern.first? line).map captures = (parseTrimmed? line).map contents := by
  cases parsed : parseTrimmed? line with
  | some template =>
    obtain ⟨blanks, words, remark, parts, accepted, body, comment⟩ :=
      parseTrimmed?_eq_some_iff.mp parsed
    rw [parts.first?_of_accepted visible accepted, Option.map_some, captures_groups,
      Option.map_some, contents, body, comment]
  | none =>
    by_cases falls : ∃ key blanks words remark, Parts line key blanks words remark
    · obtain ⟨key, blanks, words, remark, parts⟩ := falls
      have refused : ¬Accepted blanks words remark := by
        intro accepted
        obtain ⟨template, found⟩ := exists_parseTrimmed?_eq_some parts accepted
        rw [parsed] at found
        cases found
      rw [parts.first?_eq_none visible refused]
      rfl
    · rw [first?_eq_none_of_no_parts fun key blanks words remark parts =>
        falls ⟨key, blanks, words, remark, parts⟩]
      rfl

/-- A line is a template exactly if it falls into the parts of one. Then key, body and comment are
determined by the parts, and they are what the pattern captures. Any other line is recorded as it
was given, blanks at its ends included, and makes no symbol. -/
theorem parse?_iff_parts_and_pattern (line : LooseText) :
    ((parse? line.plain).isSome = true ↔ ∃ key blanks words remark,
      Parts (trim line.plain.toList) key blanks words remark ∧ Accepted blanks words remark) ∧
    (∀ template, parse? line.plain = some template ↔ ∃ blanks words remark,
      Parts (trim line.plain.toList) template.key blanks words remark ∧
        Accepted blanks words remark ∧ template.body = bodyOf template.key blanks words ∧
        template.comment = commentOf remark) ∧
    (parse? line.plain).map contents =
      (pattern.first? (trim line.plain.toList)).map captures ∧
    ∀ motors counters built, parse? line.plain = none ↔
      addLine motors counters built line =
        { built with journal := built.journal ++
          [⟨.warning, .snippets, (Rejection.mk line "snippet").message⟩] } := by
  refine ⟨?_, fun template => parseTrimmed?_eq_some_iff, ?_, ?_⟩
  · rw [Option.isSome_iff_exists]
    constructor
    · rintro ⟨template, parsed⟩
      obtain ⟨blanks, words, remark, parts, accepted, _⟩ := parseTrimmed?_eq_some_iff.mp parsed
      exact ⟨_, blanks, words, remark, parts, accepted⟩
    · rintro ⟨key, blanks, words, remark, parts, accepted⟩
      exact exists_parseTrimmed?_eq_some parts accepted
  · exact (captures_first? (endsVisibly_trim _)).symm
  · intro motors counters built
    cases parsed : parse? line.plain with
    | none => simp [addLine, parsed, rejection]
    | some template =>
      simp only [addLine, parsed, reduceCtorEq, false_iff]
      intro same
      have := congrArg (fun rebuilt => rebuilt.journal.length) same
      simp at this

/-- With nothing but blanks in front of the remark, the last of them makes up the body. -/
example : (parse? "mv  # c").map contents =
    some ("mv".toList, "mv  ".toList, some "c") := by
  decide +kernel

end SpecLexicon.Template
