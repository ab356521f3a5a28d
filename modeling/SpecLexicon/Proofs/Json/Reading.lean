import SpecLexicon.Proofs.Json.Grammar
import SpecLexicon.Proofs.OrderedMap
import SpecLexicon.Proofs.Text.Span

/-!
# Reading what the grammar writes

A text of the grammar is read as its value by every dialect whose bounds it keeps, whatever follows
it, as long as a number at its end cannot be continued. So dialects differ on the grammar in their
bounds only.
-/

set_option autoImplicit false

namespace SpecLexicon.Json

variable {dialect : Dialect} {text rest layout : List Char}

/-!
## Layout
-/

theorem skipLayout_append (isLayout : IsLayout layout)
    (boundary : ∀ c ∈ rest.head?, Json.isLayout c = false) :
    skipLayout (layout ++ rest) = rest :=
  Text.dropWhile_span isLayout boundary

theorem skipLayout_append_cons (isLayout : IsLayout layout) {c : Char}
    (mark : Json.isLayout c = false) : skipLayout (layout ++ c :: rest) = c :: rest :=
  skipLayout_append isLayout fun _ found => Option.some.inj found ▸ mark

theorem skipLayout_eq_nil (isLayout : IsLayout layout) : skipLayout layout = [] := by
  have skipped : skipLayout (layout ++ []) = [] := skipLayout_append isLayout (by simp)
  rwa [List.append_nil] at skipped

/-!
## Strings
-/

theorem hexValue?_of_mem {c : Char} {value : Nat} (known : (c, value) ∈ hexValues) :
    hexValue? c = some value := by
  have all : ∀ entry ∈ hexValues, hexValue? entry.1 = some entry.2 := by decide
  exact all (c, value) known

theorem WritesUnit.readUnit? {unit : Nat} (written : WritesUnit text unit) (rest : List Char) :
    readUnit? (text ++ rest) = some (unit, rest) := by
  obtain ⟨first, second, third, fourth⟩ := written
  simp [Json.readUnit?, hexValue?_of_mem first, hexValue?_of_mem second, hexValue?_of_mem third,
    hexValue?_of_mem fourth]

theorem readEscape?_of_mem {letter c : Char} (known : (letter, c) ∈ shortEscapes) :
    readEscape? dialect (letter :: rest) = some (.char c, rest) := by
  simp only [shortEscapes, List.mem_cons, Prod.mk.injEq, List.not_mem_nil, or_false] at known
  rcases known with ⟨rfl, rfl⟩ | ⟨rfl, rfl⟩ | ⟨rfl, rfl⟩ | ⟨rfl, rfl⟩ | ⟨rfl, rfl⟩ |
    ⟨rfl, rfl⟩ | ⟨rfl, rfl⟩ | ⟨rfl, rfl⟩ <;> rfl

theorem readCodePoint?_of_unit {unit : Nat} (written : WritesUnit text unit)
    (whole : unit < 0xD800 ∨ 0xE000 ≤ unit) :
    readCodePoint? dialect (text ++ rest) = some (.char (Char.ofNat unit), rest) := by
  have notHigh : ¬(0xD800 ≤ unit ∧ unit < 0xDC00) := by omega
  have notLow : ¬(0xDC00 ≤ unit ∧ unit < 0xE000) := by omega
  rw [readCodePoint?, written.readUnit?]
  simp only [if_neg notHigh, if_neg notLow]

theorem readCodePoint?_of_pair {high low : List Char} {upper lower : Nat}
    (first : WritesUnit high (0xD800 + upper)) (upper_lt : upper < 0x400)
    (second : WritesUnit low (0xDC00 + lower)) (lower_lt : lower < 0x400) :
    readCodePoint? dialect (high ++ '\\' :: 'u' :: (low ++ rest)) =
      some (.char (Char.ofNat (0x10000 + upper * 0x400 + lower)), rest) := by
  have isHigh : 0xD800 ≤ 0xD800 + upper ∧ 0xD800 + upper < 0xDC00 := by omega
  have isLow : 0xDC00 ≤ 0xDC00 + lower ∧ 0xDC00 + lower < 0xE000 := by omega
  rw [readCodePoint?, first.readUnit?]
  simp only [if_pos isHigh, second.readUnit?, if_pos isLow, Nat.add_sub_cancel_left]

theorem WritesChar.readChar? {c : Char} (written : WritesChar text c) (rest : List Char) :
    readChar? dialect (text ++ rest) = some (.char c, rest) := by
  cases written with
  | plain visible unquoted unescaped =>
    simp [Json.readChar?, unescaped, Nat.not_lt.mpr visible]
  | short known => simpa [Json.readChar?] using readEscape?_of_mem known
  | unit written whole =>
    simpa [Json.readChar?, readEscape?] using readCodePoint?_of_unit written whole
  | pair first upper second lower =>
    simpa [Json.readChar?, readEscape?] using readCodePoint?_of_pair first upper second lower

theorem WritesChar.exists_cons {c : Char} (written : WritesChar text c) :
    ∃ first tail, text = first :: tail ∧ first ≠ '"' := by
  cases written with
  | plain _ unquoted _ => exact ⟨c, [], rfl, unquoted⟩
  | short | unit | pair => exact ⟨'\\', _, rfl, by decide⟩

theorem readString?_of_unquoted {first : Char} {fuel : Nat} (unquoted : first ≠ '"') :
    readString? dialect (fuel + 1) (first :: text) =
      match readChar? dialect (first :: text) with
      | none => none
      | some (c, rest) =>
        match readString? dialect fuel rest with
        | none => none
        | some (body, behind) => some (c :: body, behind) := by
  exact readString?.eq_3 dialect (first :: text) fuel fun rest same =>
    unquoted (List.cons.inj same).1

theorem WritesString.readString? {body : List Char} (written : WritesString text body)
    (rest : List Char) {fuel : Nat} (enough : text.length ≤ fuel) :
    readString? dialect fuel (text ++ rest) = some (body.map .char, rest) := by
  induction written generalizing fuel with
  | closed =>
    obtain ⟨fuel, rfl⟩ := Nat.exists_eq_add_one_of_ne_zero (Nat.ne_of_gt enough)
    rfl
  | @char charText others c body written _ ih =>
    obtain ⟨first, tail, rfl, unquoted⟩ := written.exists_cons
    rw [List.length_append, List.length_cons] at enough
    obtain ⟨fuel, rfl⟩ : ∃ left, fuel = left + 1 := ⟨fuel - 1, by omega⟩
    have read : readChar? dialect (first :: (tail ++ (others ++ rest))) =
        some (.char c, others ++ rest) := written.readChar? _
    have behind : Json.readString? dialect fuel (others ++ rest) = some (body.map .char, rest) :=
      ih (by omega)
    rw [List.append_assoc, List.cons_append, readString?_of_unquoted unquoted, read]
    simp only [behind, List.map_cons]

theorem WritesString.readQuoted {body : List Char} (written : WritesString text body)
    (rest : List Char) :
    readQuoted dialect (text ++ rest) = .ok (.text (String.ofList body), rest) := by
  have enough : text.length ≤ (text ++ rest).length + 1 := by
    rw [List.length_append]
    omega
  rw [Json.readQuoted, written.readString? rest enough]
  simp only [LooseText.ofPoints_map_char]

/-!
## Numbers
-/

/-- No character that could continue a number stands at the start of a text. -/
def EndsNumber (rest : List Char) : Prop :=
  ∀ c ∈ rest.head?, c.isDigit = false ∧ c ≠ '.' ∧ c ≠ 'e' ∧ c ≠ 'E'

theorem takeWhile_isDigit {digits : List Char} (isDigits : IsDigits digits)
    (boundary : ∀ c ∈ rest.head?, c.isDigit = false) :
    (digits ++ rest).takeWhile Char.isDigit = digits ∧
      (digits ++ rest).dropWhile Char.isDigit = rest :=
  ⟨Text.takeWhile_span isDigits.inside boundary, Text.dropWhile_span isDigits.inside boundary⟩

theorem takeSign_append {sign : Option Char} {digits : List Char}
    (known : sign ∈ [none, some '+', some '-']) (isDigits : IsDigits digits) :
    Numeral.takeSign (sign.toList ++ (digits ++ rest)) = (sign, digits ++ rest) := by
  simp only [List.mem_cons, List.not_mem_nil, or_false] at known
  rcases known with rfl | rfl | rfl
  · obtain ⟨first, others, rfl⟩ := List.exists_cons_of_ne_nil isDigits.ne_nil
    have digit := isDigits.inside first List.mem_cons_self
    have notPlus : first ≠ '+' := by
      rintro rfl
      exact absurd digit (by decide)
    have notMinus : first ≠ '-' := by
      rintro rfl
      exact absurd digit (by decide)
    simp [Numeral.takeSign, notPlus, notMinus]
  · rfl
  · rfl

theorem WritesExponent.takeExponent {exponent : Option (Bool × List Char)}
    (written : WritesExponent text exponent) (ends : EndsNumber rest) :
    Numeral.takeExponent (text ++ rest) = (exponent, rest) := by
  cases written with
  | absent =>
    cases rest with
    | nil => rfl
    | cons c tail =>
      obtain ⟨_, _, lower, upper⟩ := ends c rfl
      simp [Numeral.takeExponent, lower, upper]
  | present mark sign isDigits =>
    obtain ⟨taken, dropped⟩ := takeWhile_isDigit isDigits fun c found => (ends c found).1
    rw [List.cons_append, List.append_assoc, Numeral.takeExponent, takeSign_append sign isDigits]
    simp only [taken, dropped]
    rw [if_pos ⟨mark, isDigits.ne_nil⟩]

theorem WritesExponent.boundary {exponent : Option (Bool × List Char)}
    (written : WritesExponent text exponent) (ends : EndsNumber rest) :
    ∀ c ∈ (text ++ rest).head?, c.isDigit = false ∧ c ≠ '.' := by
  cases written with
  | absent => exact fun c found => ⟨(ends c found).1, (ends c found).2.1⟩
  | present mark sign isDigits =>
    intro c found
    obtain rfl := Option.some.inj found
    rcases mark with rfl | rfl <;> decide

theorem WritesFraction.takeFraction {fraction : Option (List Char)}
    (written : WritesFraction text fraction)
    (boundary : ∀ c ∈ rest.head?, c.isDigit = false ∧ c ≠ '.') :
    Numeral.takeFraction (text ++ rest) = (fraction, rest) := by
  cases written with
  | absent =>
    cases rest with
    | nil => rfl
    | cons c tail =>
      obtain ⟨_, notPoint⟩ := boundary c rfl
      simp [Numeral.takeFraction, notPoint]
  | present isDigits =>
    obtain ⟨taken, dropped⟩ := takeWhile_isDigit isDigits fun c found => (boundary c found).1
    rw [List.cons_append, Numeral.takeFraction, taken, dropped]

theorem WritesFraction.ne_some_nil {fraction : Option (List Char)}
    (written : WritesFraction text fraction) : fraction ≠ some [] := by
  cases written with
  | absent => exact Option.some_ne_none [] |>.symm
  | present isDigits => exact fun empty => isDigits.ne_nil (Option.some.inj empty)

theorem WritesFraction.boundary {fraction : Option (List Char)}
    (written : WritesFraction text fraction)
    (boundary : ∀ c ∈ rest.head?, c.isDigit = false ∧ c ≠ '.') :
    ∀ c ∈ (text ++ rest).head?, c.isDigit = false := by
  cases written with
  | absent => exact fun c found => (boundary c found).1
  | present _ =>
    intro c found
    obtain rfl := Option.some.inj found
    decide

theorem WritesNumber.takeNumeral {limit : Nat} {numeral : Numeral}
    (written : WritesNumber limit text numeral) (ends : EndsNumber rest) :
    takeNumeral (text ++ rest) = (numeral, rest) := by
  cases written with
  | @parts sign whole behindPoint behindMark fraction exponent signs isWhole _ point mark =>
    have markEnds := mark.boundary ends
    obtain ⟨taken, dropped⟩ := takeWhile_isDigit isWhole.toIsDigits (point.boundary markEnds)
    have signed : sign ∈ [none, some '+', some '-'] := by
      simp only [List.mem_cons, List.not_mem_nil, or_false] at signs ⊢
      exact signs.imp_right .inr
    have split : sign.toList ++ (whole ++ (behindPoint ++ behindMark)) ++ rest =
        sign.toList ++ (whole ++ (behindPoint ++ (behindMark ++ rest))) := by
      simp only [List.append_assoc]
    rw [split, Json.takeNumeral, takeSign_append signed isWhole.toIsDigits]
    simp only [taken, dropped, point.takeFraction markEnds]
    split
    · rename_i empty
      exact absurd (congrArg Prod.fst empty) point.ne_some_nil
    · simp only [mark.takeExponent ends]

theorem WritesNumber.isNumber {limit : Nat} {numeral : Numeral}
    (written : WritesNumber limit text numeral) : isNumber numeral = true := by
  cases written with
  | @parts sign whole _ _ _ _ signs isWhole _ _ _ =>
    have unplussed : (sign != some '+') = true := by
      simp only [List.mem_cons, List.not_mem_nil, or_false] at signs
      rcases signs with rfl | rfl <;> rfl
    rw [Json.isNumber, unplussed, Bool.true_and]
    cases whole with
    | nil => exact absurd rfl isWhole.ne_nil
    | cons first others =>
      cases others with
      | nil => rfl
      | cons second tail =>
        have nonzero : first ≠ '0' := by
          rintro rfl
          cases isWhole.short rfl
        exact bne_iff_ne.mpr nonzero

/-- A dialect allows a value that is written within some limit: the limit is no wider than that of
the dialect, or the numbers of the value keep the bounds of the dialect. -/
def Allows (dialect : Dialect) (limit : Nat) (value : Json) : Prop :=
  limit ≤ dialect.digits ∨ 0 < dialect.digits ∧
    Holds (·.natAbs < 10 ^ dialect.digits) (dialect.boundsReals = false) (fun _ => True) value

theorem Allows.of_mem_list {limit : Nat} {items : List Json}
    (allowed : Allows dialect limit (.list items)) : ∀ item ∈ items, Allows dialect limit item := by
  intro item member
  refine allowed.imp_right fun ⟨positive, holds⟩ => ⟨positive, ?_⟩
  cases holds with
  | list parts => exact parts item member

theorem Allows.of_mem_object {limit : Nat} {fields : List (LooseText × Json)}
    (allowed : Allows dialect limit (.object fields)) :
    ∀ field ∈ fields, Allows dialect limit field.2 := by
  intro field member
  refine allowed.imp_right fun ⟨positive, holds⟩ => ⟨positive, ?_⟩
  cases holds with
  | object _ parts => exact parts field member

/-- A number that keeps the bounds of a dialect is not too long for it. -/
theorem WritesNumber.fits {limit : Nat} {numeral : Numeral}
    (written : WritesNumber limit text numeral)
    (allowed : Allows dialect limit (ofNumeral numeral)) :
    ¬(dialect.digits < numeral.whole.length ∧
      (numeral.isInteger = true ∨ dialect.boundsReals = true)) := by
  rintro ⟨long, bounded⟩
  cases written with
  | @parts sign whole _ _ fraction exponent _ isWhole fits _ _ =>
    rcases allowed with wide | ⟨positive, holds⟩
    · exact absurd long (Nat.not_lt.mpr (Nat.le_trans fits wide))
    · by_cases integral : Numeral.isInteger ⟨sign, whole, fraction, exponent⟩ = true
      · rw [ofNumeral, if_pos integral] at holds
        cases holds with
        | integer small =>
          have large : ¬digitsValue whole < 10 ^ dialect.digits :=
            mt (isWhole.digitsValue_lt_pow_iff positive).mp (Nat.not_le.mpr long)
          rw [Numeral.toInt] at small
          dsimp only at small
          split at small
          · omega
          · omega
      · rw [ofNumeral, if_neg integral] at holds
        cases holds with
        | real unbounded =>
          rcases bounded with whole | bounds
          · exact integral whole
          · rw [bounds] at unbounded
            cases unbounded

theorem WritesNumber.readNumber {limit : Nat} {numeral : Numeral}
    (written : WritesNumber limit text numeral)
    (allowed : Allows dialect limit (ofNumeral numeral)) (ends : EndsNumber rest) :
    readNumber dialect (text ++ rest) = .ok (ofNumeral numeral, rest) := by
  rw [Json.readNumber, written.takeNumeral ends]
  simp only [written.isNumber, Bool.not_true, if_neg (written.fits allowed)]
  rfl

/-- The text of a number starts with a digit, or with a minus sign and a digit. -/
theorem WritesNumber.exists_cons {limit : Nat} {numeral : Numeral}
    (written : WritesNumber limit text numeral) :
    ∃ first tail, first.isDigit = true ∧ (text = first :: tail ∨ text = '-' :: first :: tail) := by
  cases written with
  | @parts sign whole behindPoint behindMark _ _ signs isWhole _ _ _ =>
    obtain ⟨first, others, rfl⟩ := List.exists_cons_of_ne_nil isWhole.ne_nil
    refine ⟨first, others ++ (behindPoint ++ behindMark),
      isWhole.inside first List.mem_cons_self, ?_⟩
    simp only [List.mem_cons, List.not_mem_nil, or_false] at signs
    rcases signs with rfl | rfl
    · exact .inl rfl
    · exact .inr rfl

theorem ne_of_isDigit {mark c : Char} (digit : c.isDigit = true) (other : mark.isDigit = false) :
    mark ≠ c := by
  rintro rfl
  rw [digit] at other
  cases other

theorem WritesNumber.readAtom {limit : Nat} {numeral : Numeral}
    (written : WritesNumber limit text numeral) :
    readAtom dialect (text ++ rest) = Json.readNumber dialect (text ++ rest) := by
  have unnamed : (names.findSome? fun entry =>
      (Text.stripOpening? entry.1 (text ++ rest)).map fun rest => (entry.2, rest)) = none := by
    obtain ⟨first, tail, digit, starts⟩ := written.exists_cons
    have different {mark : Char} : mark.isDigit = false → mark ≠ first := ne_of_isDigit digit
    rcases starts with rfl | rfl
    · simp [names, Text.stripOpening?, different]
    · simp [names, Text.stripOpening?, different]
  rw [Json.readAtom, unnamed]

/-!
## The parts of a value
-/

/-- The characters with which the text of a value may start. -/
def isOpening (c : Char) : Bool :=
  c ∈ ['n', 't', 'f', '"', '[', '{', '-'] || c.isDigit

def Opens (text : List Char) : Prop :=
  ∃ first tail, text = first :: tail ∧ isOpening first = true

theorem isLayout_of_isOpening {c : Char} (opening : isOpening c = true) :
    Json.isLayout c = false ∧ c ≠ ']' ∧ c ≠ '}' := by
  rw [isOpening, Bool.or_eq_true, decide_eq_true_eq] at opening
  rcases opening with known | digit
  · have all : ∀ mark ∈ ['n', 't', 'f', '"', '[', '{', '-'],
        Json.isLayout mark = false ∧ mark ≠ ']' ∧ mark ≠ '}' := by simp [Json.isLayout]
    exact all c known
  · have different {mark : Char} : mark.isDigit = false → c ≠ mark := fun other =>
      Ne.symm (ne_of_isDigit digit other)
    simp [Json.isLayout, different]

theorem Opens.skipLayout (opens : Opens text) (isLayout : IsLayout layout) (rest : List Char) :
    Json.skipLayout (layout ++ (text ++ rest)) = text ++ rest := by
  obtain ⟨first, tail, rfl, opening⟩ := opens
  exact skipLayout_append_cons isLayout (isLayout_of_isOpening opening).1

theorem Opens.length_pos (opens : Opens text) : 0 < text.length := by
  obtain ⟨first, tail, rfl, _⟩ := opens
  exact Nat.succ_pos _

theorem Writes.opens {limit : Nat} {value : Json} (written : Writes limit text value) :
    Opens text := by
  cases written with
  | word known =>
    have all : ∀ entry ∈ words, Opens entry.1 := by
      simp [words, Opens, isOpening]
    exact all _ known
  | string | emptyList | list | emptyObject | object => exact ⟨_, _, rfl, by decide⟩
  | number written =>
    obtain ⟨first, tail, digit, rfl | rfl⟩ := written.exists_cons
    · exact ⟨first, tail, rfl, by simp [isOpening, digit]⟩
    · exact ⟨'-', first :: tail, rfl, by decide⟩

theorem WritesItems.opens {limit : Nat} {items : List Json}
    (written : WritesItems limit text items) : Opens text := by
  cases written with
  | last first | more first =>
    obtain ⟨c, tail, rfl, opening⟩ := first.opens
    exact ⟨c, _, rfl, opening⟩

theorem WritesFields.opens {limit : Nat} {fields : List (LooseText × Json)}
    (written : WritesFields limit text fields) : Opens text := by
  cases written with
  | last first | more first =>
    obtain ⟨⟩ := first
    exact ⟨'"', _, rfl, by decide⟩

theorem endsNumber_of_layout (isLayout : IsLayout layout) (ends : EndsNumber rest) :
    EndsNumber (layout ++ rest) := by
  cases layout with
  | nil => exact ends
  | cons c others =>
    intro d found
    obtain rfl := Option.some.inj found
    have blank := isLayout c List.mem_cons_self
    simp only [Json.isLayout, Bool.or_eq_true, beq_iff_eq] at blank
    rcases blank with ((rfl | rfl) | rfl) | rfl <;> decide

/-- Layout and a mark end a number. -/
theorem endsNumber_of_mark {mark : Char} (known : mark ∈ [',', ']', '}'])
    (isLayout : IsLayout layout) : EndsNumber (layout ++ mark :: rest) := by
  refine endsNumber_of_layout isLayout fun c found => ?_
  obtain rfl := Option.some.inj found
  have all : ∀ mark ∈ [',', ']', '}'],
      mark.isDigit = false ∧ mark ≠ '.' ∧ mark ≠ 'e' ∧ mark ≠ 'E' := by simp
  exact all _ known

theorem endsNumber_layout (isLayout : IsLayout layout) : EndsNumber layout := by
  rw [← List.append_nil layout]
  exact endsNumber_of_layout isLayout fun c found => nomatch found

/-!
## Steps of the reader
-/

section Steps

variable {fuel depth : Nat}

theorem readValue_eq_readAtom {first : Char} (plain : first ∉ ['"', '[', '{']) :
    readValue dialect (fuel + 1) depth (first :: text) = readAtom dialect (first :: text) := by
  simp only [List.mem_cons, List.not_mem_nil, or_false, not_or] at plain
  rw [readValue]
  · intro rest same
    exact plain.1 (List.cons.inj same).1
  · intro rest same
    exact plain.2.1 (List.cons.inj same).1
  · intro rest same
    exact plain.2.2 (List.cons.inj same).1

theorem readValue_word {value : Json} (known : (text, value) ∈ words) :
    readValue dialect (fuel + 1) depth (text ++ rest) = .ok (value, rest) := by
  have all : ∀ entry ∈ words, ∃ first tail, entry.1 = first :: tail ∧ first ∉ ['"', '[', '{'] ∧
      readAtom dialect (entry.1 ++ rest) = .ok (entry.2, rest) := by
    simp [words, Json.readAtom, names, Text.stripOpening?]
  obtain ⟨first, tail, starts, plain, read⟩ := all _ known
  obtain rfl : text = first :: tail := starts
  rw [List.cons_append, readValue_eq_readAtom plain, ← List.cons_append, read]

theorem WritesNumber.readValue {limit : Nat} {numeral : Numeral}
    (written : WritesNumber limit text numeral) :
    readValue dialect (fuel + 1) depth (text ++ rest) =
      Json.readNumber dialect (text ++ rest) := by
  rw [← written.readAtom]
  obtain ⟨first, tail, digit, starts⟩ := written.exists_cons
  have different {mark : Char} : mark.isDigit = false → first ≠ mark := fun other =>
    Ne.symm (ne_of_isDigit digit other)
  rcases starts with rfl | rfl
  · have plain : first ∉ ['"', '[', '{'] := by simp [different]
    rw [List.cons_append, readValue_eq_readAtom plain]
  · rw [List.cons_append, readValue_eq_readAtom (by decide)]

theorem WritesString.readValue {body : List Char} (written : WritesString text body) :
    readValue dialect (fuel + 1) depth ('"' :: text ++ rest) =
      .ok (.string (.text (.ofList body)), rest) := by
  rw [List.cons_append, Json.readValue, written.readQuoted rest]
  rfl

theorem isTooDeep_closed {closing : Char} (isLayout : IsLayout layout)
    (mark : Json.isLayout closing = false) :
    isTooDeep dialect depth closing (layout ++ closing :: rest) =
      decide (depth < dialect.countsEmpty.toNat) := by
  rw [isTooDeep, skipLayout_append_cons isLayout mark]
  cases dialect.countsEmpty with
  | false => simp
  | true => cases depth <;> simp

theorem Opens.isTooDeep {closing : Char} (opens : Opens text) (isLayout : IsLayout layout)
    (mark : closing = ']' ∨ closing = '}') :
    isTooDeep dialect depth closing (layout ++ (text ++ rest)) = (depth == 0) := by
  rw [Json.isTooDeep, opens.skipLayout isLayout]
  obtain ⟨first, tail, rfl, opening⟩ := opens
  obtain ⟨_, notBracket, notBrace⟩ := isLayout_of_isOpening opening
  rcases mark with rfl | rfl
  · simp [notBracket]
  · simp [notBrace]

theorem readValue_emptyList (isLayout : IsLayout layout) :
    readValue dialect (fuel + 1) depth ('[' :: (layout ++ [']']) ++ rest) =
      if depth < dialect.countsEmpty.toNat then .error (.overnested true)
      else .ok (.list [], rest) := by
  rw [List.cons_append, List.append_assoc, List.singleton_append, readValue,
    isTooDeep_closed isLayout rfl, skipLayout_append_cons isLayout rfl]
  simp

theorem readValue_emptyObject (isLayout : IsLayout layout) :
    readValue dialect (fuel + 1) depth ('{' :: (layout ++ ['}']) ++ rest) =
      if depth < dialect.countsEmpty.toNat then .error (.overnested false)
      else .ok (.object [], rest) := by
  rw [List.cons_append, List.append_assoc, List.singleton_append, readValue,
    isTooDeep_closed isLayout rfl, skipLayout_append_cons isLayout rfl]
  simp

theorem readValue_list (opens : Opens text) (isLayout : IsLayout layout) :
    readValue dialect (fuel + 1) depth ('[' :: (layout ++ text) ++ rest) =
      if depth = 0 then .error (.overnested true)
      else (readItems dialect fuel (depth - 1) (text ++ rest)).map fun found =>
        (.list found.1, found.2) := by
  rw [List.cons_append, List.append_assoc, readValue, opens.isTooDeep isLayout (.inl rfl),
    opens.skipLayout isLayout]
  obtain ⟨first, tail, rfl, opening⟩ := opens
  simp [(isLayout_of_isOpening opening).2.1]

theorem readValue_object (opens : Opens text) (isLayout : IsLayout layout) :
    readValue dialect (fuel + 1) depth ('{' :: (layout ++ text) ++ rest) =
      if depth = 0 then .error (.overnested false)
      else (readFields dialect fuel (depth - 1) (text ++ rest)).map fun found =>
        (.object found.1, found.2) := by
  rw [List.cons_append, List.append_assoc, readValue, opens.isTooDeep isLayout (.inr rfl),
    opens.skipLayout isLayout]
  obtain ⟨first, tail, rfl, opening⟩ := opens
  simp [(isLayout_of_isOpening opening).2.2]

theorem readItems_last {item : Json} (isLayout : IsLayout layout)
    (first : readValue dialect fuel depth (text ++ (layout ++ ']' :: rest)) =
      .ok (item, layout ++ ']' :: rest)) :
    readItems dialect (fuel + 1) depth (text ++ (layout ++ [']']) ++ rest) =
      .ok ([item], rest) := by
  have skipped : skipLayout (layout ++ ']' :: rest) = ']' :: rest :=
    skipLayout_append_cons isLayout rfl
  rw [List.append_assoc, List.append_assoc, List.singleton_append, readItems, first]
  simp only [skipped]

theorem readItems_more {item : Json} {before others : List Char} (opens : Opens others)
    (isLayout : IsLayout layout) (isLayoutBefore : IsLayout before)
    (first : readValue dialect fuel depth
        (text ++ (layout ++ ',' :: (before ++ (others ++ rest)))) =
      .ok (item, layout ++ ',' :: (before ++ (others ++ rest)))) :
    readItems dialect (fuel + 1) depth (text ++ (layout ++ ',' :: (before ++ others)) ++ rest) =
      (readItems dialect fuel depth (others ++ rest)).map fun found =>
        (item :: found.1, found.2) := by
  have skipped : skipLayout (layout ++ ',' :: (before ++ (others ++ rest))) =
      ',' :: (before ++ (others ++ rest)) := skipLayout_append_cons isLayout rfl
  rw [List.append_assoc, List.append_assoc, List.cons_append, List.append_assoc, readItems, first]
  simp only [skipped, opens.skipLayout isLayoutBefore]

/-- How the fields of an object go on behind one of them. -/
def fieldsBehind (dialect : Dialect) (fuel depth : Nat) (field : LooseText × Json)
    (rest : List Char) : Except ReadFault (List (LooseText × Json) × List Char) :=
  match skipLayout rest with
  | '}' :: behind => .ok ([field], behind)
  | ',' :: behind =>
    (readFields dialect fuel depth (skipLayout behind)).map fun found =>
      (field :: found.1, found.2)
  | _ => .error .notJson

theorem fieldsBehind_last {field : LooseText × Json} (isLayout : IsLayout layout) :
    fieldsBehind dialect fuel depth field (layout ++ '}' :: rest) = .ok ([field], rest) := by
  have skipped : skipLayout (layout ++ '}' :: rest) = '}' :: rest :=
    skipLayout_append_cons isLayout rfl
  simp only [fieldsBehind, skipped]

theorem fieldsBehind_more {field : LooseText × Json} {before others : List Char}
    (opens : Opens others) (isLayout : IsLayout layout) (isLayoutBefore : IsLayout before) :
    fieldsBehind dialect fuel depth field (layout ++ ',' :: (before ++ (others ++ rest))) =
      (readFields dialect fuel depth (others ++ rest)).map fun found =>
        (field :: found.1, found.2) := by
  have skipped : skipLayout (layout ++ ',' :: (before ++ (others ++ rest))) =
      ',' :: (before ++ (others ++ rest)) := skipLayout_append_cons isLayout rfl
  simp only [fieldsBehind, skipped, opens.skipLayout isLayoutBefore]

theorem readFields_field {name body before : List Char} (key : WritesString name body)
    (opens : Opens text) (isLayout : IsLayout layout) (isLayoutBefore : IsLayout before) :
    readFields dialect (fuel + 1) depth
        ('"' :: (name ++ (layout ++ ':' :: (before ++ text))) ++ rest) =
      (readValue dialect fuel depth (text ++ rest)).bind fun found =>
        fieldsBehind dialect fuel depth (.text (.ofList body), found.1) found.2 := by
  have skipped : skipLayout (layout ++ ':' :: (before ++ (text ++ rest))) =
      ':' :: (before ++ (text ++ rest)) := skipLayout_append_cons isLayout rfl
  rw [List.cons_append, List.append_assoc, List.append_assoc, List.cons_append,
    List.append_assoc, readFields, key.readQuoted]
  simp only [skipped, opens.skipLayout isLayoutBefore]
  cases readValue dialect fuel depth (text ++ rest) with
  | error fault => rfl
  | ok found => rfl

end Steps

/-!
## Texts within the bounds
-/

section Values

variable {limit : Nat}

theorem WritesItems.nesting_list {items : List Json} (written : WritesItems limit text items) :
    nesting (.list items) = nestingOfItems items + 1 := by
  cases written <;> rfl

theorem WritesFields.nesting_object {fields : List (LooseText × Json)}
    (written : WritesFields limit text fields) :
    nesting (.object fields) = nestingOfFields fields + 1 := by
  cases written <;> rfl

mutual

/-- A text of the grammar is read as its value, and what follows it is left. -/
theorem Writes.readValue {text rest : List Char} {value : Json} (written : Writes limit text value)
    (allowed : Allows dialect limit value) (ends : EndsNumber rest) {fuel depth : Nat}
    (enough : 2 * text.length ≤ fuel)
    (deep : value.nesting + dialect.countsEmpty.toNat ≤ depth) :
    readValue dialect fuel depth (text ++ rest) = .ok (value, rest) := by
  obtain ⟨fuel, rfl⟩ : ∃ left, fuel = left + 1 := by
    have positive := written.opens.length_pos
    exact ⟨fuel - 1, by omega⟩
  cases written with
  | word known => exact readValue_word known
  | number written => rw [written.readValue, written.readNumber allowed ends]
  | string written => exact written.readValue
  | emptyList isLayout =>
    have counted : dialect.countsEmpty.toNat ≤ depth := by simpa [nesting] using deep
    rw [readValue_emptyList isLayout, if_neg (Nat.not_lt.mpr counted)]
  | @list layout text items isLayout written =>
    rw [List.length_cons, List.length_append] at enough
    rw [written.nesting_list] at deep
    have read := written.readItems allowed.of_mem_list rest (show 2 * text.length ≤ fuel by omega)
      (show nestingOfItems items + dialect.countsEmpty.toNat ≤ depth - 1 by omega)
    rw [readValue_list written.opens isLayout, if_neg (by omega), read]
    rfl
  | emptyObject isLayout =>
    have counted : dialect.countsEmpty.toNat ≤ depth := by simpa [nesting] using deep
    rw [readValue_emptyObject isLayout, if_neg (Nat.not_lt.mpr counted)]
  | @object layout text fields isLayout written =>
    rw [List.length_cons, List.length_append] at enough
    rw [written.nesting_object] at deep
    have read := written.readFields allowed.of_mem_object rest
      (show 2 * text.length ≤ fuel by omega)
      (show nestingOfFields fields + dialect.countsEmpty.toNat ≤ depth - 1 by omega)
    rw [readValue_object written.opens isLayout, if_neg (by omega), read]
    rfl

theorem WritesItems.readItems {text : List Char} {items : List Json}
    (written : WritesItems limit text items) (allowed : ∀ item ∈ items, Allows dialect limit item)
    (rest : List Char) {fuel depth : Nat} (enough : 2 * text.length ≤ fuel)
    (deep : nestingOfItems items + dialect.countsEmpty.toNat ≤ depth) :
    readItems dialect fuel depth (text ++ rest) = .ok (items, rest) := by
  cases written with
  | @last text after item first isLayout =>
    simp only [List.length_append, List.length_cons, List.length_nil] at enough
    simp only [nestingOfItems, Nat.max_zero] at deep
    obtain ⟨fuel, rfl⟩ : ∃ left, fuel = left + 1 := ⟨fuel - 1, by omega⟩
    exact readItems_last isLayout (first.readValue (allowed _ List.mem_cons_self)
      (endsNumber_of_mark (by decide) isLayout) (by omega) deep)
  | @more text after before others item items first isLayout isLayoutBefore written =>
    simp only [List.length_append, List.length_cons] at enough
    simp only [nestingOfItems] at deep
    obtain ⟨fuel, rfl⟩ : ∃ left, fuel = left + 1 := ⟨fuel - 1, by omega⟩
    have ends : EndsNumber (after ++ ',' :: (before ++ (others ++ rest))) :=
      endsNumber_of_mark (by decide) isLayout
    have read := first.readValue (allowed _ List.mem_cons_self) ends
      (show 2 * text.length ≤ fuel by omega)
      (show item.nesting + dialect.countsEmpty.toNat ≤ depth by omega)
    have readOthers := written.readItems
      (fun other member => allowed other (List.mem_cons_of_mem item member)) rest
      (show 2 * others.length ≤ fuel by omega)
      (show nestingOfItems items + dialect.countsEmpty.toNat ≤ depth by omega)
    rw [readItems_more written.opens isLayout isLayoutBefore read, readOthers]
    rfl

theorem WritesField.readFields {text rest : List Char} {field : LooseText × Json}
    (written : WritesField limit text field) (allowed : Allows dialect limit field.2)
    (ends : EndsNumber rest) {fuel depth : Nat} (enough : 2 * text.length ≤ fuel + 1)
    (deep : field.2.nesting + dialect.countsEmpty.toNat ≤ depth) :
    readFields dialect (fuel + 1) depth (text ++ rest) =
      fieldsBehind dialect fuel depth field rest := by
  cases written with
  | @field name after before text body value key isLayout isLayoutBefore written =>
    simp only [List.length_append, List.length_cons] at enough
    have read := written.readValue allowed ends (show 2 * text.length ≤ fuel by omega) deep
    rw [readFields_field key written.opens isLayout isLayoutBefore, read]
    rfl

theorem WritesFields.readFields {text : List Char} {fields : List (LooseText × Json)}
    (written : WritesFields limit text fields)
    (allowed : ∀ field ∈ fields, Allows dialect limit field.2) (rest : List Char)
    {fuel depth : Nat} (enough : 2 * text.length ≤ fuel)
    (deep : nestingOfFields fields + dialect.countsEmpty.toNat ≤ depth) :
    readFields dialect fuel depth (text ++ rest) = .ok (fields, rest) := by
  cases written with
  | @last text after field first isLayout =>
    simp only [List.length_append, List.length_cons, List.length_nil] at enough
    simp only [nestingOfFields, Nat.max_zero] at deep
    obtain ⟨fuel, rfl⟩ : ∃ left, fuel = left + 1 := ⟨fuel - 1, by omega⟩
    rw [List.append_assoc, List.append_assoc, List.singleton_append,
      first.readFields (allowed _ List.mem_cons_self) (endsNumber_of_mark (by decide) isLayout)
        (by omega) deep,
      fieldsBehind_last isLayout]
  | @more text after before others field fields first isLayout isLayoutBefore written =>
    simp only [List.length_append, List.length_cons] at enough
    simp only [nestingOfFields] at deep
    obtain ⟨fuel, rfl⟩ : ∃ left, fuel = left + 1 := ⟨fuel - 1, by omega⟩
    have readOthers := written.readFields
      (fun other member => allowed other (List.mem_cons_of_mem field member)) rest
      (show 2 * others.length ≤ fuel by omega)
      (show nestingOfFields fields + dialect.countsEmpty.toNat ≤ depth by omega)
    rw [List.append_assoc, List.append_assoc, List.cons_append, List.append_assoc,
      first.readFields (allowed _ List.mem_cons_self) (endsNumber_of_mark (by decide) isLayout)
        (by omega) (by omega),
      fieldsBehind_more written.opens isLayout isLayoutBefore, readOthers]
    rfl

end

end Values

/-- A document of the grammar is read by every dialect whose bounds it keeps. -/
theorem IsDocument.readText {limit : Nat} {value : Json} (written : IsDocument limit text value)
    (allowed : Allows dialect limit value)
    (deep : value.nesting + dialect.countsEmpty.toNat ≤ dialect.depth) :
    readText dialect text = .ok value := by
  cases written with
  | @around before text after _ isLayout written isLayoutAfter =>
    have enough : 2 * text.length ≤ 2 * ((before ++ (text ++ after)).length + 1) := by
      rw [List.length_append, List.length_append]
      omega
    have read := written.readValue allowed (endsNumber_layout isLayoutAfter) enough deep
    rw [Json.readText, written.opens.skipLayout isLayout, read]
    simp only [skipLayout_eq_nil isLayoutAfter, if_pos]

/-!
## Decoding
-/

mutual

/-- A value in which no key is repeated is left as it is when it is settled. -/
theorem HasDistinctKeys.settle : ∀ {value : Json}, HasDistinctKeys value → settle value = value
  | .null, _ => by rw [Json.settle]
  | .bool _, _ => by rw [Json.settle]
  | .integer _, _ => by rw [Json.settle]
  | .real _, _ => by rw [Json.settle]
  | .string _, _ => by rw [Json.settle]
  | .list items, .list distinct => by
    rw [Json.settle, settleItems_eq_self distinct]
  | .object fields, .object keys distinct => by
    rw [Json.settle, settleFields, settleValues_eq_self distinct,
      OrderedMap.toList_ofList_of_nodup keys]

theorem settleItems_eq_self : ∀ {items : List Json}, (∀ item ∈ items, HasDistinctKeys item) →
    settleItems items = items
  | [], _ => by rw [settleItems]
  | item :: rest, distinct => by
    rw [settleItems, (distinct item List.mem_cons_self).settle,
      settleItems_eq_self fun other member => distinct other (List.mem_cons_of_mem item member)]

theorem settleValues_eq_self : ∀ {fields : List (LooseText × Json)},
    (∀ field ∈ fields, HasDistinctKeys field.2) → settleValues fields = fields
  | [], _ => by rw [settleValues]
  | (key, value) :: rest, distinct => by
    rw [settleValues, (distinct (key, value) List.mem_cons_self).settle,
      settleValues_eq_self fun other member => distinct other (List.mem_cons_of_mem _ member)]

end

theorem IsPlain.allows_document {limit depth : Nat} {value : Json}
    (plain : IsPlain digitLimit value) : Allows (document depth) limit value := by
  have same : (document depth).digits = digitLimit := rfl
  rw [Allows, same]
  exact .inr ⟨by decide, plain.mono (fun _ small => small) (fun none => none.elim)
    fun _ _ => trivial⟩

/-- Decoding bounds whole numbers and no others. -/
theorem IsBounded.allows_decoding {limit : Nat} {value : Json}
    (bounded : IsBounded digitLimit value) : Allows decoding limit value := by
  have same : decoding.digits = digitLimit := rfl
  rw [Allows, same]
  exact .inr ⟨by decide, bounded.mono (fun _ small => small) (fun _ => rfl) fun _ _ => trivial⟩

/-- A document without repeated keys is decoded as its value. -/
theorem IsDocument.decode {limit : Nat} {text : String} {value : Json}
    (written : IsDocument limit text.toList value) (allowed : Allows decoding limit value)
    (distinct : HasDistinctKeys value) (shallow : value.nesting < decodingDepth) :
    decode text = .ok value := by
  have deep : value.nesting + decoding.countsEmpty.toNat ≤ decoding.depth := shallow
  rw [Json.decode, written.readText allowed deep]
  exact congrArg Except.ok distinct.settle

mutual

/-- No value repeats a key once it is settled. -/
theorem hasDistinctKeys_settle : ∀ value : Json, HasDistinctKeys (settle value)
  | .null => by
    rw [settle]
    exact .null
  | .bool value => by
    rw [settle]
    exact .bool value
  | .integer value => by
    rw [settle]
    exact .integer value
  | .real value => by
    rw [settle]
    exact .real value
  | .string value => by
    rw [settle]
    exact .string value
  | .list items => by
    rw [settle]
    exact .list (hasDistinctKeys_settleItems items)
  | .object fields => by
    rw [settle]
    refine .object (settleFields fields).keys_nodup fun field member => ?_
    rw [settleFields] at member
    exact hasDistinctKeys_settleValues fields field (OrderedMap.mem_of_mem_ofList member)

theorem hasDistinctKeys_settleItems : ∀ items : List Json,
    ∀ item ∈ settleItems items, HasDistinctKeys item
  | [], _, member => by
    rw [settleItems] at member
    cases member
  | first :: rest, item, member => by
    rw [settleItems] at member
    rcases List.mem_cons.mp member with rfl | later
    · exact hasDistinctKeys_settle first
    · exact hasDistinctKeys_settleItems rest item later

theorem hasDistinctKeys_settleValues : ∀ fields : List (LooseText × Json),
    ∀ field ∈ settleValues fields, HasDistinctKeys field.2
  | [], _, member => by
    rw [settleValues] at member
    cases member
  | (key, value) :: rest, field, member => by
    rw [settleValues] at member
    rcases List.mem_cons.mp member with rfl | later
    · exact hasDistinctKeys_settle value
    · exact hasDistinctKeys_settleValues rest field later

end

end SpecLexicon.Json
