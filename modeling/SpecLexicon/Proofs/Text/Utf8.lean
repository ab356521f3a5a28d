import SpecLexicon.Text.Utf8

/-!
# Decoding what was encoded

The bytes of a text are decoded as that text. A character is put together again from the bits that
its bytes hold, and none of its forms is one of those that the decoder refuses.
-/

set_option autoImplicit false

namespace SpecLexicon.Text.Utf8

/-!
## The bytes of a text
-/

theorem toList_loop (bytes : ByteArray) (index : Nat) (read : List UInt8) :
    ByteArray.toList.loop bytes index read = read.reverse ++ bytes.data.toList.drop index := by
  fun_induction ByteArray.toList.loop bytes index read with
  | case1 index read inside ih =>
    have bound : index < bytes.data.toList.length := by simpa using inside
    have byte : bytes.get! index = bytes.data.toList[index] := by
      simp only [ByteArray.get!, Array.getElem_toList]
      exact getElem!_pos bytes.data index (by simpa using inside)
    rw [ih, List.drop_eq_getElem_cons bound, byte]
    simp
  | case2 index read outside =>
    have beyond : bytes.data.toList.length ≤ index := by simpa using outside
    simp [List.drop_eq_nil_of_le beyond]

theorem toList_toUTF8 (text : String) :
    text.toUTF8.toList = text.toList.flatMap String.utf8EncodeChar := by
  have encoded : text.toUTF8 = (text.toList.flatMap String.utf8EncodeChar).toByteArray := by
    conv => lhs; rw [← String.ofList_toList (s := text)]
    rw [String.toUTF8_eq_toByteArray]
    rfl
  rw [ByteArray.toList, toList_loop, encoded, List.toList_data_toByteArray]
  rfl

/-!
## Decoding
-/

/-- The bytes of a character that is read already are passed over. -/
theorem decodeFrom_skipped (followers rest : List Nat) (position : Nat) :
    decodeFrom position followers.length (followers ++ rest) =
      decodeFrom (position + followers.length) 0 rest := by
  induction followers generalizing position with
  | nil => rfl
  | cons byte followers ih =>
    rw [List.length_cons, List.cons_append, decodeFrom, ih]
    congr 1
    omega

/-- One character is decoded from a leading byte and the bytes that follow it. -/
theorem decodeFrom_opened {byte code position : Nat} {followers rest : List Nat} {opened : Opened}
    (opens : openedBy? byte = some opened)
    (read : readFollowers opened.missing opened.least opened.greatest opened.bits 0
      (followers ++ rest) = .ok (code, followers.length)) :
    decodeFrom position 0 (byte :: (followers ++ rest)) =
      (decodeFrom (position + 1 + followers.length) 0 rest).map (Char.ofNat code :: ·) := by
  rw [decodeFrom, opens]
  simp only [read]
  rw [decodeFrom_skipped]

/-- The bytes of a character by its number. -/
def encoded (point : Nat) : List Nat :=
  if point ≤ 0x7F then [point]
  else if point ≤ 0x7FF then [point / 64 % 32 + 0xC0, point % 64 + 0x80]
  else if point ≤ 0xFFFF then
    [point / 4096 % 16 + 0xE0, point / 64 % 64 + 0x80, point % 64 + 0x80]
  else [point / 262144 % 8 + 0xF0, point / 4096 % 64 + 0x80, point / 64 % 64 + 0x80,
    point % 64 + 0x80]

theorem map_utf8EncodeChar (c : Char) :
    (String.utf8EncodeChar c).map UInt8.toNat = encoded c.toNat := by
  have whole : ∀ byte, byte < 256 → (UInt8.ofNat byte).toNat = byte := fun byte small =>
    UInt8.toNat_ofNat_of_lt small
  unfold String.utf8EncodeChar encoded
  simp only [Char.toNat]
  split
  · rw [List.map_singleton, whole _ (by omega)]
  · split
    · rw [List.map_cons, List.map_singleton, whole _ (by omega), whole _ (by omega)]
    · split
      · rw [List.map_cons, List.map_cons, List.map_singleton, whole _ (by omega),
          whole _ (by omega), whole _ (by omega)]
      · rw [List.map_cons, List.map_cons, List.map_cons, List.map_singleton, whole _ (by omega),
          whole _ (by omega), whole _ (by omega), whole _ (by omega)]

theorem readFollowers_cons {missing least greatest bits count byte : Nat} {rest : List Nat}
    (lower : least ≤ byte) (upper : byte ≤ greatest) :
    readFollowers (missing + 1) least greatest bits count (byte :: rest) =
      readFollowers missing 0x80 0xBF (bits * 64 + (byte - 0x80)) (count + 1) rest := by
  rw [readFollowers, if_pos ⟨lower, upper⟩]

/-- Each form of a character holds its number, and is the shortest one. -/
theorem decodeFrom_encoded {point : Nat}
    (valid : point < 0xD800 ∨ (0xDFFF < point ∧ point < 0x110000)) (rest : List Nat)
    (position : Nat) :
    ∃ next, decodeFrom position 0 (encoded point ++ rest) =
      (decodeFrom next 0 rest).map (Char.ofNat point :: ·) := by
  unfold encoded
  split
  · have opens : openedBy? point = some ⟨point, 0, 0x80, 0xBF⟩ := if_pos (by omega)
    exact ⟨_, decodeFrom_opened opens rfl⟩
  · split
    · rw [Nat.mod_eq_of_lt (show point / 64 < 32 by omega)]
      generalize first : point / 64 + 0xC0 = byte
      have opens : openedBy? byte = some ⟨byte - 0xC0, 1, 0x80, 0xBF⟩ := by
        rw [openedBy?, if_neg (by omega), if_neg (by omega), if_pos (by omega)]
      refine ⟨_, decodeFrom_opened opens ?_⟩
      dsimp only
      rw [List.cons_append, readFollowers_cons (by omega) (by omega), readFollowers]
      simp only [Except.ok.injEq, Prod.mk.injEq, List.length_cons, List.length_nil, and_true]
      omega
    · split
      · rw [Nat.mod_eq_of_lt (show point / 4096 < 16 by omega)]
        generalize first : point / 4096 + 0xE0 = byte
        have opens : openedBy? byte = some ⟨byte - 0xE0, 2, if byte = 0xE0 then 0xA0 else 0x80,
            if byte = 0xED then 0x9F else 0xBF⟩ := by
          rw [openedBy?, if_neg (by omega), if_neg (by omega), if_neg (by omega),
            if_pos (by omega)]
        refine ⟨_, decodeFrom_opened opens ?_⟩
        dsimp only
        rw [List.cons_append, List.cons_append,
          readFollowers_cons (by split <;> omega) (by split <;> omega),
          readFollowers_cons (by omega) (by omega), readFollowers]
        simp only [Except.ok.injEq, Prod.mk.injEq, List.length_cons, List.length_nil, and_true]
        omega
      · rw [Nat.mod_eq_of_lt (show point / 262144 < 8 by omega)]
        generalize first : point / 262144 + 0xF0 = byte
        have opens : openedBy? byte = some ⟨byte - 0xF0, 3, if byte = 0xF0 then 0x90 else 0x80,
            if byte = 0xF4 then 0x8F else 0xBF⟩ := by
          rw [openedBy?, if_neg (by omega), if_neg (by omega), if_neg (by omega),
            if_neg (by omega), if_pos (by omega)]
        refine ⟨_, decodeFrom_opened opens ?_⟩
        dsimp only
        rw [List.cons_append, List.cons_append, List.cons_append,
          readFollowers_cons (by split <;> omega) (by split <;> omega),
          readFollowers_cons (by omega) (by omega), readFollowers_cons (by omega) (by omega),
          readFollowers]
        simp only [Except.ok.injEq, Prod.mk.injEq, List.length_cons, List.length_nil, and_true]
        omega

theorem decodeFrom_flatMap (text : List Char) (position : Nat) :
    decodeFrom position 0 ((text.flatMap String.utf8EncodeChar).map UInt8.toNat) = .ok text := by
  induction text generalizing position with
  | nil => rfl
  | cons c rest ih =>
    have valid : c.toNat < 0xD800 ∨ (0xDFFF < c.toNat ∧ c.toNat < 0x110000) := c.valid
    obtain ⟨next, read⟩ := decodeFrom_encoded valid
      ((rest.flatMap String.utf8EncodeChar).map UInt8.toNat) position
    rw [List.flatMap_cons, List.map_append, map_utf8EncodeChar, read, ih, Char.ofNat_toNat]
    rfl

theorem decode_toUTF8 (text : String) : decode text.toUTF8 = .ok text.toList := by
  rw [decode, toList_toUTF8, decodeFrom_flatMap]

end SpecLexicon.Text.Utf8
