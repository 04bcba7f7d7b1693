import Mathlib
import SiteRouting.Text.Utf8

namespace SiteRouting.Text

section Bytes

variable {first second third fourth : UInt8} {high upper middle low fuel : Nat} {rest : List UInt8}

theorem utf8Tail_cons {count value least most : Nat} (above : least ≤ first.toNat)
    (below : first.toNat ≤ most) (isLow : first.toNat = 0x80 + low) (small : low < 64) :
    utf8Tail (count + 1) value least most (first :: rest) =
      utf8Tail count (64 * value + low) 0x80 0xBF rest := by
  have bits : first.toNat % 64 = low := by omega
  rw [utf8Tail, if_pos (by simp [above, below]), bits]

theorem utf8Chars_of_lead {lead : Utf8Lead} {bytes : List UInt8} {c : Char}
    (long : 0x80 ≤ first.toNat) (announces : utf8Lead? first.toNat = some lead)
    (read : utf8Tail lead.count lead.bits lead.low lead.high bytes = (some c, rest)) :
    utf8Chars (fuel + 1) (first :: bytes) = some c :: utf8Chars fuel rest := by
  rw [utf8Chars, if_neg (Nat.not_lt.mpr long), announces]
  simp only [read]

/-- The first of two bytes leaves out the values that one byte has room for. -/
theorem utf8Chars_two (isHigh : first.toNat = 0xC0 + high) (isLow : second.toNat = 0x80 + low)
    (least : 2 ≤ high) (most : high < 32) (small : low < 64) :
    utf8Chars (fuel + 1) (first :: second :: rest) =
      some (Char.ofNat (64 * high + low)) :: utf8Chars fuel rest := by
  have lead : utf8Lead? first.toNat = some ⟨1, high, 0x80, 0xBF⟩ := by
    rw [isHigh]
    interval_cases high <;> rfl
  have read : utf8Tail 1 high 0x80 0xBF (second :: rest) = (some (Char.ofNat (64 * high + low)), rest) := by
    rw [utf8Tail_cons (by omega) (by omega) isLow small, utf8Tail]
  exact utf8Chars_of_lead (by omega) lead read

/-- After the least of the first bytes the next one is bounded from below,
after the one of the surrogates from above. -/
theorem utf8Chars_three (isHigh : first.toNat = 0xE0 + high) (isMiddle : second.toNat = 0x80 + middle)
    (isLow : third.toNat = 0x80 + low) (most : high < 16) (small : middle < 64) (last : low < 64)
    (shortest : high = 0 → 32 ≤ middle) (plain : high = 0xD → middle < 32) :
    utf8Chars (fuel + 1) (first :: second :: third :: rest) =
      some (Char.ofNat (64 * (64 * high + middle) + low)) :: utf8Chars fuel rest := by
  have lead : utf8Lead? first.toNat = some
      ⟨2, high, if high = 0 then 0xA0 else 0x80, if high = 0xD then 0x9F else 0xBF⟩ := by
    rw [isHigh]
    interval_cases high <;> rfl
  have read : utf8Tail 2 high (if high = 0 then 0xA0 else 0x80) (if high = 0xD then 0x9F else 0xBF)
      (second :: third :: rest) = (some (Char.ofNat (64 * (64 * high + middle) + low)), rest) := by
    rw [utf8Tail_cons (by split <;> omega) (by split <;> omega) isMiddle small,
      utf8Tail_cons (by omega) (by omega) isLow last, utf8Tail]
  exact utf8Chars_of_lead (by omega) lead read

theorem utf8Chars_four (isHigh : first.toNat = 0xF0 + high) (isUpper : second.toNat = 0x80 + upper)
    (isMiddle : third.toNat = 0x80 + middle) (isLow : fourth.toNat = 0x80 + low) (most : high ≤ 4)
    (next : upper < 64) (small : middle < 64) (last : low < 64)
    (shortest : high = 0 → 16 ≤ upper) (inRange : high = 4 → upper < 16) :
    utf8Chars (fuel + 1) (first :: second :: third :: fourth :: rest) =
      some (Char.ofNat (64 * (64 * (64 * high + upper) + middle) + low)) :: utf8Chars fuel rest := by
  have lead : utf8Lead? first.toNat = some
      ⟨3, high, if high = 0 then 0x90 else 0x80, if high = 4 then 0x8F else 0xBF⟩ := by
    rw [isHigh]
    interval_cases high <;> rfl
  have read : utf8Tail 3 high (if high = 0 then 0x90 else 0x80) (if high = 4 then 0x8F else 0xBF)
      (second :: third :: fourth :: rest) =
        (some (Char.ofNat (64 * (64 * (64 * high + upper) + middle) + low)), rest) := by
    rw [utf8Tail_cons (by split <;> omega) (by split <;> omega) isUpper next,
      utf8Tail_cons (by omega) (by omega) isMiddle small,
      utf8Tail_cons (by omega) (by omega) isLow last, utf8Tail]
  exact utf8Chars_of_lead (by omega) lead read

end Bytes

/-- A character is read back from its encoding, and nothing behind it
is touched. -/
theorem utf8Chars_encodeChar (c : Char) (fuel : Nat) (rest : List UInt8) :
    utf8Chars (fuel + 1) (String.utf8EncodeChar c ++ rest) = some c :: utf8Chars fuel rest := by
  have char : Char.ofNat c.val.toNat = c := Char.ofNat_toNat c
  have valid : c.val.toNat < 0xD800 ∨ 0xDFFF < c.val.toNat ∧ c.val.toNat < 0x110000 := c.valid
  unfold String.utf8EncodeChar
  generalize c.val.toNat = v at char valid
  have byte {n m : Nat} (same : n = m) (small : n < 256) : (UInt8.ofNat n).toNat = m := by
    rw [UInt8.toNat_ofNat', Nat.mod_eq_of_lt small, same]
  have isLow : (UInt8.ofNat (v % 64 + 128)).toNat = 0x80 + v % 64 := byte (by omega) (by omega)
  have isMiddle : (UInt8.ofNat (v / 64 % 64 + 128)).toNat = 0x80 + v / 64 % 64 :=
    byte (by omega) (by omega)
  have isUpper : (UInt8.ofNat (v / 4096 % 64 + 128)).toNat = 0x80 + v / 4096 % 64 :=
    byte (by omega) (by omega)
  dsimp only
  -- One byte, two, three or four, as the value grows; surrogates would be the gap among the three.
  split
  · rw [List.singleton_append, utf8Chars, byte rfl (by omega), if_pos (by omega), char]
  split
  · have isHigh : (UInt8.ofNat (v / 64 % 32 + 192)).toNat = 0xC0 + v / 64 :=
      byte (by omega) (by omega)
    have value : 64 * (v / 64) + v % 64 = v := by omega
    rw [List.cons_append, List.singleton_append,
      utf8Chars_two isHigh isLow (by omega) (by omega) (by omega), value, char]
  split
  · have isHigh : (UInt8.ofNat (v / 4096 % 16 + 224)).toNat = 0xE0 + v / 4096 :=
      byte (by omega) (by omega)
    have value : 64 * (64 * (v / 4096) + v / 64 % 64) + v % 64 = v := by omega
    rw [List.cons_append, List.cons_append, List.singleton_append,
      utf8Chars_three isHigh isMiddle isLow (by omega) (by omega) (by omega) (by omega) (by omega),
      value, char]
  · have isHigh : (UInt8.ofNat (v / 262144 % 8 + 240)).toNat = 0xF0 + v / 262144 :=
      byte (by omega) (by omega)
    have value : 64 * (64 * (64 * (v / 262144) + v / 4096 % 64) + v / 64 % 64) + v % 64 = v := by
      omega
    rw [List.cons_append, List.cons_append, List.cons_append, List.singleton_append,
      utf8Chars_four isHigh isUpper isMiddle isLow (by omega) (by omega) (by omega) (by omega)
        (by omega) (by omega), value, char]

theorem utf8Chars_flatMap_encodeChar {fuel : Nat} {cs : List Char} (enough : cs.length ≤ fuel) :
    utf8Chars fuel (cs.flatMap String.utf8EncodeChar) = cs.map some := by
  induction cs generalizing fuel with
  | nil => cases fuel <;> rfl
  | cons c rest ih =>
    obtain ⟨fuel, rfl⟩ := Nat.exists_eq_add_of_le' (Nat.one_le_of_lt enough)
    rw [List.flatMap_cons, utf8Chars_encodeChar, ih (Nat.le_of_succ_le_succ enough), List.map_cons]

theorem toList_loop (bytes : ByteArray) (i : Nat) (read : List UInt8) :
    ByteArray.toList.loop bytes i read = read.reverse ++ bytes.data.toList.drop i := by
  fun_induction ByteArray.toList.loop bytes i read with
  | case1 i read inside ih =>
    have bound : i < bytes.data.toList.length := inside
    have next : bytes.get! i = bytes.data.toList[i] := getElem!_pos bytes.data i inside
    rw [ih, List.drop_eq_getElem_cons bound, List.reverse_cons, List.append_assoc, next]
    rfl
  | case2 i read outside =>
    have past : bytes.data.toList.length ≤ i := Nat.le_of_not_lt outside
    rw [List.drop_eq_nil_of_le past, List.append_nil]

theorem toList_toUTF8 (s : String) :
    s.toUTF8.toList = s.toList.flatMap String.utf8EncodeChar := by
  rw [ByteArray.toList, toList_loop, String.toUTF8, ← String.utf8Encode_toList, List.utf8Encode,
    List.data_toByteArray]
  rfl

theorem length_le_length_flatMap_encodeChar (cs : List Char) :
    cs.length ≤ (cs.flatMap String.utf8EncodeChar).length := by
  induction cs with
  | nil => rfl
  | cons c rest ih =>
    have some_byte := List.length_pos_of_ne_nil (String.utf8EncodeChar_ne_nil (c := c))
    rw [List.flatMap_cons, List.length_append, List.length_cons]
    omega

/-- Every text is read back from its UTF-8 encoding, character by character
and with nothing left over. -/
theorem ofUtf8_toUTF8 (s : String) : ofUtf8 s.toUTF8.toList = s := by
  rw [ofUtf8, toList_toUTF8, utf8Chars_flatMap_encodeChar (length_le_length_flatMap_encodeChar _),
    List.map_map]
  change String.ofList (s.toList.map id) = s
  rw [List.map_id, String.ofList_toList]

end SiteRouting.Text
