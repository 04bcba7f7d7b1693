import Mathlib
import SiteRouting.Proofs.Text.Utf8
import SiteRouting.Text.PercentEncoding

namespace SiteRouting.Text

def hexDigit (value : Nat) : Char :=
  Char.ofNat (if value < 10 then 0x30 + value else 0x37 + value)

def percentEncodeByte (byte : UInt8) : List Char :=
  ['%', hexDigit (byte.toNat / 16), hexDigit (byte.toNat % 16)]

def formEncode (s : String) : List Char :=
  s.toUTF8.toList.flatMap percentEncodeByte

def formPart (pair : String × String) : List Char :=
  formEncode pair.1 ++ '=' :: formEncode pair.2

def formQuery (pairs : List (String × String)) : List Char :=
  joinSegments '&' (pairs.map formPart)

/-- A digit is sent as one byte, which is no plus sign and is read back. -/
theorem encodeChar_hexDigit {value : Nat} (small : value < 16) :
    ∃ code, String.utf8EncodeChar (hexDigit value) = [code] ∧ code ≠ 0x2B ∧
      hexByte? code = some (UInt8.ofNat value) := by
  interval_cases value <;> exact ⟨_, rfl, by decide, by decide⟩

theorem hexDigit_not_delimiter {value : Nat} (small : value < 16) :
    hexDigit value ∉ ['#', '&', '='] := by
  interval_cases value <;> decide

theorem not_mem_formEncode {s : String} {c : Char} (delimiter : c ∈ ['#', '&', '=']) :
    c ∉ formEncode s := by
  intro member
  obtain ⟨byte, _, inside⟩ := List.mem_flatMap.mp member
  have bound := byte.toNat_lt
  simp only [percentEncodeByte, List.mem_cons, List.not_mem_nil, or_false] at inside
  rcases inside with rfl | rfl | rfl
  · revert delimiter
    decide
  · exact hexDigit_not_delimiter (by omega) delimiter
  · exact hexDigit_not_delimiter (by omega) delimiter

/-- The bytes of an encoded text, as a query is read, with plus signs
for blanks. -/
def spacedBytes (cs : List Char) : List UInt8 :=
  (cs.flatMap String.utf8EncodeChar).map fun byte => if byte == 0x2B then 0x20 else byte

theorem percentDecodeBytes_percentEncodeByte (byte : UInt8) (rest : List Char) :
    percentDecodeBytes (spacedBytes (percentEncodeByte byte ++ rest)) =
      byte :: percentDecodeBytes (spacedBytes rest) := by
  have bound : byte.toNat < 256 := byte.toNat_lt
  have isDigit : byte.toNat / 16 < 16 := by omega
  have isOther : byte.toNat % 16 < 16 := by omega
  obtain ⟨high, sentHigh, plainHigh, readHigh⟩ := encodeChar_hexDigit isDigit
  obtain ⟨low, sentLow, plainLow, readLow⟩ := encodeChar_hexDigit isOther
  have sign : String.utf8EncodeChar '%' = [0x25] := rfl
  have spaced : spacedBytes (percentEncodeByte byte ++ rest) =
      0x25 :: high :: low :: spacedBytes rest := by
    simp [spacedBytes, percentEncodeByte, sign, sentHigh, sentLow, plainHigh, plainLow]
  have value : 16 * UInt8.ofNat (byte.toNat / 16) + UInt8.ofNat (byte.toNat % 16) = byte := by
    rw [← UInt8.toNat_inj, UInt8.toNat_add, UInt8.toNat_mul, UInt8.toNat_ofNat', UInt8.toNat_ofNat']
    change (16 * (byte.toNat / 16 % 256) % 256 + byte.toNat % 16 % 256) % 256 = byte.toNat
    omega
  rw [spaced, percentDecodeBytes]
  simp only [readHigh, readLow, value]

theorem percentDecodeBytes_flatMap (bytes : List UInt8) :
    percentDecodeBytes (spacedBytes (bytes.flatMap percentEncodeByte)) = bytes := by
  induction bytes with
  | nil => rfl
  | cons byte rest ih => rw [List.flatMap_cons, percentDecodeBytes_percentEncodeByte, ih]

theorem formDecode_formEncode (s : String) : formDecode (String.ofList (formEncode s)) = s := by
  unfold formDecode
  rw [toList_toUTF8, String.toList_ofList]
  dsimp only
  change ofUtf8 (percentDecodeBytes (spacedBytes (s.toUTF8.toList.flatMap percentEncodeByte))) = s
  rw [percentDecodeBytes_flatMap, ofUtf8_toUTF8]

theorem splitFirst?_formPart (pair : String × String) :
    splitFirst? '=' (String.ofList (formPart pair)) =
      some (String.ofList (formEncode pair.1), String.ofList (formEncode pair.2)) := by
  rw [splitFirst?, String.toList_ofList, formPart, cutFirst?_append _ (not_mem_formEncode (by decide))]
  rfl

theorem isEmpty_formPart (pair : String × String) : (String.ofList (formPart pair)).isEmpty = false := by
  rw [← Bool.not_eq_true, String.isEmpty_iff, ← String.toList_inj, String.toList_ofList, formPart]
  simp

theorem not_mem_formPart (pair : String × String) : '#' ∉ formPart pair ∧ '&' ∉ formPart pair := by
  have free {s : String} : '#' ∉ formEncode s ∧ '&' ∉ formEncode s :=
    ⟨not_mem_formEncode (by decide), not_mem_formEncode (by decide)⟩
  simp [formPart, free]

/-- Any names and values, with every byte percent encoded, are read back from
a query as they were, in order. -/
theorem formPairs_formQuery (pairs : List (String × String)) :
    formPairs (String.ofList (formQuery pairs)) = pairs := by
  unfold formPairs splitAt
  rw [String.toList_ofList, formQuery]
  cases pairs with
  | nil => rfl
  | cons pair rest =>
    have free : ∀ text ∈ (pair :: rest).map formPart, '&' ∉ text := by
      intro text member
      obtain ⟨part, _, rfl⟩ := List.mem_map.mp member
      exact (not_mem_formPart part).2
    have kept : (((pair :: rest).map formPart).map String.ofList).filter (!·.isEmpty) =
        ((pair :: rest).map formPart).map String.ofList := by
      rw [List.filter_eq_self, List.map_map]
      intro text member
      obtain ⟨part, _, rfl⟩ := List.mem_map.mp member
      simp [isEmpty_formPart]
    have some_part : (pair :: rest).map formPart ≠ [] := List.cons_ne_nil _ _
    rw [segments_joinSegments some_part free, kept, List.map_map, List.map_map]
    refine (List.map_congr_left fun part _ => ?_).trans (List.map_id _)
    simp only [Function.comp_apply, splitFirst?_formPart, formDecode_formEncode, id]

theorem mem_of_mem_joinSegments {sep c : Char} {parts : List (List Char)}
    (member : c ∈ joinSegments sep parts) : c = sep ∨ ∃ part ∈ parts, c ∈ part := by
  fun_induction joinSegments sep parts with
  | case1 => cases member
  | case2 last => exact Or.inr ⟨last, List.mem_singleton_self last, member⟩
  | case3 first second others ih =>
    simp only [List.mem_append, List.mem_cons] at member
    rcases member with inFirst | isSep | behind
    · exact Or.inr ⟨first, List.mem_cons_self, inFirst⟩
    · exact Or.inl isSep
    · rcases ih behind with isSep | ⟨part, inside, inPart⟩
      · exact Or.inl isSep
      · exact Or.inr ⟨part, List.mem_cons_of_mem _ inside, inPart⟩

/-- A query can stand in a target: it holds nothing that would end it. -/
theorem not_mem_formQuery (pairs : List (String × String)) : '#' ∉ formQuery pairs := by
  intro member
  rcases mem_of_mem_joinSegments member with isSep | ⟨text, inside, inText⟩
  · cases isSep
  · obtain ⟨pair, _, rfl⟩ := List.mem_map.mp inside
    exact (not_mem_formPart pair).1 inText

end SiteRouting.Text
