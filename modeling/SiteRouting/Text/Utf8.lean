namespace SiteRouting.Text

/-- What the first byte of a longer encoding announces: how many bytes
follow, the bits that it carries, and the bounds of the byte after it. -/
structure Utf8Lead where
  count : Nat
  bits : Nat
  low : Nat
  high : Nat

/-- Reads the first byte of a longer encoding. The bounds exclude surrogates,
values beyond the last code point and encodings that are longer than needed. -/
def utf8Lead? (byte : Nat) : Option Utf8Lead :=
  if 0xC2 ≤ byte && byte ≤ 0xDF then some ⟨1, byte - 0xC0, 0x80, 0xBF⟩
  else if byte == 0xE0 then some ⟨2, 0, 0xA0, 0xBF⟩
  else if byte == 0xED then some ⟨2, 0xD, 0x80, 0x9F⟩
  else if 0xE1 ≤ byte && byte ≤ 0xEF then some ⟨2, byte - 0xE0, 0x80, 0xBF⟩
  else if byte == 0xF0 then some ⟨3, 0, 0x90, 0xBF⟩
  else if 0xF1 ≤ byte && byte ≤ 0xF3 then some ⟨3, byte - 0xF0, 0x80, 0xBF⟩
  else if byte == 0xF4 then some ⟨3, 4, 0x80, 0x8F⟩
  else none

/-- Reads the bytes that follow a first byte. Without a character in the
answer the encoding breaks off; the byte that does not fit is left. -/
def utf8Tail (count value low high : Nat) (bytes : List UInt8) : Option Char × List UInt8 :=
  match count, bytes with
  | 0, _ => (some (Char.ofNat value), bytes)
  | _ + 1, [] => (none, [])
  | count + 1, byte :: rest =>
    if low ≤ byte.toNat && byte.toNat ≤ high then
      utf8Tail count (64 * value + byte.toNat % 64) 0x80 0xBF rest
    else (none, bytes)

/-- The characters of some bytes, none for each stretch that breaks off;
`fuel` bounds their number. -/
def utf8Chars (fuel : Nat) (bytes : List UInt8) : List (Option Char) :=
  match fuel, bytes with
  | 0, _ => []
  | _, [] => []
  | fuel + 1, byte :: rest =>
    if byte.toNat < 0x80 then some (Char.ofNat byte.toNat) :: utf8Chars fuel rest
    else match utf8Lead? byte.toNat with
      | none => none :: utf8Chars fuel rest
      | some lead =>
        let (char?, rest) := utf8Tail lead.count lead.bits lead.low lead.high rest
        char? :: utf8Chars fuel rest

/-- The text that some bytes encode. The strict reading answers none if any
of them encode no character. -/
def ofUtf8? (bytes : List UInt8) : Option String :=
  ((utf8Chars bytes.length bytes).mapM id).map String.ofList

/-- The text that some bytes encode. The lenient reading puts the replacement
character where they encode nothing. -/
def ofUtf8 (bytes : List UInt8) : String :=
  String.ofList ((utf8Chars bytes.length bytes).map (·.getD '\ufffd'))

end SiteRouting.Text
