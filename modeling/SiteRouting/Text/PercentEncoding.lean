import SiteRouting.Text.Segments
import SiteRouting.Text.Utf8

namespace SiteRouting.Text

def hexByte? (byte : UInt8) : Option UInt8 :=
  if 0x30 ≤ byte && byte ≤ 0x39 then some (byte - 0x30)
  else if 0x41 ≤ byte && byte ≤ 0x46 then some (byte - 0x37)
  else if 0x61 ≤ byte && byte ≤ 0x66 then some (byte - 0x57)
  else none

/-- The bytes that percent encoded bytes stand for. A percent sign and
two hexadecimal digits stand for a byte; a percent sign without two
digits stands for itself. -/
def percentDecodeBytes : List UInt8 → List UInt8
  | 0x25 :: high :: low :: rest =>
    match hexByte? high, hexByte? low with
    | some high, some low => (16 * high + low) :: percentDecodeBytes rest
    | _, _ => 0x25 :: percentDecodeBytes (high :: low :: rest)
  | byte :: rest => byte :: percentDecodeBytes rest
  | [] => []

/-- The text of a path segment, none if it stands for no text. -/
def percentDecode? (s : String) : Option String :=
  ofUtf8? (percentDecodeBytes s.toUTF8.toList)

/-- The text of a part of a query, where a plus sign stands for a blank. -/
def formDecode (s : String) : String :=
  let spaced := s.toUTF8.toList.map fun byte => if byte == 0x2B then 0x20 else byte
  ofUtf8 (percentDecodeBytes spaced)

/-- The names and values of a query. Empty parts are passed over; a part
without an equals sign is a name with an empty value. -/
def formPairs (query : String) : List (String × String) :=
  ((splitAt '&' query).filter (!·.isEmpty)).map fun part =>
    match splitFirst? '=' part with
    | some (name, value) => (formDecode name, formDecode value)
    | none => (formDecode part, "")

end SiteRouting.Text
