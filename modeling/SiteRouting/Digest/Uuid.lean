import SiteRouting.Digest.Sha1

namespace SiteRouting.Digest

def urlNamespace : List UInt8 :=
  [0x6B, 0xA7, 0xB8, 0x11, 0x9D, 0xAD, 0x11, 0xD1, 0x80, 0xB4, 0x00, 0xC0, 0x4F, 0xD4, 0x30, 0xC8]

def hexByte (byte : UInt8) : List Char :=
  [Nat.digitChar (byte.toNat / 16), Nat.digitChar (byte.toNat % 16)]

def groupedHex (bytes : List UInt8) : List Char :=
  let hex (start count : Nat) := ((bytes.drop start).take count).flatMap hexByte
  hex 0 4 ++ '-' :: hex 4 2 ++ '-' :: hex 6 2 ++ '-' :: hex 8 2 ++ '-' :: hex 10 6

/-- The first sixteen bytes of a digest with the marks of version 5 in
bytes six and eight. -/
def markVersion5 (digest : List UInt8) : List UInt8 :=
  ((digest.take 16).modify 6 fun b => (b &&& 0x0F) ||| 0x50).modify 8 fun b =>
    (b &&& 0x3F) ||| 0x80

/-- The identifier of a name: its version 5 UUID in the namespace of URLs. -/
def uuidOfName (name : String) : String :=
  String.ofList (groupedHex (markVersion5 (sha1 (urlNamespace ++ name.toUTF8.toList))))

end SiteRouting.Digest
