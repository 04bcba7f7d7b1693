import SiteRouting.Text.Lowercase
import SiteRouting.Text.PercentEncoding
import SiteRouting.Url.Address
import SiteRouting.Url.DomainTable
import SiteRouting.Url.Punycode

namespace SiteRouting.Url

open Text

def isDropped (c : Char) : Bool :=
  inRanges droppedRanges c.toNat

/-- The form in which a character of a name is read: fullwidth characters stand
for ASCII ones, two more full stops for a dot, and ASCII letters are lowercase. -/
def foldDomainChar (c : Char) : Char :=
  let code := c.toNat
  if code == 0x3002 || code == 0xFF61 then '.'
  else if 0xFF01 ≤ code && code ≤ 0xFF5E then (Char.ofNat (code - 0xFEE0)).toLower
  else c.toLower

/-- Whether a name may hold a character. Of the characters that join
others, none may stand. -/
def isDomainChar (c : Char) : Bool :=
  let code := c.toNat
  if code < 0x80 then 0x20 < code && code != 0x7F && !"#%/:<>?@[\\]^|".toList.contains c
  else code != 0x200C && code != 0x200D && !inRanges refusedRanges code

/-- Whether a label may be written as it stands; it does not begin
with a combining mark. -/
def isPlainLabel (label : List Char) : Bool :=
  label.all isDomainChar && !label.head?.any (inRanges markRanges ·.toNat)

def isSettledChar (c : Char) : Bool :=
  !isDropped c && foldDomainChar c == c && lowercaseChar c == [c]

/-- Whether a text can be what a label in Punycode stands for: not ASCII
alone, and left as it is when it is read again. -/
def isEncodedLabel (label : List Char) : Bool :=
  label.any (0x80 ≤ ·.toNat) && label.all isSettledChar && isPlainLabel label

/-- Whether a label is allowed. Four characters in front announce Punycode,
and then it counts what the rest of the label stands for. -/
def isLabel : List Char → Bool
  | 'x' :: 'n' :: '-' :: '-' :: encoded => (ofPunycode? encoded).any isEncodedLabel
  | label => isPlainLabel label

def domainLabels? (host : List Char) : Option (List (List Char)) :=
  (percentDecode? (String.ofList host)).map fun name =>
    segments '.' ((name.toList.filter (!isDropped ·)).map foldDomainChar)

/-- Whether a text is a domain name or a version 4 address, which a name
whose last label is a number has to be. A name may be percent encoded, may
hold characters beyond ASCII, and may write labels in Punycode. Labels may
be empty, but not the name. -/
def isDomain (host : List Char) : Bool :=
  match domainLabels? host with
  | none => false
  | some labels =>
    labels != [[]] && labels.all isLabel && (!endsInNumber labels || isVersion4 labels)

end SiteRouting.Url
