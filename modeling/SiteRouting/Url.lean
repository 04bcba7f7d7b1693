import SiteRouting.Text.Blank
import SiteRouting.Url.Domain

namespace SiteRouting.Url

open Text

/-- What a scheme asks of the text behind its colon: the schemes of
the web need a host, file URLs may have one, and other schemes have
one only behind two slashes. -/
inductive SchemeKind where
  /-- A host, whatever slashes stand before it. -/
  | web
  /-- A host or none. -/
  | file
  /-- A host behind two slashes, anything otherwise. -/
  | other
  deriving DecidableEq, Repr

def schemeKind (scheme : String) : SchemeKind :=
  if ["http", "https", "ws", "wss", "ftp"].contains scheme then .web
  else if scheme == "file" then .file
  else .other

def isSchemeChar (c : Char) : Bool :=
  c.isAlphanum || c == '+' || c == '-' || c == '.'

def cutScheme? (cs : List Char) : Option (String × List Char) :=
  if !cs.head?.any Char.isAlpha then none
  else
    let scheme := cs.takeWhile isSchemeChar
    match cs.drop scheme.length with
    | ':' :: rest => some (String.ofList (scheme.map Char.toLower), rest)
    | _ => none

/-- Slashes of the web and of files; a backslash counts as one. -/
def isSlash (c : Char) : Bool :=
  c == '/' || c == '\\'

def endsAuthority (kind : SchemeKind) (c : Char) : Bool :=
  c == '/' || c == '?' || c == '#' || (kind != .other && c == '\\')

def isOpaqueHostChar (c : Char) : Bool :=
  !"\x00\t\n\r #/:<>?@[\\]^|".toList.contains c

/-- Whether a text is a host. Between brackets stands a version 6 address. -/
def isHost (kind : SchemeKind) : List Char → Bool
  | '[' :: literal => literal.getLast? == some ']' && isVersion6 literal.dropLast
  | host => if kind == .other then host.all isOpaqueHostChar else isDomain host

/-- Cuts a host from the colon that ends it; inside brackets colons
belong to the host. -/
def cutHost (inBrackets : Bool) : List Char → List Char × List Char
  | [] => ([], [])
  | c :: rest =>
    if c == ':' && !inBrackets then ([], c :: rest)
    else
      let (host, port) := cutHost (c == '[' || (inBrackets && c != ']')) rest
      (c :: host, port)

/-- Whether a text is empty or a colon and a port, which may be missing. A
backslash ends the port where it does not end the host. -/
def isPortPart : List Char → Bool
  | ':' :: port =>
    let digits := port.takeWhile isDigit
    let rest := port.drop digits.length
    valueOfDigits 10 digits ≤ 65535 && (rest.isEmpty || rest.head? == some '\\')
  | [] => true
  | _ => false

/-- Cuts the name and password of a user from what follows the last at
sign, if there is one. -/
def cutUser (authority : List Char) : Option (List Char) × List Char :=
  let host := (authority.reverse.takeWhile (· != '@')).reverse
  if host.length < authority.length then
    (some (authority.take (authority.length - host.length - 1)), host)
  else (none, authority)

/-- Whether a text begins with a user, a host and a port as a scheme asks
for. A host may be missing outside the web, but not beside a user or a port,
and not between an at sign and a path. -/
def hasAuthority (kind : SchemeKind) (cs : List Char) : Bool :=
  let authority := cs.takeWhile (!endsAuthority kind ·)
  let (user?, hostPort) := cutUser authority
  let (host, port) := cutHost false hostPort
  if host.isEmpty then
    let isNamed := user?.any fun user => user != [] && user != [':']
    let isCutOff := user? == some [] && authority.length < cs.length
    kind == .other && port.isEmpty && !isNamed && !isCutOff
  else isHost kind host && isPortPart port

def isDriveLetter : List Char → Bool
  | [letter, mark] => letter.isAlpha && (mark == ':' || mark == '|')
  | _ => false

/-- Whether the text of a file URL behind its scheme is allowed: two slashes
lead to a host, which may be missing or the letter of a drive. -/
def isFileLocation : List Char → Bool
  | first :: second :: rest =>
    let host := rest.takeWhile (!endsAuthority .file ·)
    !isSlash first || !isSlash second || host.isEmpty || isDriveLetter host || isHost .file host
  | _ => true

def isLocation (kind : SchemeKind) (cs : List Char) : Bool :=
  match kind, cs with
  | .web, cs => hasAuthority .web (cs.dropWhile isSlash)
  | .file, cs => isFileLocation cs
  | .other, '/' :: '/' :: rest => hasAuthority .other rest
  | .other, _ => true

/-- Whether a text is an absolute URL. A scheme stands before its first colon,
and paths, queries and fragments are never at fault. Control characters and
blanks around it do not count, nor do tabs and line breaks inside. -/
def isAbsolute (text : String) : Bool :=
  let trimmed := stripChars (·.toNat ≤ 0x20) text.toList
  match cutScheme? (trimmed.filter fun c => c != '\t' && c != '\n' && c != '\r') with
  | none => false
  | some (scheme, rest) => isLocation (schemeKind scheme) rest

end SiteRouting.Url
