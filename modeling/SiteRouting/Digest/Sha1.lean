namespace SiteRouting.Digest

/-- The five words that a digest is made of, as they are after some
blocks of the message. -/
structure Sha1State where
  a : UInt32
  b : UInt32
  c : UInt32
  d : UInt32
  e : UInt32
  deriving DecidableEq, Repr

def Sha1State.start : Sha1State :=
  ⟨0x67452301, 0xEFCDAB89, 0x98BADCFE, 0x10325476, 0xC3D2E1F0⟩

def rotateLeft (word : UInt32) (bits : UInt32) : UInt32 :=
  (word <<< bits) ||| (word >>> (32 - bits))

def bigEndian : Nat → Nat → List UInt8
  | 0, _ => []
  | count + 1, value => bigEndian count (value / 256) ++ [UInt8.ofNat value]

/-- The message with its padding: a one bit, zeros, and the length in bits. -/
def sha1Padded (message : List UInt8) : List UInt8 :=
  let zeros := (119 - message.length % 64) % 64
  message ++ 0x80 :: (List.replicate zeros 0 ++ bigEndian 8 (8 * message.length))

def wordsOfBytes : List UInt8 → List UInt32
  | a :: b :: c :: d :: rest =>
    ((a.toUInt32 <<< 24) ||| (b.toUInt32 <<< 16) ||| (c.toUInt32 <<< 8) ||| d.toUInt32) ::
      wordsOfBytes rest
  | _ => []

/-- The next word of the schedule from the sixteen before it, the
newest one first. -/
def nextScheduleWord (newestFirst : List UInt32) : UInt32 :=
  rotateLeft (newestFirst.getD 2 0 ^^^ newestFirst.getD 7 0 ^^^ newestFirst.getD 13 0 ^^^
    newestFirst.getD 15 0) 1

def extendSchedule : Nat → List UInt32 → List UInt32
  | 0, words => words
  | count + 1, words => extendSchedule count (nextScheduleWord words :: words)

def sha1Mix (round : Nat) (s : Sha1State) : UInt32 :=
  if round < 20 then ((s.b &&& s.c) ||| (~~~s.b &&& s.d)) + 0x5A827999
  else if round < 40 then (s.b ^^^ s.c ^^^ s.d) + 0x6ED9EBA1
  else if round < 60 then ((s.b &&& s.c) ||| (s.b &&& s.d) ||| (s.c &&& s.d)) + 0x8F1BBCDC
  else (s.b ^^^ s.c ^^^ s.d) + 0xCA62C1D6

def sha1Round (s : Sha1State) (round : Nat) (word : UInt32) : Sha1State :=
  ⟨rotateLeft s.a 5 + sha1Mix round s + s.e + word, s.a, rotateLeft s.b 30, s.c, s.d⟩

def sha1Rounds (s : Sha1State) (round : Nat) : List UInt32 → Sha1State
  | [] => s
  | word :: rest => sha1Rounds (sha1Round s round word) (round + 1) rest

def sha1Block (s : Sha1State) (block : List UInt32) : Sha1State :=
  let t := sha1Rounds s 0 (extendSchedule 64 block.reverse).reverse
  ⟨s.a + t.a, s.b + t.b, s.c + t.c, s.d + t.d, s.e + t.e⟩

def sha1Blocks (s : Sha1State) (words : List UInt32) : Sha1State :=
  if words.length < 16 then s
  else sha1Blocks (sha1Block s (words.take 16)) (words.drop 16)
termination_by words.length
decreasing_by simp only [List.length_drop]; omega

def sha1 (message : List UInt8) : List UInt8 :=
  let s := sha1Blocks .start (wordsOfBytes (sha1Padded message))
  [s.a, s.b, s.c, s.d, s.e].flatMap fun word => bigEndian 4 word.toNat

end SiteRouting.Digest
