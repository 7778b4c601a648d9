import Tunables.Text.Utf8

/-!
# SHA-256

The message is padded to whole blocks of 64 bytes.  Each block is spread over
64 words, which are stirred one by one into eight words of state.
-/

namespace Tunables.Digest

open Tunables.Text (Bytes)

/-- The state of the hash. -/
structure HashState where
  a : UInt32
  b : UInt32
  c : UInt32
  d : UInt32
  e : UInt32
  f : UInt32
  g : UInt32
  h : UInt32
  deriving DecidableEq, Repr

def HashState.start : HashState :=
  ⟨0x6A09E667, 0xBB67AE85, 0x3C6EF372, 0xA54FF53A,
    0x510E527F, 0x9B05688C, 0x1F83D9AB, 0x5BE0CD19⟩

/-- One constant for each of the 64 rounds. -/
def roundConstants : List UInt32 := [
    0x428A2F98, 0x71374491, 0xB5C0FBCF, 0xE9B5DBA5, 0x3956C25B, 0x59F111F1,
    0x923F82A4, 0xAB1C5ED5, 0xD807AA98, 0x12835B01, 0x243185BE, 0x550C7DC3,
    0x72BE5D74, 0x80DEB1FE, 0x9BDC06A7, 0xC19BF174, 0xE49B69C1, 0xEFBE4786,
    0x0FC19DC6, 0x240CA1CC, 0x2DE92C6F, 0x4A7484AA, 0x5CB0A9DC, 0x76F988DA,
    0x983E5152, 0xA831C66D, 0xB00327C8, 0xBF597FC7, 0xC6E00BF3, 0xD5A79147,
    0x06CA6351, 0x14292967, 0x27B70A85, 0x2E1B2138, 0x4D2C6DFC, 0x53380D13,
    0x650A7354, 0x766A0ABB, 0x81C2C92E, 0x92722C85, 0xA2BFE8A1, 0xA81A664B,
    0xC24B8B70, 0xC76C51A3, 0xD192E819, 0xD6990624, 0xF40E3585, 0x106AA070,
    0x19A4C116, 0x1E376C08, 0x2748774C, 0x34B0BCB5, 0x391C0CB3, 0x4ED8AA4A,
    0x5B9CCA4F, 0x682E6FF3, 0x748F82EE, 0x78A5636F, 0x84C87814, 0x8CC70208,
    0x90BEFFFA, 0xA4506CEB, 0xBEF9A3F7, 0xC67178F2
  ]

def rotateRight (word amount : UInt32) : UInt32 :=
  (word >>> amount) ||| (word <<< (32 - amount))

/-- The word of four bytes, the first one leading. -/
def wordOfBytes (bytes : Bytes) : UInt32 :=
  bytes.foldl (fun word byte => word <<< 8 ||| byte.toUInt32) 0

/-- The four bytes of a word, the leading one first. -/
def bytesOfWord (word : UInt32) : Bytes :=
  [(word >>> 24).toUInt8, (word >>> 16).toUInt8, (word >>> 8).toUInt8, word.toUInt8]

/-- Cuts a list into pieces of a length; the last one may be shorter.  `count`
bounds the number of pieces. -/
def cut {α : Type} (length : Nat) : (count : Nat) → List α → List (List α)
  | 0, _ => []
  | count + 1, items =>
      if items.isEmpty then []
      else items.take length :: cut length count (items.drop length)

/-- The padded message: a one bit, zeros, and the length in bits. -/
def padded (message : Bytes) : Bytes :=
  let zeros : Bytes := List.replicate ((119 - message.length % 64) % 64) 0
  let bits := UInt64.ofNat (8 * message.length)
  let mark : UInt8 := 0x80
  message ++ mark :: zeros ++ bytesOfWord (bits >>> 32).toUInt32 ++ bytesOfWord bits.toUInt32

/-- The next word of the schedule, from the words before it, the last first. -/
def nextWord (words : List UInt32) : UInt32 :=
  let two := words.getD 1 0
  let seven := words.getD 6 0
  let fifteen := words.getD 14 0
  let sixteen := words.getD 15 0
  let small := rotateRight fifteen 7 ^^^ rotateRight fifteen 18 ^^^ (fifteen >>> 3)
  let large := rotateRight two 17 ^^^ rotateRight two 19 ^^^ (two >>> 10)
  sixteen + small + seven + large

/-- Adds words to a schedule whose last word stands first. -/
def extend : (count : Nat) → List UInt32 → List UInt32
  | 0, words => words
  | count + 1, words => extend count (nextWord words :: words)

def schedule (block : Bytes) : List UInt32 :=
  (extend 48 ((cut 4 16 block).map wordOfBytes).reverse).reverse

/-- One round with its word and its constant. -/
def HashState.round (s : HashState) (input : UInt32 × UInt32) : HashState :=
  let stirred := rotateRight s.e 6 ^^^ rotateRight s.e 11 ^^^ rotateRight s.e 25
  let choice := (s.e &&& s.f) ^^^ (~~~s.e &&& s.g)
  let first := s.h + stirred + choice + input.1 + input.2
  let turned := rotateRight s.a 2 ^^^ rotateRight s.a 13 ^^^ rotateRight s.a 22
  let majority := (s.a &&& s.b) ^^^ (s.a &&& s.c) ^^^ (s.b &&& s.c)
  ⟨first + turned + majority, s.a, s.b, s.c, s.d + first, s.e, s.f, s.g⟩

def HashState.add (s t : HashState) : HashState :=
  ⟨s.a + t.a, s.b + t.b, s.c + t.c, s.d + t.d, s.e + t.e, s.f + t.f, s.g + t.g, s.h + t.h⟩

def HashState.absorb (s : HashState) (block : Bytes) : HashState :=
  s.add (((schedule block).zip roundConstants).foldl HashState.round s)

def HashState.bytes (s : HashState) : Bytes :=
  [s.a, s.b, s.c, s.d, s.e, s.f, s.g, s.h].flatMap bytesOfWord

def sha256 (message : Bytes) : Bytes :=
  let whole := padded message
  ((cut 64 whole.length whole).foldl HashState.absorb HashState.start).bytes

def hexText (bytes : Bytes) : String :=
  String.ofList (bytes.flatMap fun byte => Text.hexDigits 2 byte.toNat)

end Tunables.Digest
