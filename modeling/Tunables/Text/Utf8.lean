import Tunables.Text.Decoding

/-!
# UTF-8

A character takes one to four bytes.  The first byte tells how many follow and
which values the second one may have; the others lie between `80` and `BF`.
A bad piece is the longest run of bytes that begins some character.
-/

namespace Tunables.Text.Utf8

/-- What the first byte of a longer character promises: the number of bytes
that follow, the bounds of the second byte, and its own share of the code
point. -/
structure Lead where
  following : Nat
  low : Nat
  high : Nat
  share : Nat

/-- The promise of a first byte that is not ASCII. -/
def lead? (byte : Nat) : Option Lead :=
  if 0xC2 ≤ byte && byte ≤ 0xDF then some ⟨1, 0x80, 0xBF, byte - 0xC0⟩
  else if byte == 0xE0 then some ⟨2, 0xA0, 0xBF, 0⟩
  else if byte == 0xED then some ⟨2, 0x80, 0x9F, 0xD⟩
  else if 0xE1 ≤ byte && byte ≤ 0xEF then some ⟨2, 0x80, 0xBF, byte - 0xE0⟩
  else if byte == 0xF0 then some ⟨3, 0x90, 0xBF, 0⟩
  else if 0xF1 ≤ byte && byte ≤ 0xF3 then some ⟨3, 0x80, 0xBF, byte - 0xF0⟩
  else if byte == 0xF4 then some ⟨3, 0x80, 0x8F, 4⟩
  else none

/-- Reads the bytes that follow a first byte.  `taken` bytes of the character
have been read, and the next one must lie between `low` and `high`. -/
def tailPiece (taken low high share : Nat) : (following : Nat) → Bytes → Piece
  | 0, _ => .ofCodePoint taken share
  | _ + 1, [] => .bad taken .unexpectedEnd
  | following + 1, byte :: rest =>
      if low ≤ byte.toNat && byte.toNat ≤ high then
        tailPiece (taken + 1) 0x80 0xBF (share * 64 + (byte.toNat - 0x80)) following rest
      else .bad taken .invalidContinuation

def nextPiece (byte : UInt8) (rest : Bytes) : Piece :=
  if byte.toNat < 0x80 then .ofCodePoint 1 byte.toNat
  else
    match lead? byte.toNat with
    | none => .bad 1 .invalidStart
    | some lead => tailPiece 1 lead.low lead.high lead.share lead.following rest

/-- The surrogate whose three bytes stand in front. -/
def surrogate? (byte : UInt8) : Bytes → Option CodePoint
  | second :: third :: _ =>
      if byte == 0xED && (0xA0 ≤ second && second ≤ 0xBF) && (0x80 ≤ third && third ≤ 0xBF) then
        some (.ofNat (0xD000 + (second.toNat - 0x80) * 64 + (third.toNat - 0x80)))
      else none
  | _ => none

/-- The piece in front of bytes where surrogates are let through. -/
def nextPiecePassing (byte : UInt8) (rest : Bytes) : Piece :=
  match surrogate? byte rest with
  | some surrogate => ⟨3, .ok surrogate⟩
  | none => nextPiece byte rest

def encode (characters : String) : Bytes :=
  characters.toList.flatMap String.utf8EncodeChar

/-- Surrogates next to each other, for which there are no bytes. -/
structure EncodeError where
  position : Nat
  first : CodePoint
  others : List CodePoint
  deriving DecidableEq, Repr

def EncodeError.message (e : EncodeError) : String :=
  "'utf-8' codec can't encode " ++
    (if e.others.isEmpty then
      "character '\\u" ++ String.ofList (hexDigits 4 e.first.toNat) ++
        "' in position " ++ toString e.position
    else
      "characters in position " ++ toString e.position ++ "-" ++
        toString (e.position + e.others.length)) ++
    ": surrogates not allowed"

/-- The bytes of code points, of which some have been passed.  Surrogates have none. -/
def encodeAfter (passed : Nat) : List CodePoint → Except EncodeError Bytes
  | [] => .ok []
  | .char c :: rest => (encodeAfter (passed + 1) rest).map (String.utf8EncodeChar c ++ ·)
  | surrogate :: rest => .error ⟨passed, surrogate, rest.takeWhile fun c => c.char?.isNone⟩

def encodeText (text : Text) : Except EncodeError Bytes :=
  encodeAfter 0 text.toList

/-- A text from bytes, with the replacement character for every bad piece. -/
def decodeLenient (bytes : Bytes) : Text :=
  .ofList (lenientCodePoints (cutPieces nextPiece bytes))

end Tunables.Text.Utf8
