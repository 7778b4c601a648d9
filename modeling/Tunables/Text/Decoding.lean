import Tunables.Text
import Tunables.Text.Hex

/-!
# Bytes cut into code points

An encoding cuts a run of bytes into *pieces*, each of which is a code point or
a run of bytes that stands for none.  A strict reading fails at the first bad
piece and tells where it stands; a lenient reading puts the replacement
character in its place.
-/

namespace Tunables.Text

abbrev Bytes := List UInt8

/-- Why a run of bytes stands for no code point. -/
inductive BadPiece where
  | invalidStart
  | invalidContinuation
  | unexpectedEnd
  | truncated
  | outOfRange
  deriving DecidableEq, Repr

def BadPiece.message : BadPiece → String
  | .invalidStart => "invalid start byte"
  | .invalidContinuation => "invalid continuation byte"
  | .unexpectedEnd => "unexpected end of data"
  | .truncated => "truncated data"
  | .outOfRange => "code point not in range(0x110000)"

/-- A piece of encoded text: how many bytes it takes and what they stand for. -/
structure Piece where
  width : Nat
  content : Except BadPiece CodePoint

/-- The replacement character. -/
def replacement : Char := '\uFFFD'

def Piece.ofCodePoint (width codePoint : Nat) : Piece :=
  ⟨width, .ok (.ofNat codePoint)⟩

def Piece.bad (width : Nat) (reason : BadPiece) : Piece :=
  ⟨width, .error reason⟩

/-- Cuts bytes into pieces; `next` finds the piece in front of a byte and the
bytes after it.  Every piece takes one byte at least. -/
def cutPieces (next : UInt8 → Bytes → Piece) : Bytes → List Piece
  | [] => []
  | byte :: rest =>
      let piece := next byte rest
      piece :: cutPieces next (rest.drop (piece.width - 1))
termination_by bytes => bytes.length
decreasing_by simp only [List.length_drop, List.length_cons]; omega

/-- A strict reading that failed: the name of the encoding, the place of the
bad piece, its first byte and what is wrong with it. -/
structure DecodeError where
  encoding : String
  position : Nat
  width : Nat
  firstByte : UInt8
  reason : BadPiece
  deriving DecidableEq, Repr

def DecodeError.message (e : DecodeError) : String :=
  "'" ++ e.encoding ++ "' codec can't decode " ++
    (if e.width == 1 then
      "byte 0x" ++ String.ofList (hexDigits 2 e.firstByte.toNat) ++
        " in position " ++ toString e.position
    else
      "bytes in position " ++ toString e.position ++ "-" ++
        toString (e.position + e.width - 1)) ++
    ": " ++ e.reason.message

/-- The code points of the pieces that `bytes` were cut into, or the first bad
piece.  `position` is the place of the first piece. -/
def strictCodePoints (encoding : String) (position : Nat) (bytes : Bytes) :
    List Piece → Except DecodeError (List CodePoint)
  | [] => .ok []
  | piece :: pieces =>
      match piece.content with
      | .error reason =>
          .error ⟨encoding, position, piece.width, bytes.headD 0, reason⟩
      | .ok c =>
          (strictCodePoints encoding (position + piece.width) (bytes.drop piece.width)
            pieces).map (c :: ·)

/-- The code points of pieces, with the replacement character for bad ones. -/
def lenientCodePoints (pieces : List Piece) : List CodePoint :=
  pieces.map fun piece =>
    match piece.content with
    | .ok c => c
    | .error _ => replacement

end Tunables.Text
