import Tunables.Text.Utf8

/-!
# The encoding of a document

A document in bytes is UTF-8, UTF-16 or UTF-32.  A byte order mark decides, and
without one the pattern of zero bytes among the first four, since a document
starts with an ASCII character.
-/

namespace Tunables.Text

/-- The order of the bytes of a unit. -/
inductive ByteOrder where
  | littleEndian
  | bigEndian
  deriving DecidableEq, Repr

/-- The number that bytes write in an order. -/
def ByteOrder.value (order : ByteOrder) (bytes : Bytes) : Nat :=
  let leadingFirst := match order with
    | .bigEndian => bytes
    | .littleEndian => bytes.reverse
  leadingFirst.foldl (fun value byte => 256 * value + byte.toNat) 0

/-- The last part of the name of an encoding with units of several bytes. -/
def ByteOrder.suffix : ByteOrder → String
  | .littleEndian => "le"
  | .bigEndian => "be"

/-- An encoding of documents. -/
inductive Encoding where
  | utf8
  | utf16 (order : ByteOrder)
  | utf32 (order : ByteOrder)
  deriving DecidableEq, Repr

def Encoding.name : Encoding → String
  | .utf8 => "utf-8"
  | .utf16 order => "utf-16-" ++ order.suffix
  | .utf32 order => "utf-32-" ++ order.suffix

/-- The code point that two units of UTF-16 write together. -/
def joinSurrogates (high low : Nat) : Nat :=
  0x10000 + (high - 0xD800) * 0x400 + (low - 0xDC00)

/-- Whether a unit is the first of a pair. -/
def isHighSurrogate (unit : Nat) : Bool :=
  0xD800 ≤ unit && unit ≤ 0xDBFF

/-- Whether a unit is the second of a pair. -/
def isLowSurrogate (unit : Nat) : Bool :=
  0xDC00 ≤ unit && unit ≤ 0xDFFF

/-- The piece in front of bytes in UTF-16. -/
def nextPieceUtf16 (order : ByteOrder) (byte : UInt8) : Bytes → Piece
  | [] => .bad 1 .truncated
  | second :: rest =>
      let unit := order.value [byte, second]
      match rest with
      | third :: fourth :: _ =>
          let next := order.value [third, fourth]
          if isHighSurrogate unit && isLowSurrogate next then
            .ofCodePoint 4 (joinSurrogates unit next)
          else .ofCodePoint 2 unit
      | _ => .ofCodePoint 2 unit

/-- The piece in front of bytes in UTF-32. -/
def nextPieceUtf32 (order : ByteOrder) (byte : UInt8) (rest : Bytes) : Piece :=
  match rest with
  | second :: third :: fourth :: _ =>
      let codePoint := order.value [byte, second, third, fourth]
      if codePoint < 0x110000 then .ofCodePoint 4 codePoint else .bad 4 .outOfRange
  | _ => .bad (rest.length + 1) .truncated

/-- The piece in front of bytes.  Surrogates are let through. -/
def Encoding.nextPiece : Encoding → UInt8 → Bytes → Piece
  | .utf8 => Utf8.nextPiecePassing
  | .utf16 order => nextPieceUtf16 order
  | .utf32 order => nextPieceUtf32 order

/-- A document in bytes, split into its byte order mark, if it has one, and the
encoded text. -/
structure EncodedDocument where
  encoding : Encoding
  markWidth : Nat
  body : Bytes

/-- The encoding of a document without a byte order mark. -/
def unmarkedEncoding : Bytes → Encoding
  | [first, second] =>
      if first == 0 then .utf16 .bigEndian
      else if second == 0 then .utf16 .littleEndian
      else .utf8
  | first :: second :: third :: fourth :: _ =>
      if first == 0 then
        if second == 0 then .utf32 .bigEndian else .utf16 .bigEndian
      else if second == 0 then
        if third == 0 && fourth == 0 then .utf32 .littleEndian else .utf16 .littleEndian
      else .utf8
  | _ => .utf8

def EncodedDocument.ofBytes : Bytes → EncodedDocument
  | 0x00 :: 0x00 :: 0xFE :: 0xFF :: body => ⟨.utf32 .bigEndian, 4, body⟩
  | 0xFF :: 0xFE :: 0x00 :: 0x00 :: body => ⟨.utf32 .littleEndian, 4, body⟩
  | 0xFE :: 0xFF :: body => ⟨.utf16 .bigEndian, 2, body⟩
  | 0xFF :: 0xFE :: body => ⟨.utf16 .littleEndian, 2, body⟩
  | 0xEF :: 0xBB :: 0xBF :: body => ⟨.utf8, 3, body⟩
  | bytes => ⟨unmarkedEncoding bytes, 0, bytes⟩

/-- Where the first byte of the text is counted from: the mark counts as a part
of the document, except in UTF-8. -/
def EncodedDocument.textPosition (document : EncodedDocument) : Nat :=
  match document.encoding with
  | .utf8 => 0
  | _ => document.markWidth

/-- Reads the text of a document strictly. -/
def EncodedDocument.text (document : EncodedDocument) :
    Except DecodeError (List CodePoint) :=
  strictCodePoints document.encoding.name document.textPosition document.body
    (cutPieces document.encoding.nextPiece document.body)

end Tunables.Text
