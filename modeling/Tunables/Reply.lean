import Tunables.Json.Reader
import Tunables.Rejection

/-!
# Documents and replies

A document is JSON in text or in bytes, or a value that was decoded before.  A
reply is a document that answers a command; it can fail to be JSON, to have the
structure asked for, or to be a help record.
-/

namespace Tunables

/-- A JSON document, or a value that was decoded before. -/
inductive Document where
  | text (source : Text)
  | bytes (source : Text.Bytes)
  | value (content : Json)

namespace Document

/-- Decodes a document.  A decoded value that is a text counts as a document in
text; other decoded values are no documents. -/
def decode : Document → Except Json.ReadError Json
  | .text source => Json.read source
  | .bytes source => Json.readBytes source
  | .value (.string source) => Json.read source
  | .value other => .error (.notText other.typeName)

/-- The value of a document; a decoded value is its own. -/
def content : Document → Except Json.ReadError Json
  | .value (.string source) => Json.read source
  | .value other => .ok other
  | document => document.decode

end Document

/-- The wording of a value that breaks the structure asked for. -/
def structureMessage (violation : Violation) : Text :=
  "Structure validation failed: " ++ violation.message

/-- Why a reply is of no use. -/
inductive ReplyError where
  | undecodable (what : Text) (cause : Json.ReadError)
  | structure (violation : Violation)
  | invalid (name : Text) (rejection : Rejection)

/-- The wording of a reply of no use. -/
def ReplyError.message : ReplyError → Text
  | .undecodable what cause => "Could not decode " ++ what ++ " as JSON: " ++ cause.message
  | .structure violation => structureMessage violation
  | .invalid name rejection =>
      "Invalid 'config help' reply for '" ++ name ++ "': " ++ rejection.message

/-- Decodes a reply; `what` says what it answers. -/
def Document.decodeReply (reply : Document) (what : Text) : Except ReplyError Json :=
  reply.decode.mapError (.undecodable what)

/-- Checks the structure of a decoded reply. -/
def checkReply (reply : Json) (schema : Schema) : Except ReplyError Unit :=
  (schema.check reply).mapError .structure

end Tunables
