import Tunables.Command
import Tunables.Proofs.ObjectText
import Tunables.Reply

/-!
# Commands read back from their text

The text of a command in which no key stands twice is read back as its phrase, its
arguments in their order and its format, whatever characters these have, with surrogate
pairs joined.  Two such commands have the same text exactly if they are the same up to
their surrogate pairs.
-/

namespace Tunables.Command

variable {c d : Command}

/-- No two members of a command have the same key. -/
structure HasDistinctKeys (c : Command) : Prop where
  nodup_arguments : (c.arguments.map (·.1)).Nodup
  phrase_not_mem : ("prefix" : Text) ∉ c.arguments.map (·.1)
  format_not_mem : ("format" : Text) ∉ c.arguments.map (·.1)

/-- The phrase of a command, then each argument, then the format, under their keys. -/
def parts (c : Command) : Members :=
  (("prefix" : Text), Json.string c.phrase) ::
    (c.arguments.map fun argument => (argument.1, Json.string argument.2)) ++
    [(("format" : Text), Json.string c.format)]

theorem keys_parts (c : Command) :
    c.parts.map (·.1) = ("prefix" : Text) :: c.arguments.map (·.1) ++ [("format" : Text)] := by
  simp [parts]

theorem HasDistinctKeys.nodup_parts (distinct : c.HasDistinctKeys) :
    (c.parts.map (·.1)).Nodup := by
  have others : (c.arguments.map (·.1) ++ [("format" : Text)]).Nodup := by
    rw [← List.concat_eq_append]
    exact distinct.nodup_arguments.concat distinct.format_not_mem
  have phrase : ("prefix" : Text) ∉ c.arguments.map (·.1) ++ [("format" : Text)] := by
    rw [List.mem_append, not_or]
    exact ⟨distinct.phrase_not_mem, by decide⟩
  rw [keys_parts]
  exact List.nodup_cons.mpr ⟨phrase, others⟩

/-- Where no key stands twice, each part of a command is a member of its own. -/
theorem HasDistinctKeys.members_eq (distinct : c.HasDistinctKeys) : c.members = c.parts :=
  Entries.ofPairs_of_nodup distinct.nodup_parts

theorem readsBack_of_mem_parts {entry : Text × Json} (member : entry ∈ c.parts) :
    entry.2.ReadsBack := by
  have isText : ∃ text, entry.2 = .string text := by
    simp only [parts, List.mem_append, List.mem_cons, List.mem_map, List.not_mem_nil,
      or_false] at member
    rcases member with (rfl | ⟨argument, _, rfl⟩) | rfl
    · exact ⟨_, rfl⟩
    · exact ⟨_, rfl⟩
    · exact ⟨_, rfl⟩
  obtain ⟨text, value⟩ := isText
  rw [value]
  exact Json.readsBack_string text

/-- Nothing of a command is lost in its parts. -/
theorem eq_of_parts_eq (same : c.parts = d.parts) : c = d := by
  obtain ⟨phrase, arguments, format⟩ := c
  obtain ⟨otherPhrase, otherArguments, otherFormat⟩ := d
  have injective : Function.Injective fun argument : Text × Text =>
      (argument.1, Json.string argument.2) := by
    rintro ⟨key, value⟩ ⟨otherKey, otherValue⟩ pairs
    cases pairs
    rfl
  obtain ⟨phrases, others⟩ := List.cons.inj same
  obtain ⟨entries, formats⟩ := List.append_inj' others rfl
  obtain rfl := injective.list_map entries
  cases phrases
  cases formats
  rfl

/-! ## Surrogate pairs -/

/-- A command with the surrogate pairs of its texts joined. -/
def joined (c : Command) : Command :=
  ⟨c.phrase.joined, c.arguments.map fun argument => (argument.1.joined, argument.2.joined),
    c.format.joined⟩

/-- No text of a command has a surrogate pair. -/
def HasNoPair (c : Command) : Prop :=
  ¬ c.phrase.HasPair ∧ (∀ argument ∈ c.arguments, ¬ argument.1.HasPair ∧ ¬ argument.2.HasPair) ∧
    ¬ c.format.HasPair

instance (c : Command) : Decidable c.HasNoPair :=
  inferInstanceAs (Decidable (_ ∧ _ ∧ _))

theorem HasNoPair.joined_eq (single : c.HasNoPair) : c.joined = c := by
  obtain ⟨phrase, arguments, format⟩ := c
  obtain ⟨phraseSingle, argumentsSingle, formatSingle⟩ := single
  have unchanged : ∀ argument ∈ arguments,
      (argument.1.joined, argument.2.joined) = argument := by
    intro argument member
    obtain ⟨key, value⟩ := argumentsSingle argument member
    rw [Text.joined_eq_self_iff.mpr key, Text.joined_eq_self_iff.mpr value]
  rw [joined, Text.joined_eq_self_iff.mpr phraseSingle, Text.joined_eq_self_iff.mpr formatSingle,
    List.map_congr_left unchanged, List.map_id']

theorem joinedEntries_parts (c : Command) : Json.joinedEntries c.parts = c.joined.parts := by
  simp [Json.joinedEntries_eq_map, parts, joined, Json.joinedEntry, Json.joined]

theorem HasDistinctKeys.read_text (distinct : c.HasDistinctKeys) :
    Json.read c.text = .ok (.object (Members.ofEntries c.joined.parts)) := by
  rw [text, distinct.members_eq,
    Json.read_write_object fun _ member => readsBack_of_mem_parts member, joinedEntries_parts]

theorem HasDistinctKeys.decodeReply_text (distinct : c.HasDistinctKeys) (what : Text) :
    (Document.text c.text).decodeReply what =
      .ok (.object (Members.ofEntries c.joined.parts)) := by
  rw [Document.decodeReply, Document.decode, distinct.read_text]
  rfl

theorem HasDistinctKeys.text_eq_text_iff (distinct : c.HasDistinctKeys)
    (otherDistinct : d.HasDistinctKeys) : d.text = c.text ↔ d.joined = c.joined := by
  have same : (Json.object d.parts).joined = (Json.object c.parts).joined ↔
      d.joined.parts = c.joined.parts := by
    rw [Json.joined, Json.joined, joinedEntries_parts, joinedEntries_parts, Json.object.injEq]
  rw [text, text, distinct.members_eq, otherDistinct.members_eq, Json.write_eq_write_iff, same]
  exact ⟨eq_of_parts_eq, congrArg parts⟩

/-- A command with characters that are escaped in its text, the last of them as a pair of
code units. -/
def withEscapes : Command :=
  ⟨"config \"help\"", [("key\\", "\x00\n\x7F/é"), ("\x1F", "😀")], "json"⟩

/-- The same command with the text of this pair in place of the character. -/
def withSpelledEscapes : Command :=
  ⟨"config \"help\"", [("key\\", "\x00\n\x7F/é"), ("\x1F", "\\ud83d\\ude00")], "json"⟩

/-- The same command with two surrogates in place of the character. -/
def withSurrogates : Command :=
  ⟨"config \"help\"",
    [("key\\", "\x00\n\x7F/é"), ("\x1F", .ofList [.ofNat 0xD83D, .ofNat 0xDE00])], "json"⟩

example : (help "😀").text =
    "\x7b\"prefix\": \"config help\", \"key\": \"\\ud83d\\ude00\", \"format\": \"json\"\x7d" := by
  decide

end Tunables.Command
