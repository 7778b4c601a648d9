import Tunables.Proofs.NumberText
import Tunables.Proofs.StringText

/-!
# The text of a value determines the value

The first character of a text tells the kind of the value, and the kind tells where
the text ends.  Two values have the same text exactly if they are the same once the
surrogate pairs in their texts are joined, and neither does it make a difference when a
delimiter and other text follow.
-/

namespace Tunables.Json

open Text

/-! ## Joined values -/

mutual

/-- A value with the surrogate pairs of its texts joined. -/
def joined : Json → Json
  | .string text => .string text.joined
  | .array items => .array (joinedItems items)
  | .object members => .object (joinedEntries members)
  | value => value

def joinedItems : List Json → List Json
  | [] => []
  | item :: rest => joined item :: joinedItems rest

def joinedEntries : List (Text × Json) → List (Text × Json)
  | [] => []
  | (key, value) :: rest => (key.joined, joined value) :: joinedEntries rest

end

/-- An entry with the surrogate pairs of its texts joined. -/
def joinedEntry (entry : Text × Json) : Text × Json :=
  (entry.1.joined, entry.2.joined)

theorem joinedItems_eq_map (items : List Json) : joinedItems items = items.map joined := by
  induction items with
  | nil => rfl
  | cons item rest ih => rw [joinedItems, ih, List.map_cons]

theorem joinedEntries_eq_map (entries : List (Text × Json)) :
    joinedEntries entries = entries.map joinedEntry := by
  induction entries with
  | nil => rfl
  | cons entry rest ih =>
      rw [joinedEntries, ih, List.map_cons]
      rfl

/-! ## Delimiters -/

/-- The characters that may stand behind a value in an array or an object. -/
def isDelimiter (c : Char) : Bool :=
  c == ',' || c == ']' || c == '}'

/-- What stands behind a value starts with a delimiter if there is anything. -/
def Ends (rest : List Char) : Prop :=
  ∀ c ∈ rest.head?, isDelimiter c = true

theorem ends_nil : Ends [] := by
  intro c member
  cases member

variable {c : Char} {rest others : List Char} {v w : Json}

theorem ends_cons (delimiter : isDelimiter c = true) : Ends (c :: rest) := by
  intro first member
  cases member
  exact delimiter

theorem isDelimiter_of_isPlainDigit (digit : isPlainDigit c = true) : isDelimiter c = false := by
  by_contra delimiter
  simp only [isDelimiter, Bool.not_eq_false, Bool.or_eq_true, beq_iff_eq] at delimiter
  rcases delimiter with (rfl | rfl) | rfl <;> cases digit

/-- Two texts without delimiters that end at the same place are the same. -/
theorem append_inj_of_ends {text other : List Char} (first : ∀ c ∈ text, isDelimiter c = false)
    (second : ∀ c ∈ other, isDelimiter c = false) (ends : Ends rest) (otherEnds : Ends others)
    (texts : text ++ rest = other ++ others) : text = other ∧ rest = others := by
  have taken : ∀ {text rest : List Char}, (∀ c ∈ text, isDelimiter c = false) → Ends rest →
      (text ++ rest).takeWhile (fun c => !isDelimiter c) = text := by
    intro text rest plain ends
    rw [List.takeWhile_append_of_pos (by simpa using plain)]
    cases rest with
    | nil => simp
    | cons c rest =>
        have delimiter : isDelimiter c = true := ends c rfl
        simp [delimiter]
  have same : text = other := by
    rw [← taken first ends, texts, taken second otherEnds]
  subst same
  exact ⟨rfl, List.append_cancel_left texts⟩

/-! ## Numbers -/

theorem takeSign_intChars (n : Int) :
    Text.takeSign (intChars n) = (decide (n < 0), Nat.toDigits 10 n.natAbs) := by
  obtain ⟨c, rest, shape⟩ := List.exists_cons_of_ne_nil
    (Nat.toDigits_ne_nil (b := 10) (n := n.natAbs))
  have digit : isPlainDigit c = true :=
    allDigits_toDigits n.natAbs c (shape ▸ List.mem_cons_self)
  unfold intChars
  rw [shape]
  split
  · next negative => simp [Text.takeSign, negative]
  · next positive =>
      rw [List.nil_append, decide_eq_false positive]
      apply takeSign_of_ne
      · rintro rfl
        cases digit
      · rintro rfl
        cases digit

theorem intChars_injective {m n : Int} (texts : intChars m = intChars n) : m = n := by
  have parts := congrArg Text.takeSign texts
  rw [takeSign_intChars, takeSign_intChars] at parts
  obtain ⟨signs, digits⟩ := Prod.mk.inj parts
  have magnitudes : m.natAbs = n.natAbs := by
    rw [← plainDigitsValue_toDigits m.natAbs, digits, plainDigitsValue_toDigits]
  have negative : m < 0 ↔ n < 0 := decide_eq_decide.mp signs
  omega

section

variable {negative : Prop} [Decidable negative] {body : List Char}

theorem isDelimiter_of_mem_signed (plain : ∀ c ∈ body, isDelimiter c = false)
    (member : c ∈ (if negative then ['-'] else []) ++ body) : isDelimiter c = false := by
  rcases List.mem_append.mp member with sign | inBody
  · split at sign
    · rw [List.mem_singleton.mp sign]
      rfl
    · cases sign
  · exact plain c inBody

end

theorem isDelimiter_of_mem_intChars {n : Int} (member : c ∈ intChars n) :
    isDelimiter c = false :=
  isDelimiter_of_mem_signed
    (fun c digit => isDelimiter_of_isPlainDigit (allDigits_toDigits _ c digit)) member

theorem isDelimiter_of_mem_word {word : List Char}
    (plain : word.all (fun c => !isDelimiter c) = true) (member : c ∈ word) :
    isDelimiter c = false := by
  simpa using List.all_eq_true.mp plain c member

theorem isDelimiter_of_mem_unsigned {x : Binary64} (member : c ∈ numberLayout.unsigned x) :
    isDelimiter c = false := by
  cases x with
  | nan => exact isDelimiter_of_mem_word rfl member
  | infinite negative => exact isDelimiter_of_mem_word rfl member
  | finite negative rank inRange =>
      obtain ⟨d, written, _⟩ := Binary64.isNumeral_unsigned numberLayout negative rank inRange
      rcases written.isPlainDigit_or_mem member with digit | mark
      · exact isDelimiter_of_isPlainDigit digit
      · exact isDelimiter_of_mem_word (by decide) mark

theorem isDelimiter_of_mem_write {x : Binary64} (member : c ∈ (numberLayout.write x).toList) :
    isDelimiter c = false := by
  rw [toList_write] at member
  exact isDelimiter_of_mem_signed (fun c inBody => isDelimiter_of_mem_unsigned inBody) member

/-- The text of a double is not made of digits and a sign alone. -/
theorem exists_mem_unsigned (x : Binary64) :
    ∃ c ∈ numberLayout.unsigned x, isPlainDigit c = false := by
  cases x with
  | nan => exact ⟨'N', List.mem_cons_self, rfl⟩
  | infinite negative => exact ⟨'I', List.mem_cons_self, rfl⟩
  | finite negative rank inRange =>
      obtain ⟨d, written, _⟩ := Binary64.isNumeral_unsigned numberLayout negative rank inRange
      rcases written.exists_mark with point | exponent
      · exact ⟨_, point, rfl⟩
      · exact ⟨_, exponent, rfl⟩

/-- No text of a double is the text of a whole number. -/
theorem intChars_ne_write (n : Int) (x : Binary64) : intChars n ≠ (numberLayout.write x).toList := by
  intro texts
  have parts := congrArg Text.takeSign texts
  rw [takeSign_intChars, takeSign_write] at parts
  obtain ⟨c, member, letter⟩ := exists_mem_unsigned x
  rw [← (Prod.mk.inj parts).2] at member
  rw [allDigits_toDigits _ c member] at letter
  cases letter

/-! ## The first character -/

/-- What the first character of a text tells of its value. -/
inductive Shape where
  | null
  | truth (value : Bool)
  | number
  | string
  | array
  | object

def shape : Json → Shape
  | .null => .null
  | .bool value => .truth value
  | .int _ => .number
  | .real _ => .number
  | .string _ => .string
  | .array _ => .array
  | .object _ => .object

/-- The shape of the values whose text starts with a character. -/
def shapeOfFirst? : Char → Option Shape
  | ',' => none
  | ']' => none
  | '}' => none
  | 'n' => some .null
  | 't' => some (.truth true)
  | 'f' => some (.truth false)
  | '"' => some .string
  | '[' => some .array
  | '{' => some .object
  | _ => some .number

theorem shapeOfFirst?_of_isPlainDigit (digit : isPlainDigit c = true) :
    shapeOfFirst? c = some .number := by
  unfold shapeOfFirst?
  split <;> first | rfl | cases digit

theorem exists_signed_eq_cons {negative : Prop} [Decidable negative] {body : List Char}
    (start : ∃ c rest, body = c :: rest ∧ shapeOfFirst? c = some .number) :
    ∃ c rest, (if negative then ['-'] else []) ++ body = c :: rest ∧
      shapeOfFirst? c = some .number := by
  split
  · exact ⟨'-', body, rfl, rfl⟩
  · exact start

theorem exists_chars_eq_cons (v : Json) :
    ∃ c rest, v.chars = c :: rest ∧ shapeOfFirst? c = some v.shape := by
  cases v with
  | null => exact ⟨'n', _, rfl, rfl⟩
  | bool value => cases value <;> exact ⟨_, _, rfl, rfl⟩
  | int n =>
      obtain ⟨c, rest, start⟩ := List.exists_cons_of_ne_nil
        (Nat.toDigits_ne_nil (b := 10) (n := n.natAbs))
      have digit : isPlainDigit c = true :=
        allDigits_toDigits n.natAbs c (start ▸ List.mem_cons_self)
      exact exists_signed_eq_cons ⟨c, rest, start, shapeOfFirst?_of_isPlainDigit digit⟩
  | real x =>
      obtain ⟨c, rest, start, digit | rfl | rfl⟩ := exists_unsigned_eq_cons x
      all_goals
        rw [chars, toList_write]
      · exact exists_signed_eq_cons ⟨c, rest, start, shapeOfFirst?_of_isPlainDigit digit⟩
      · exact exists_signed_eq_cons ⟨_, rest, start, rfl⟩
      · exact exists_signed_eq_cons ⟨_, rest, start, rfl⟩
  | string text => exact ⟨'"', _, rfl, rfl⟩
  | array items => exact ⟨'[', _, rfl, rfl⟩
  | object members => exact ⟨'{', _, rfl, rfl⟩

/-- Values of different shapes have different texts, whatever follows. -/
theorem shape_eq_of_chars_append (texts : v.chars ++ rest = w.chars ++ others) :
    v.shape = w.shape := by
  obtain ⟨c, behind, text, first⟩ := exists_chars_eq_cons v
  obtain ⟨d, otherBehind, otherText, otherFirst⟩ := exists_chars_eq_cons w
  rw [text, otherText] at texts
  rw [(List.cons.inj texts).1, otherFirst] at first
  exact (Option.some.inj first).symm

/-! ## Texts one after another -/

section

variable {α β : Type} {write : α → List Char} {reading : α → β} {closing : Char}

/-- A text ends where its value ends: only values of the same reading have a text with the
same start. -/
def Readable (write : α → List Char) (reading : α → β) (a : α) : Prop :=
  ∀ (b : α) (rest others : List Char), Ends rest → Ends others →
    write a ++ rest = write b ++ others → reading a = reading b ∧ rest = others

/-- Further items, each behind a comma and a space. -/
def further (write : α → List Char) (items : List α) : List Char :=
  items.flatMap fun item => ',' :: ' ' :: write item

/-- Items with a comma and a space between them. -/
def row (write : α → List Char) : List α → List Char
  | [] => []
  | item :: rest => write item ++ further write rest

theorem further_cons (item : α) (items : List α) :
    further write (item :: items) = ',' :: ' ' :: row write (item :: items) := rfl

theorem row_map {items : List α} {image : α → α}
    (each : ∀ item ∈ items, write (image item) = write item) :
    row write (items.map image) = row write items := by
  have same : ∀ {items : List α}, (∀ item ∈ items, write (image item) = write item) →
      further write (items.map image) = further write items := by
    intro items each
    rw [further, further, List.flatMap_map]
    exact List.flatMap_congr fun item member => by rw [each item member]
  cases items with
  | nil => rfl
  | cons item rest =>
      obtain ⟨first, later⟩ := List.forall_mem_cons.mp each
      rw [List.map_cons, row, row, first, same later]

theorem ends_further_append (items : List α) (closes : isDelimiter closing = true) :
    Ends (further write items ++ closing :: rest) := by
  cases items with
  | nil => exact ends_cons closes
  | cons item items => exact ends_cons rfl

theorem further_append_inj {left right : List α} (closes : isDelimiter closing = true)
    (noComma : closing ≠ ',') (each : ∀ item ∈ left, Readable write reading item)
    (texts : further write left ++ closing :: rest = further write right ++ closing :: others) :
    left.map reading = right.map reading ∧ rest = others := by
  induction left generalizing right with
  | nil =>
      cases right with
      | nil => exact ⟨rfl, (List.cons.inj texts).2⟩
      | cons next right => exact absurd (List.cons.inj texts).1 noComma
  | cons item left induction =>
      cases right with
      | nil => exact absurd (List.cons.inj texts).1.symm noComma
      | cons next right =>
          have behind : write item ++ (further write left ++ closing :: rest) =
              write next ++ (further write right ++ closing :: others) := by
            simpa [further] using texts
          obtain ⟨first, remaining⟩ := each item List.mem_cons_self next _ _
            (ends_further_append left closes) (ends_further_append right closes) behind
          obtain ⟨later, same⟩ :=
            induction (fun item member => each item (List.mem_cons_of_mem _ member)) remaining
          exact ⟨by rw [List.map_cons, List.map_cons, first, later], same⟩

theorem row_append_inj {left right : List α} (closes : isDelimiter closing = true)
    (noComma : closing ≠ ',') (starts : ∀ item rest, ¬ Ends (write item ++ rest))
    (each : ∀ item ∈ left, Readable write reading item)
    (texts : row write left ++ closing :: rest = row write right ++ closing :: others) :
    left.map reading = right.map reading ∧ rest = others := by
  cases left with
  | nil =>
      cases right with
      | nil => exact ⟨rfl, (List.cons.inj texts).2⟩
      | cons next right =>
          -- What closes the row would be the first character of an item.
          rw [row, row, List.nil_append, List.append_assoc] at texts
          exact absurd (texts ▸ ends_cons closes) (starts next _)
  | cons item left =>
      cases right with
      | nil =>
          rw [row, row, List.nil_append, List.append_assoc] at texts
          exact absurd (texts ▸ ends_cons closes) (starts item _)
      | cons next right =>
          rw [row, row, List.append_assoc, List.append_assoc] at texts
          obtain ⟨first, remaining⟩ := each item List.mem_cons_self next _ _
            (ends_further_append left closes) (ends_further_append right closes) texts
          obtain ⟨later, same⟩ := further_append_inj closes noComma
            (fun item member => each item (List.mem_cons_of_mem _ member)) remaining
          exact ⟨by rw [List.map_cons, List.map_cons, first, later], same⟩

end

/-- The characters of one entry. -/
def entryChars (entry : Text × Json) : List Char :=
  stringChars entry.1 ++ ": ".toList ++ chars entry.2

theorem itemsChars_eq_row (items : List Json) : itemsChars items = row chars items := by
  induction items with
  | nil => rfl
  | cons item items induction =>
      cases items with
      | nil => simp [itemsChars, row, further]
      | cons next rest =>
          rw [itemsChars, induction, List.append_assoc]
          rfl

theorem entriesChars_eq_row (entries : List (Text × Json)) :
    entriesChars entries = row entryChars entries := by
  induction entries with
  | nil => rfl
  | cons entry entries induction =>
      cases entries with
      | nil => simp [entriesChars, row, further, entryChars]
      | cons next rest =>
          rw [entriesChars, induction, List.append_assoc _ ", ".toList]
          rfl

/-! ## Values -/

theorem not_ends_chars_append (v : Json) (rest : List Char) : ¬ Ends (v.chars ++ rest) := by
  obtain ⟨c, behind, text, first⟩ := exists_chars_eq_cons v
  rw [text]
  intro ends
  have delimiter : isDelimiter c = true := ends c rfl
  simp only [isDelimiter, Bool.or_eq_true, beq_iff_eq] at delimiter
  rcases delimiter with (rfl | rfl) | rfl <;> cases first

theorem not_ends_entryChars_append (entry : Text × Json) (rest : List Char) :
    ¬ Ends (entryChars entry ++ rest) := by
  intro ends
  cases ends '"' rfl

theorem readable_entryChars {entry : Text × Json} (value : Readable chars joined entry.2) :
    Readable entryChars joinedEntry entry := by
  intro other rest others ends otherEnds texts
  rw [entryChars, entryChars, List.append_assoc, List.append_assoc, List.append_assoc,
    List.append_assoc] at texts
  obtain ⟨keys, behind⟩ := stringChars_append_inj texts
  obtain ⟨values, remaining⟩ := value other.2 rest others ends otherEnds
    (List.append_cancel_left behind)
  exact ⟨Prod.ext keys values, remaining⟩

/-- Whole numbers and doubles end at the first delimiter. -/
theorem number_append_inj (number : v.shape = .number) (otherNumber : w.shape = .number)
    (ends : Ends rest) (otherEnds : Ends others)
    (texts : v.chars ++ rest = w.chars ++ others) : v = w ∧ rest = others := by
  have plain : ∀ {u : Json}, u.shape = .number → ∀ c ∈ u.chars, isDelimiter c = false := by
    intro u number c member
    cases u with
    | int n => exact isDelimiter_of_mem_intChars member
    | real x => exact isDelimiter_of_mem_write member
    | null | bool | string | array | object => cases number
  obtain ⟨same, remaining⟩ :=
    append_inj_of_ends (plain number) (plain otherNumber) ends otherEnds texts
  refine ⟨?_, remaining⟩
  cases v with
  | int n =>
      cases w with
      | int m => exact congrArg int (intChars_injective same)
      | real y => exact absurd same (intChars_ne_write n y)
      | null | bool | string | array | object => cases otherNumber
  | real x =>
      cases w with
      | int m => exact absurd same.symm (intChars_ne_write m x)
      | real y => exact congrArg real (numberLayout_write_injective same)
      | null | bool | string | array | object => cases otherNumber
  | null | bool | string | array | object => cases number

mutual

/-- The text of a value is the text of no other value up to surrogate pairs, also when other
text follows behind a delimiter. -/
theorem readable_chars (v : Json) : Readable chars joined v := by
  intro w rest others ends otherEnds texts
  -- The first characters agree, which leaves the cases of one shape.
  have shapes := shape_eq_of_chars_append texts
  cases v with
  | null =>
      cases w with
      | null => exact ⟨rfl, List.append_cancel_left texts⟩
      | bool | int | real | string | array | object => cases shapes
  | bool value =>
      cases w with
      | bool other =>
          cases shapes
          exact ⟨rfl, List.append_cancel_left texts⟩
      | null | int | real | string | array | object => cases shapes
  | int n =>
      obtain ⟨same, remaining⟩ := number_append_inj rfl shapes.symm ends otherEnds texts
      exact ⟨congrArg joined same, remaining⟩
  | real x =>
      obtain ⟨same, remaining⟩ := number_append_inj rfl shapes.symm ends otherEnds texts
      exact ⟨congrArg joined same, remaining⟩
  | string text =>
      cases w with
      | string other =>
          obtain ⟨same, remaining⟩ := stringChars_append_inj texts
          exact ⟨congrArg string same, remaining⟩
      | null | bool | int | real | array | object => cases shapes
  | array items =>
      cases w with
      | array otherItems =>
          have inside : row chars items ++ ']' :: rest = row chars otherItems ++ ']' :: others := by
            simpa [chars, itemsChars_eq_row] using texts
          obtain ⟨same, remaining⟩ := row_append_inj rfl (by decide) not_ends_chars_append
            (readable_items items) inside
          rw [← joinedItems_eq_map, ← joinedItems_eq_map] at same
          exact ⟨congrArg array same, remaining⟩
      | null | bool | int | real | string | object => cases shapes
  | object members =>
      cases w with
      | object otherMembers =>
          have inside : row entryChars members ++ '}' :: rest =
              row entryChars otherMembers ++ '}' :: others := by
            simpa [chars, entriesChars_eq_row] using texts
          obtain ⟨same, remaining⟩ := row_append_inj rfl (by decide) not_ends_entryChars_append
            (readable_entries members) inside
          rw [← joinedEntries_eq_map, ← joinedEntries_eq_map] at same
          exact ⟨congrArg object same, remaining⟩
      | null | bool | int | real | string | array => cases shapes

theorem readable_items (items : List Json) : ∀ item ∈ items, Readable chars joined item := by
  intro item member
  cases items with
  | nil => cases member
  | cons first rest =>
      rcases List.mem_cons.mp member with rfl | inRest
      · exact readable_chars item
      · exact readable_items rest item inRest

theorem readable_entries (entries : List (Text × Json)) :
    ∀ entry ∈ entries, Readable entryChars joinedEntry entry := by
  intro entry member
  cases entries with
  | nil => cases member
  | cons first rest =>
      obtain ⟨key, value⟩ := first
      rcases List.mem_cons.mp member with rfl | inRest
      · exact readable_entryChars (readable_chars value)
      · exact readable_entries rest entry inRest

end

mutual

/-- Joining surrogate pairs does not show in the text of a value. -/
theorem chars_joined (v : Json) : v.joined.chars = v.chars := by
  cases v with
  | null | bool value | int n | real x => rfl
  | string text => exact stringChars_joined text
  | array items =>
      have inside : row chars (items.map joined) = row chars items :=
        row_map (chars_joined_items items)
      rw [joined, chars, chars, itemsChars_eq_row, itemsChars_eq_row, joinedItems_eq_map, inside]
  | object members =>
      have inside : row entryChars (members.map joinedEntry) = row entryChars members :=
        row_map (chars_joined_entries members)
      rw [joined, chars, chars, entriesChars_eq_row, entriesChars_eq_row, joinedEntries_eq_map,
        inside]

theorem chars_joined_items (items : List Json) :
    ∀ item ∈ items, item.joined.chars = item.chars := by
  intro item member
  cases items with
  | nil => cases member
  | cons first rest =>
      rcases List.mem_cons.mp member with rfl | inRest
      · exact chars_joined item
      · exact chars_joined_items rest item inRest

theorem chars_joined_entries (entries : List (Text × Json)) :
    ∀ entry ∈ entries, entryChars (joinedEntry entry) = entryChars entry := by
  intro entry member
  cases entries with
  | nil => cases member
  | cons first rest =>
      obtain ⟨key, value⟩ := first
      rcases List.mem_cons.mp member with rfl | inRest
      · rw [entryChars, entryChars, joinedEntry, stringChars_joined, chars_joined value]
      · exact chars_joined_entries rest entry inRest

end

/-- Two values have the same text exactly if they are the same up to surrogate pairs. -/
theorem write_eq_write_iff {v w : Json} : v.write = w.write ↔ v.joined = w.joined := by
  rw [write, write, String.ofList_inj]
  constructor
  · intro texts
    have same : v.chars ++ [] = w.chars ++ [] := by rw [texts]
    exact (readable_chars v w [] [] ends_nil ends_nil same).1
  · intro same
    rw [← chars_joined v, same, chars_joined w]

end Tunables.Json
