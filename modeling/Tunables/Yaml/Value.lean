import Tunables.Settings.Sources
import Tunables.Text.Numeral
import Tunables.Yaml.Node

/-!
# Values in a YAML text

A plain scalar is a truth value, a number, a date or nothing if it is written
like one, and a text otherwise.  A mapping takes over the entries of the mappings
that it merges, and its own entries come behind them.
-/

namespace Tunables.Yaml

/-- The words for true and for false. -/
def truthWords : List (String × Bool) :=
  [("yes", true), ("Yes", true), ("YES", true), ("true", true), ("True", true),
    ("TRUE", true), ("on", true), ("On", true), ("ON", true), ("no", false), ("No", false),
    ("NO", false), ("false", false), ("False", false), ("FALSE", false), ("off", false),
    ("Off", false), ("OFF", false)]

def nullWords : List String :=
  ["", "~", "null", "Null", "NULL"]

/-- The number that digits of a base stand for; underscores are passed over. -/
def digitsValue (base : Nat) (digits : List Char) : Nat :=
  (digits.filterMap Text.hexValue?).foldl (fun value digit => value * base + digit) 0

/-- Whether there are characters and all of them are underscores or satisfy a
condition. -/
def allDigits (isDigit : Char → Bool) (text : List Char) : Bool :=
  !text.isEmpty && text.all fun c => c == '_' || isDigit c

/-- Whether a text is a number below sixty with one digit or two. -/
def isSixtieth (text : List Char) : Bool :=
  match text with
  | [c] => c.isDigit
  | [c, d] => c.isDigit && d.isDigit && c ≤ '5'
  | _ => false

/-- The value of places that count sixty times the place behind them. -/
def sixtiesValue (places : List (List Char)) : Nat :=
  places.foldl (fun value place => value * 60 + digitsValue 10 place) 0

/-- Whether a text starts with a digit and goes on with digits and
underscores. -/
def isGrouped (text : List Char) : Bool :=
  text.head?.any Char.isDigit && allDigits Char.isDigit text

/-- A number in a base; there have to be digits besides underscores. -/
def basedValue (base : Nat) (digits : List Char) : Except Error Nat :=
  if digits.all (· == '_') then
    .error (.value ("invalid literal for int() with base " ++ toString base ++ ": ''"))
  else .ok (digitsValue base digits)

/-- A decimal number, which has a limited number of digits. -/
def decimalValue (digits : List Char) : Except Error Nat :=
  let count := (digits.filter (· != '_')).length
  if 4300 < count then
    .error (.value ("Exceeds the limit (4300 digits) for integer string conversion: value has " ++
      toString count ++ " digits; use sys.set_int_max_str_digits() to increase the limit"))
  else .ok (digitsValue 10 digits)

/-- The whole number without a sign that a text is written like, if any. -/
def wholeNumber? (text : List Char) : Option (Except Error Nat) :=
  match text with
  | '0' :: 'b' :: digits =>
      if allDigits (fun c => c == '0' || c == '1') digits then some (basedValue 2 digits)
      else none
  | '0' :: 'x' :: digits =>
      if allDigits (fun c => (Text.hexValue? c).isSome) digits then some (basedValue 16 digits)
      else none
  | ['0'] => some (.ok 0)
  | '0' :: digits =>
      if allDigits (fun c => '0' ≤ c && c ≤ '7') digits then some (.ok (digitsValue 8 digits))
      else none
  | _ =>
      match text.splitOn ':' with
      | [digits] => if isGrouped digits then some (decimalValue digits) else none
      | first :: places =>
          if isGrouped first && places.all isSixtieth then
            some (.ok (sixtiesValue (first :: places)))
          else none
      | [] => none

/-- The whole number that a text is written like, if any. -/
def integer? (text : List Char) : Option (Except Error Int) :=
  let (negative, unsigned) := Text.takeSign text
  (wholeNumber? unsigned).map fun value =>
    value.map fun (n : Nat) => if negative then -(n : Int) else (n : Int)

/-- Whether a text is an exponent, or nothing. -/
def isExponent (text : List Char) : Bool :=
  match text with
  | [] => true
  | e :: sign :: digits =>
      (e == 'e' || e == 'E') && (sign == '+' || sign == '-') && !digits.isEmpty &&
        digits.all Char.isDigit
  | _ => false

/-- Adds places that count sixty times the place behind them, and of which the
last counts sixty, to a double.  They are added from the last to the first, and
each sum is rounded. -/
def addSixties (places : List (List Char)) (last : Binary64) : Binary64 :=
  (places.foldr (fun place (sum : Binary64 × Nat) =>
    (sum.1.addWhole (digitsValue 10 place * sum.2), sum.2 * 60)) (last, 60)).1

/-- The number with a point that a text without a sign is written like, if any.
Without digits in front of the point no sign may stand there. -/
def pointed? (negative signed : Bool) (text : List Char) : Option Binary64 :=
  let whole := text.takeWhile (· != '.')
  match text.dropWhile (· != '.') with
  | [] => none
  | _ :: rest =>
      let inFraction : Char → Bool := fun c => c.isDigit || c == '_'
      let fraction := rest.takeWhile inFraction
      let exponent := rest.dropWhile inFraction
      let plain := isExponent exponent &&
        (if whole.isEmpty then !signed && fraction.head?.any Char.isDigit else isGrouped whole)
      if plain then Text.magnitudeValue? negative (text.filter (· != '_'))
      else
        let places := whole.splitOn ':'
        let counted := 1 < places.length && places.head?.any isGrouped &&
          places.tail.all isSixtieth
        if exponent.isEmpty && counted then
          let digits := fraction.filter (· != '_')
          places.getLast?.map fun last =>
            addSixties places.dropLast
              (.ofDecimal negative (digitsValue 10 (last ++ digits)) (-digits.length))
        else none

/-- The words for infinity behind a point. -/
def infinityWords : List String := [".inf", ".Inf", ".INF"]

/-- The words for what is no number. -/
def nanWords : List String := [".nan", ".NaN", ".NAN"]

/-- The double that a text is written like, if any. -/
def double? (text : List Char) : Option Binary64 :=
  let (negative, unsigned) := Text.takeSign text
  if infinityWords.contains (String.ofList unsigned) then some (.infinite negative)
  else if nanWords.contains (String.ofList text) then some .nan
  else pointed? negative (unsigned.length < text.length) unsigned

/-! ## Dates -/

/-- Takes digits, at least and at most as many as given. -/
def takeDigits? (least most : Nat) (text : List Char) : Option (Nat × List Char) :=
  let digits := (text.takeWhile Char.isDigit).take most
  if digits.length < least then none
  else some (digitsValue 10 digits, text.drop digits.length)

/-- Takes a sign and then digits. -/
def takeField? (sign : Char) (least : Nat) (text : List Char) : Option (Nat × List Char) :=
  match text with
  | c :: rest => if c == sign then takeDigits? least 2 rest else none
  | [] => none

/-- Takes a year, a month and a day. -/
def takeDate? (least : Nat) (text : List Char) : Option ((Nat × Nat × Nat) × List Char) := do
  let (year, afterYear) ← takeDigits? 4 4 text
  let (month, afterMonth) ← takeField? '-' least afterYear
  let (day, rest) ← takeField? '-' least afterMonth
  return ((year, month, day), rest)

/-- Takes an hour, a minute and a second. -/
def takeClock? (text : List Char) : Option ((Nat × Nat × Nat) × List Char) := do
  let (hour, afterHour) ← takeDigits? 1 2 text
  let (minute, afterMinute) ← takeField? ':' 2 afterHour
  let (second, rest) ← takeField? ':' 2 afterMinute
  return ((hour, minute, second), rest)

/-- Whether a text is the name of a zone, or nothing. -/
def isZone (text : List Char) : Bool :=
  match text.dropWhile fun c => c == ' ' || c == '\t' with
  | [] => text.isEmpty
  | ['Z'] => true
  | sign :: rest =>
      (sign == '+' || sign == '-') &&
        match takeDigits? 1 2 rest with
        | none => false
        | some (_, []) => true
        | some (_, after) =>
            match takeField? ':' 2 after with
            | some (_, []) => true
            | _ => false

/-- Passes over what stands between a date and a time of day. -/
def dropSeparator? (text : List Char) : Option (List Char) :=
  match text with
  | 'T' :: rest => some rest
  | 't' :: rest => some rest
  | c :: rest =>
      if c == ' ' || c == '\t' then some (rest.dropWhile fun d => d == ' ' || d == '\t')
      else none
  | [] => none

/-- Passes over the fraction of a second. -/
def dropFraction : List Char → List Char
  | '.' :: rest => rest.dropWhile Char.isDigit
  | text => text

def daysInMonth (year month : Nat) : Nat :=
  if month == 2 then
    if year % 4 == 0 && (year % 100 != 0 || year % 400 == 0) then 29 else 28
  else if [4, 6, 9, 11].contains month then 30
  else 31

def checkDate : Nat × Nat × Nat → Except Error Unit
  | (year, month, day) =>
      if year == 0 then .error (.value "year 0 is out of range")
      else if month == 0 || 12 < month then .error (.value "month must be in 1..12")
      else if day == 0 || daysInMonth year month < day then
        .error (.value "day is out of range for month")
      else .ok ()

/-- Checks that a time of day exists. -/
def checkClock : Nat × Nat × Nat → Except Error Unit
  | (hour, minute, second) =>
      if 23 < hour then .error (.value "hour must be in 0..23")
      else if 59 < minute then .error (.value "minute must be in 0..59")
      else if 59 < second then .error (.value "second must be in 0..59")
      else .ok ()

/-- A date with a time of day that a text is written like, if any. -/
def datedTime? (text : List Char) : Option (Except Error SettingValue) := do
  let (date, afterDate) ← takeDate? 1 text
  let (clock, rest) ← takeClock? (← dropSeparator? afterDate)
  if isZone (dropFraction rest) then
    return (checkDate date).bind fun _ => (checkClock clock).map fun _ => .other "datetime"
  else none

/-- The date that a text is written like, if any. -/
def date? (text : List Char) : Option (Except Error SettingValue) :=
  match takeDate? 2 text with
  | some (date, []) => some ((checkDate date).map fun _ => .other "date")
  | _ => datedTime? text

/-! ## Scalars -/

def plainValue (text : String) : Except Error SettingValue :=
  let characters := text.toList
  match truthWords.lookup text, double? characters, integer? characters, date? characters with
  | some truth, _, _, _ => .ok (.truth truth)
  | _, some number, _, _ => .ok (.real number)
  | _, _, some number, _ => number.map .int
  | _, _, _, some date => date
  | none, none, none, none =>
      if nullWords.contains text then .ok .null
      else if text == "=" || text == "<<" then .error .meaning
      else .ok (.text text)

/-- The value that a text is written like.  Nothing but a text has surrogates. -/
def impliedValue (text : Text) : Except Error SettingValue :=
  match text.chars? with
  | some characters => plainValue (String.ofList characters)
  | none => .ok (.text text)

/-- Whether a value is of the kind that a tag names. -/
def hasTag (tag : String) : SettingValue → Bool
  | .null => tag == Node.standardTags ++ "null"
  | .truth _ => tag == Node.standardTags ++ "bool"
  | .int _ => tag == Node.standardTags ++ "int"
  | .real _ => tag == Node.standardTags ++ "float"
  | .text _ => false
  | .other _ => tag == Node.standardTags ++ "timestamp"

/-- Whether a scalar is what it is written like.  The tag without a name says so of any
scalar. -/
def isImplied (tag : Option String) (plain : Bool) : Bool :=
  tag == some "!" || tag.isNone && plain

def scalarValue (tag : Option String) (plain : Bool) (text : Text) :
    Except Error SettingValue :=
  if isImplied tag plain then impliedValue text
  else
    match tag with
    | none => .ok (.text text)
    | some name =>
        if name == Node.standardTags ++ "str" then .ok (.text text)
        else
          match impliedValue text with
          | .error error => .error error
          | .ok value => if hasTag name value then .ok value else .error .meaning

/-- Whether a tag may stand in front of a node that has parts. -/
def isPartsTag (name : String) (tag : Option String) : Bool :=
  tag.all fun given => given == "!" || given == Node.standardTags ++ name

/-! ## Merging -/

/-- Whether the value of a key is merged into the mapping. -/
def Node.isMerge : Node → Bool
  | .scalar tag plain text =>
      isImplied tag plain && text == "<<" || tag == some (standardTags ++ "merge")
  | .sequence tag _ => tag == some (standardTags ++ "merge")
  | .mapping tag _ => tag == some (standardTags ++ "merge")

/-- The entries of a mapping. -/
def Node.ownEntries : Node → Except Error (List (Node × Node))
  | .mapping _ entries => .ok entries
  | _ => .error .meaning

/-- The entries that are taken over from a node that is merged.  Of several mappings
the first one counts most, so it comes last. -/
def Node.mergedEntries : Node → Except Error (List (Node × Node))
  | .sequence _ items => (items.reverse.mapM Node.ownEntries).map List.flatten
  | node => node.ownEntries

mutual

/-- A node in which every mapping holds what it merges. -/
def Node.flatten : Node → Except Error Node
  | .scalar tag plain text => .ok (.scalar tag plain text)
  | .sequence tag items => (Node.flattenAll items).map (.sequence tag)
  | .mapping tag entries =>
      (Node.flattenEntries entries).map fun (merged, own) => .mapping tag (merged ++ own)

def Node.flattenAll : List Node → Except Error (List Node)
  | [] => .ok []
  | item :: rest =>
      match item.flatten with
      | .error error => .error error
      | .ok flat => (Node.flattenAll rest).map (flat :: ·)

/-- The entries that a mapping merges, and its own ones. -/
def Node.flattenEntries :
    List (Node × Node) → Except Error (List (Node × Node) × List (Node × Node))
  | [] => .ok ([], [])
  | (key, value) :: rest =>
      match value.flatten, Node.flattenEntries rest with
      | .error error, _ => .error error
      | _, .error error => .error error
      | .ok flat, .ok (merged, own) =>
          if key.isMerge then flat.mergedEntries.map fun taken => (taken ++ merged, own)
          else .ok (merged, (key, flat) :: own)

end

/-! ## Nodes -/

mutual

def Node.value : Node → Except Error SettingValue
  | .scalar tag plain text => scalarValue tag plain text
  | .sequence tag items =>
      if isPartsTag "seq" tag then (Node.checkAll items).map fun _ => .other "list"
      else .error .meaning
  | .mapping tag entries =>
      if isPartsTag "map" tag then (Node.entryValues entries).map fun _ => .other "dict"
      else .error .meaning

def Node.checkAll : List Node → Except Error Unit
  | [] => .ok ()
  | item :: rest =>
      match item.value with
      | .error error => .error error
      | .ok _ => Node.checkAll rest

/-- The values of the entries of a mapping.  No key may have parts. -/
def Node.entryValues : List (Node × Node) → Except Error (List (SettingValue × SettingValue))
  | [] => .ok []
  | (key, value) :: rest =>
      match Node.keyValue key, value.value with
      | .error error, _ => .error error
      | _, .error error => .error error
      | .ok keyValue, .ok entryValue =>
          (Node.entryValues rest).map ((keyValue, entryValue) :: ·)

def Node.keyValue : Node → Except Error SettingValue
  | .scalar tag plain text =>
      if isImplied tag plain && text == "=" || tag == some (standardTags ++ "value") then
        .ok (.text text)
      else scalarValue tag plain text
  | _ => .error .meaning

end

/-- What a document without merges says about settings: its entries, or the name of the
type of anything else that is not empty. -/
def Node.flatEntries? (node : Node) :
    Except Error (Except String (List (SettingValue × SettingValue))) :=
  match node with
  | .mapping tag entries =>
      if isPartsTag "map" tag then (Node.entryValues entries).map .ok else .error .meaning
  | .sequence _ [] => .ok (.ok [])
  | other =>
      other.value.map fun
        | .null => .ok []
        | .truth value => if value then .error "bool" else .ok []
        | .int value => if value == 0 then .ok [] else .error "int"
        | .real value => if value.isZero then .ok [] else .error "float"
        | .text value => if value.isEmpty then .ok [] else .error "str"
        | .other typeName => .error typeName

/-- What a document says about settings. -/
def Node.entries? (node : Node) :
    Except Error (Except String (List (SettingValue × SettingValue))) :=
  match node.flatten with
  | .error error => .error error
  | .ok flat => flat.flatEntries?

end Tunables.Yaml
