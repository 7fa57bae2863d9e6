import ServiceBindings.Calendar
import ServiceBindings.Decimal.Reading
import ServiceBindings.Text.Base64
import ServiceBindings.Text.Number
import ServiceBindings.Text.Split
import ServiceBindings.Value

/-! # Tags and the values of scalars

A `Tag` says what kind of value a node of a YAML document is. `Tag.ofPlain` finds the tag of a scalar
without quotation marks **by the form of its text**, `Tag.ofName` the tag with a given name.

`Tag.scalar?` reads the text of a scalar under its tag. Numbers may hold underscores, which have no
meaning; a number with colons is written to the base sixty. -/

namespace ServiceBindings

namespace Yaml

/-- What kind of value a node is. -/
inductive Tag where
  /-- Null. -/
  | null
  /-- A flag. -/
  | flag
  /-- A whole number. -/
  | int
  /-- A binary number. -/
  | float
  /-- A day or a point in time. -/
  | timestamp
  /-- A text. -/
  | text
  /-- The key of mappings that are merged into the mapping. -/
  | merge
  /-- The key of the default value. -/
  | default
  /-- A string of bytes, written in the base sixty-four. -/
  | bytes
  /-- A list. -/
  | sequence
  /-- A list of pairs, written as mappings of one entry. -/
  | pairs
  /-- A mapping. -/
  | mapping
  /-- A set, written as the keys of a mapping. -/
  | set
  /-- A kind without values. -/
  | unknown
  deriving DecidableEq, Repr

/-! ## Forms of scalars -/

/-- The words of a flag, with its value. -/
def flagWords : List (String × Bool) :=
  [("yes", true), ("no", false), ("true", true), ("false", false), ("on", true), ("off", false)]

/-- A word in lower case, with a capital first letter, and in upper case. -/
def spellings (word : String) : List (List Char) :=
  let cs := word.toList
  [cs, (cs.take 1).map Char.toUpper ++ cs.drop 1, cs.map Char.toUpper]

/-- Whether a text is one of the spellings of a word. -/
def isSpelling (word : String) (cs : List Char) : Bool := (spellings word).contains cs

/-- A digit or an underscore. -/
def isDigitOrBlank (c : Char) : Bool := c.isDigit || c == '_'

/-- Whether a text is an exponent with a sign, or empty. -/
def isExponent : List Char → Bool
  | [] => true
  | mark :: sign :: digits =>
      (mark == 'e' || mark == 'E') && (sign == '+' || sign == '-') && !digits.isEmpty &&
        digits.all Char.isDigit
  | _ => false

/-- Whether a text is the sixtieth part of a number: one digit, or two of which the first is at most
five. -/
def isSixtieth : List Char → Bool
  | [d] => d.isDigit
  | [t, d] => t.isDigit && t.toNat ≤ 53 && d.isDigit
  | _ => false

/-- A text cut at its colons. -/
def colonParts (cs : List Char) : List (List Char) := Chars.splitWhere (· == ':') cs

/-- Whether a text without sign is a number in decimal notation with a point. -/
def isPointNumber (cs : List Char) : Bool :=
  match cs with
  | c :: _ =>
      c.isDigit &&
        match cs.dropWhile isDigitOrBlank with
        | '.' :: after => isExponent (after.dropWhile isDigitOrBlank)
        | _ => false
  | [] => false

/-- Whether a text without sign is a number to the base sixty with a point. -/
def isSixtyPointNumber (cs : List Char) : Bool :=
  match colonParts (cs.takeWhile (· != '.')), cs.dropWhile (· != '.') with
  | (c :: first) :: (p :: parts), '.' :: after =>
      c.isDigit && first.all isDigitOrBlank && (p :: parts).all isSixtieth &&
        after.all isDigitOrBlank
  | _, _ => false

/-- Whether a text has the form of a binary number. -/
def isFloat (cs : List Char) : Bool :=
  let body := Chars.unsigned cs
  isPointNumber body || isSixtyPointNumber body ||
    (match cs with
      | '.' :: d :: rest => d.isDigit && isExponent (rest.dropWhile isDigitOrBlank)
      | _ => false) ||
    (match body with
      | '.' :: word => ["inf", "Inf", "INF"].any fun w => w.toList == word
      | _ => false) ||
    (match cs with
      | '.' :: word => ["nan", "NaN", "NAN"].any fun w => w.toList == word
      | _ => false)

/-- Whether a text has the form of a whole number. -/
def isInt (cs : List Char) : Bool :=
  match Chars.unsigned cs with
  | ['0'] => true
  | '0' :: 'b' :: digits =>
      !digits.isEmpty && digits.all fun c => c == '0' || c == '1' || c == '_'
  | '0' :: 'x' :: digits =>
      !digits.isEmpty && digits.all fun c => (digitValue? c).isSome || c == '_'
  | '0' :: digits => digits.all fun c => (c.isDigit && c.toNat < 56) || c == '_'
  | c :: rest =>
      c.isDigit &&
        match colonParts rest with
        | first :: parts => first.all isDigitOrBlank && parts.all isSixtieth
        | [] => false
  | [] => false

/-- The numbers that a text with the form of a day or of a point in time writes. -/
structure TimeParts where
  /-- Year, month and day. -/
  day : List Char × List Char × List Char
  /-- Hour, minute, second, the digits after the point of the second, and the zone: its sign, hours and
  minutes, or nothing for universal time. -/
  clock : Option (List Char × List Char × List Char × List Char ×
    Option (Option (Char × List Char × List Char)))

/-- The digits at the start of a text, and the rest. -/
def digitsOf (cs : List Char) : List Char × List Char := cs.span Char.isDigit

/-- Read a zone and the end of the text. -/
def zoneParts? (cs : List Char) : Option (Option (Option (Char × List Char × List Char))) :=
  match cs.dropWhile fun c => c == ' ' || c == '\t' with
  | [] => if cs.isEmpty then some none else none
  | ['Z'] => some (some none)
  | sign :: rest =>
      if sign = '+' ∨ sign = '-' then
        match digitsOf rest with
        | (hours, after) =>
            if hours.length = 1 ∨ hours.length = 2 then
              match after with
              | [] => some (some (some (sign, hours, [])))
              | ':' :: minutes =>
                  if minutes.length = 2 ∧ minutes.all Char.isDigit then
                    some (some (some (sign, hours, minutes)))
                  else none
              | _ => none
            else none
      else none

/-- Read the time of day and the end of the text. -/
def clockParts? (cs : List Char) : Option (List Char × List Char × List Char × List Char ×
    Option (Option (Char × List Char × List Char))) :=
  match digitsOf cs with
  | (hour, ':' :: afterHour) =>
      match digitsOf afterHour with
      | (minute, ':' :: afterMinute) =>
          let (second, rest) := digitsOf afterMinute
          let (fraction, rest) := match rest with
            | '.' :: digits => digitsOf digits
            | _ => ([], rest)
          if (hour.length = 1 ∨ hour.length = 2) ∧ minute.length = 2 ∧ second.length = 2 then
            (zoneParts? rest).map fun zone => (hour, minute, second, fraction, zone)
          else none
      | _ => none
  | _ => none

/-- The parts of a text with the form of a day or of a point in time. -/
def timeParts? (cs : List Char) : Option TimeParts :=
  match digitsOf cs with
  | (year, '-' :: afterYear) =>
      match digitsOf afterYear with
      | (month, '-' :: afterMonth) =>
          let (day, rest) := digitsOf afterMonth
          if year.length = 4 ∧ (month.length = 1 ∨ month.length = 2) ∧
              (day.length = 1 ∨ day.length = 2) then
            match rest with
            | [] => some ⟨(year, month, day), none⟩
            | c :: after =>
                if c = 'T' ∨ c = 't' then
                  (clockParts? after).map fun clock => ⟨(year, month, day), some clock⟩
                else if c = ' ' ∨ c = '\t' then
                  (clockParts? (after.dropWhile fun d => d == ' ' || d == '\t')).map fun clock =>
                    ⟨(year, month, day), some clock⟩
                else none
          else none
      | _ => none
  | _ => none

/-- Whether a text has the form of a day or of a point in time. A day alone has a month and a day of
two digits. -/
def isTime (cs : List Char) : Bool :=
  match timeParts? cs with
  | some ⟨(_, month, day), none⟩ => month.length == 2 && day.length == 2
  | some _ => true
  | none => false

namespace Tag

/-- The characters of a text without one line feed at its end. -/
def formOf (text : String) : List Char :=
  let cs := text.toList
  if cs.getLast? = some '\n' then cs.dropLast else cs

/-- The tag of a scalar without quotation marks. A line feed at the end of its text does not count,
unless it is all of the text. -/
def ofPlain (text : String) : Tag :=
  let cs := formOf text
  if text = "\n" then .text
  else if flagWords.any fun (word, _) => isSpelling word cs then .flag
  else if isFloat cs then .float
  else if isInt cs then .int
  else if cs = ['<', '<'] then .merge
  else if cs = [] ∨ cs = ['~'] ∨ isSpelling "null" cs then .null
  else if isTime cs then .timestamp
  else if cs = ['='] then .default
  else if cs = ['!'] ∨ cs = ['&'] ∨ cs = ['*'] then .unknown
  else .text

/-- The namespace of the tags that every document knows. -/
def standardStart : String := "tag:yaml.org,2002:"

/-- The tags that every document knows. -/
def standard : List (String × Tag) :=
  [("null", .null), ("bool", .flag), ("int", .int), ("float", .float), ("timestamp", .timestamp),
    ("str", .text), ("binary", .bytes), ("merge", .merge), ("value", .default), ("seq", .sequence),
    ("omap", .pairs), ("pairs", .pairs), ("map", .mapping), ("set", .set)]

/-- The tag with a given name. -/
def ofName (name : String) : Tag :=
  match standard.find? fun (word, _) => standardStart ++ word == name with
  | some (_, tag) => tag
  | none => .unknown

end Tag

/-! ## Values of scalars -/

/-- A text without its underscores. -/
def withoutBlanks (cs : List Char) : List Char := cs.filter (· != '_')

/-- The number whose parts to the base sixty are given. -/
def ofSixtieths? (parts : List (List Char)) : Option Int :=
  parts.foldlM (fun n part => (Chars.int? 10 part).map (n * 60 + ·)) 0

/-- Read a whole number after its sign. Zero in front means the base eight, unless a letter follows that
means another base. -/
def wholeOfText? (cs : List Char) : Option Int :=
  match cs with
  | [] => none
  | ['0'] => some 0
  | '0' :: 'b' :: digits => Chars.int? 2 digits
  | '0' :: 'x' :: digits => Chars.int? 16 digits
  | '0' :: _ => Chars.int? 8 cs
  | _ => ofSixtieths? (colonParts cs)

/-- Read a whole number. -/
def intOfText? (text : String) : Option Int :=
  let cs := withoutBlanks text.toList
  (wholeOfText? (Chars.unsigned cs)).map fun n => if cs.head? = some '-' then -n else n

/-- The number whose parts to the base sixty are given, the last one first. -/
def sumOfSixtieths? : List (List Char) → Float → Float → Option Float
  | [], _, sum => some sum
  | part :: rest, base, sum =>
      (Chars.float? part).bind fun x => sumOfSixtieths? rest (base * 60) (sum + x * base)

/-- Read a binary number. -/
def floatOfText? (text : String) : Option Float :=
  let cs := (withoutBlanks text.toList).map Char.toLower
  let body := Chars.unsigned cs
  let magnitude :=
    if body = ".inf".toList then some (1.0 / 0.0)
    else if body = ".nan".toList then some (0.0 / 0.0)
    else if body.contains ':' then sumOfSixtieths? (colonParts body).reverse 1 0
    else Chars.float? body
  magnitude.map fun x => if cs.head? = some '-' then -x else x

/-- The minutes that a zone is ahead of universal time. -/
def zoneMinutes (zone : Option (Option (Char × List Char × List Char))) : Option Int :=
  zone.map fun
    | some (sign, hours, minutes) =>
        let ahead : Int := (natOfDecimal hours * 60 + natOfDecimal minutes : Nat)
        if sign = '-' then -ahead else ahead
    | none => 0

/-- Read a day or a point in time. -/
def timeOfText? (text : String) : Option Scalar :=
  (timeParts? (Tag.formOf text)).bind fun ⟨(year, month, day), clock⟩ =>
    (Date.ofNumbers? (natOfDecimal year) (natOfDecimal month) (natOfDecimal day)).bind fun date =>
      match clock with
      | none => some (.date date)
      | some (hour, minute, second, fraction, zone) =>
          let micro := natOfDecimal ((fraction ++ List.replicate 6 '0').take 6)
          (Timestamp.ofNumbers? date (natOfDecimal hour) (natOfDecimal minute)
            (natOfDecimal second) micro (zoneMinutes zone)).map .timestamp

namespace Tag

/-- The scalar that a text writes under a tag. -/
def scalar? (tag : Tag) (text : String) : Option Scalar :=
  match tag with
  | .null => some .null
  | .flag =>
      (flagWords.lookup (.ofList (text.toList.map Char.toLower))).map .flag
  | .int => (intOfText? text).map .int
  | .float => (floatOfText? text).map .float
  | .timestamp => timeOfText? text
  | .text => some (.text text)
  | .bytes => (Base64.decode? text).map .bytes
  | _ => none

end Tag

end Yaml

end ServiceBindings
