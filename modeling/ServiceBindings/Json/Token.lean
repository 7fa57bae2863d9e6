import ServiceBindings.Value
import ServiceBindings.Decimal.Reading
import ServiceBindings.Text.Surrogate

/-! # The tokens of JSON text

`Json.tokens?` cuts a text into brackets, separators and literals; it has no result where a character
begins no token.

* Each scanner looks at the text from the start of a token and says **what the token is and how many
  characters it takes**; `Json.tokensAfter?` passes over the characters of a token that is already
  read, so that it recurs on the text itself.
* A string is read as sixteen-bit units, since the escapes of a character beyond that range come in
  pairs; `charsOfUnits` puts the pairs together. A surrogate without its other half stays one, so that
  reading needs to know what stands for surrogates.
* Besides the literals of the JSON grammar the names `NaN`, `Infinity` and `-Infinity` are numbers. -/

namespace ServiceBindings

namespace Json

/-- A token of a JSON text. -/
inductive Token where
  /-- An opening square bracket. -/
  | beginList
  /-- A closing square bracket. -/
  | endList
  /-- An opening brace. -/
  | beginMap
  /-- A closing brace. -/
  | endMap
  /-- The separator of items and of entries. -/
  | comma
  /-- The separator of a key and its value. -/
  | colon
  /-- A literal. -/
  | scalar (value : Scalar)
  deriving DecidableEq, Inhabited

/-- The unit that a letter after a backslash stands for. -/
def unitOfEscape? (c : Char) : Option Nat :=
  match c with
  | '"' => some 34
  | '\\' => some 92
  | '/' => some 47
  | 'b' => some 8
  | 'f' => some 12
  | 'n' => some 10
  | 'r' => some 13
  | 't' => some 9
  | _ => none

/-- Read a string after its opening quotation mark: its units, the last one first, in front of
`units`, and the number of characters up to and with the closing mark, counted on from `taken`. -/
def scanStringFrom (units : List Nat) (taken : Nat) : List Char → Option (List Nat × Nat)
  | [] => none
  | '"' :: _ => some (units, taken + 1)
  | '\\' :: 'u' :: a :: b :: c :: d :: rest =>
      match natOfDigits? 16 [a, b, c, d] with
      | some unit => scanStringFrom (unit :: units) (taken + 6) rest
      | none => none
  | '\\' :: c :: rest =>
      match unitOfEscape? c with
      | some unit => scanStringFrom (unit :: units) (taken + 2) rest
      | none => none
  | c :: rest =>
      if c.toNat < 32 ∨ c = '\\' then none else scanStringFrom (c.toNat :: units) (taken + 1) rest

/-- The character of a unit that stands alone. -/
def charOfUnit (surrogates : SurrogateBlock) (unit : Nat) : Char :=
  if isSurrogate unit then surrogates.char unit else Char.ofNat unit

/-- The characters that units make: a high and a low surrogate side by side are one character. -/
def charsOfUnits (surrogates : SurrogateBlock) : List Nat → List Char
  | [] => []
  | high :: low :: rest =>
      if 0xD800 ≤ high ∧ high < 0xDC00 ∧ 0xDC00 ≤ low ∧ low < 0xE000 then
        Char.ofNat (0x10000 + (high - 0xD800) * 0x400 + (low - 0xDC00)) :: charsOfUnits surrogates rest
      else charOfUnit surrogates high :: charsOfUnits surrogates (low :: rest)
  | [unit] => [charOfUnit surrogates unit]

/-- Read a string after its opening quotation mark. -/
def scanString (surrogates : SurrogateBlock) (cs : List Char) : Option (String × Nat) :=
  (scanStringFrom [] 0 cs).map fun (units, taken) =>
    (String.ofList (charsOfUnits surrogates units.reverse), taken)

/-- The digits at the start of a text. -/
def leadingDigits (cs : List Char) : List Char := cs.takeWhile Char.isDigit

/-- The digits of a whole number without sign: a zero stands alone. -/
def wholeDigits (cs : List Char) : List Char :=
  match cs with
  | '0' :: _ => ['0']
  | _ => leadingDigits cs

/-- The digits after a decimal point. -/
def fractionDigits (cs : List Char) : List Char :=
  match cs with
  | '.' :: rest => leadingDigits rest
  | _ => []

/-- The exponent at the start of a text, with the number of characters it takes; no exponent takes
none. -/
def scanExponent (cs : List Char) : Int × Nat :=
  match cs with
  | mark :: rest =>
      if mark = 'e' ∨ mark = 'E' then
        let (negative, signs) :=
          match rest with
          | '-' :: _ => (true, 1)
          | '+' :: _ => (false, 1)
          | _ => (false, 0)
        let digits := leadingDigits (rest.drop signs)
        let power : Int := natOfDecimal digits
        if digits.isEmpty then (0, 0)
        else (if negative then -power else power, 1 + signs + digits.length)
      else (0, 0)
  | [] => (0, 0)

/-- Read a number without its sign. It is a whole number unless it has a fraction or an exponent. -/
def scanMagnitude (negative : Bool) (cs : List Char) : Option (Scalar × Nat) :=
  let whole := wholeDigits cs
  if whole.isEmpty then none
  else
    let fraction := fractionDigits (cs.drop whole.length)
    let afterFraction := whole.length + (if fraction.isEmpty then 0 else fraction.length + 1)
    let (power, powerLength) := scanExponent (cs.drop afterFraction)
    if fraction.isEmpty ∧ powerLength = 0 then
      let n : Int := natOfDecimal whole
      some (.int (if negative then -n else n), whole.length)
    else
      let magnitude :=
        Decimal.toFloat ⟨natOfDecimal (whole ++ fraction), power - (fraction.length : Int)⟩
      some (.float (if negative then -magnitude else magnitude), afterFraction + powerLength)

/-- Read a number. -/
def scanNumber (cs : List Char) : Option (Scalar × Nat) :=
  match cs with
  | '-' :: rest => (scanMagnitude true rest).map fun (s, taken) => (s, taken + 1)
  | _ => scanMagnitude false cs

/-- The literals that are written as a name. -/
def names : List (List Char × Scalar) :=
  [("null".toList, .null), ("true".toList, .flag true), ("false".toList, .flag false),
    ("NaN".toList, .float (0.0 / 0.0)), ("Infinity".toList, .float (1.0 / 0.0)),
    ("-Infinity".toList, .float (-(1.0 / 0.0)))]

/-- Read a literal. -/
def scanLiteral (cs : List Char) : Option (Scalar × Nat) :=
  match names.find? fun (name, _) => name.isPrefixOf cs with
  | some (name, s) => some (s, name.length)
  | none => scanNumber cs

/-- The token at the start of a text and the number of characters it takes. -/
def scanToken (surrogates : SurrogateBlock) (cs : List Char) : Option (Token × Nat) :=
  match cs with
  | [] => none
  | '[' :: _ => some (.beginList, 1)
  | ']' :: _ => some (.endList, 1)
  | '\x7b' :: _ => some (.beginMap, 1)
  | '\x7d' :: _ => some (.endMap, 1)
  | ',' :: _ => some (.comma, 1)
  | ':' :: _ => some (.colon, 1)
  | '"' :: rest => (scanString surrogates rest).map fun (s, taken) => (.scalar (.text s), taken + 1)
  | _ => (scanLiteral cs).map fun (s, taken) => (.scalar s, taken)

/-- The characters that may stand between tokens. -/
def isSpace (c : Char) : Bool := c == ' ' || c == '\t' || c == '\n' || c == '\r'

/-- The tokens of a text whose first `skip` characters belong to a token that is already read, after
the tokens `done`, which stand in reverse order. -/
def tokensAfter? (surrogates : SurrogateBlock) (done : List Token) :
    Nat → List Char → Option (List Token)
  | _, [] => some done.reverse
  | skip + 1, _ :: rest => tokensAfter? surrogates done skip rest
  | 0, c :: rest =>
      if isSpace c then tokensAfter? surrogates done 0 rest
      else
        match scanToken surrogates (c :: rest) with
        | some (token, taken) => tokensAfter? surrogates (token :: done) (taken - 1) rest
        | none => none

/-- The tokens of a text. -/
def tokens? (surrogates : SurrogateBlock) (text : String) : Option (List Token) :=
  tokensAfter? surrogates [] 0 text.toList

end Json

end ServiceBindings
