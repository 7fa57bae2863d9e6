import ServiceBindings.Decimal.Reading
import ServiceBindings.Text.Split

/-! # Numbers of hosts

The number of a host has four parts with dots between them (`HostNumber.isQuartered`), or up to eight parts
to the base sixteen with colons between them (`HostNumber.isHexadecimal`). Of the latter, **one run of zeros**
may be left out between two colons, and the last two parts may be written as four. -/

namespace ServiceBindings

namespace HostNumber

/-- Whether a text is one of four parts: up to three digits without a zero in front, at most 255. -/
def isQuarter (cs : List Char) : Bool :=
  cs.all Char.isDigit && (cs.head? != some '0' || cs.length == 1) &&
    (natOfDigits? 10 cs).any fun n => n ≤ 255

/-- Whether a text is a number in four parts. -/
def isQuartered (cs : List Char) : Bool :=
  let parts := Chars.splitWhere (· == '.') cs
  parts.length == 4 && parts.all isQuarter

/-- Whether a text has the look of a number in four parts: runs of digits with any one character between
neighbours, where `more` runs follow the first one. -/
def looksQuartered : Nat → List Char → Bool
  | _, [] => false
  | more, c :: rest =>
      c.isDigit &&
        ((more == 0 && rest.isEmpty) || looksQuartered more rest ||
          match more, rest with
          | more + 1, _ :: after => looksQuartered more after
          | _, _ => false)

/-- Whether a text is a part to the base sixteen. -/
def isHexadecimalPart (cs : List Char) : Bool :=
  1 ≤ cs.length && cs.length ≤ 4 && (natOfDigits? 16 cs).isSome

/-- The parts between colons with the four parts at the end, if there are any, replaced by two. -/
def withoutQuarters? (parts : List (List Char)) : Option (List (List Char)) :=
  match parts.getLast? with
  | none => none
  | some last =>
      if !last.contains '.' then some parts
      else if isQuartered last then some (parts.dropLast ++ [['0'], ['0']])
      else none

/-- Parts between colons, of which an empty one at the beginning stands in front of another one: the two
are one. -/
def withoutLead? : List (List Char) → Option (List (List Char))
  | [] :: [] :: rest => some ([] :: rest)
  | [] :: _ => none
  | parts => some parts

/-- Whether parts are a number: eight parts, or fewer where one is empty. -/
def isComplete (parts : List (List Char)) : Bool :=
  let written := parts.filter (!·.isEmpty)
  written.all isHexadecimalPart &&
    match parts.length - written.length with
    | 0 => written.length == 8
    | 1 => written.length ≤ 7
    | _ => false

/-- Whether a text is a number to the base sixteen. -/
def isHexadecimal (cs : List Char) : Bool :=
  let parts := Chars.splitWhere (· == ':') cs
  3 ≤ parts.length &&
    (((withoutQuarters? parts).bind withoutLead?).bind fun parts =>
      withoutLead? parts.reverse).any isComplete

/-- Whether a text is a number to the base sixteen, with the name of a connection after a percent sign if
there is one. -/
def isHexadecimalOn (cs : List Char) : Bool :=
  let (number, connection) := cs.span (· != '%')
  isHexadecimal number && !cs.contains '/' &&
    match connection with
    | [] => true
    | _ :: name => !name.isEmpty && !name.contains '%'

end HostNumber

end ServiceBindings
