import ServiceBindings.Text.Split

/-! # Bytes to the base sixty-four

`Base64.decode?` reads a text in which four characters stand for three bytes. Characters outside the
alphabet do not count. One or two equality signs stand for what is missing in the last group of four;
the text ends where they complete the group. -/

namespace ServiceBindings

namespace Base64

/-- The characters that stand for the numbers from zero to sixty-three. -/
def alphabet : List Char :=
  "ABCDEFGHIJKLMNOPQRSTUVWXYZabcdefghijklmnopqrstuvwxyz0123456789+/".toList

/-- The number that a character stands for. -/
def value? (c : Char) : Option Nat := alphabet.idxOf? c

/-- The bytes of a group of numbers: one fewer than there are numbers. -/
def bytesOf : List Nat → List UInt8
  | [a, b] => [.ofNat (a * 4 + b / 16)]
  | [a, b, c] => [.ofNat (a * 4 + b / 16), .ofNat (b % 16 * 16 + c / 4)]
  | [a, b, c, d] =>
      [.ofNat (a * 4 + b / 16), .ofNat (b % 16 * 16 + c / 4), .ofNat (c % 4 * 64 + d)]
  | _ => []

/-- Read on, after the numbers `group` of a group that is not complete and `missing` equality signs. -/
def decodeFrom? (group : List Nat) (missing : Nat) : List Char → Option (List UInt8)
  | [] => if group.isEmpty then some [] else none
  | c :: rest =>
      if c = '=' then
        if group.length < 2 then decodeFrom? group missing rest
        else if 4 ≤ group.length + missing + 1 then some (bytesOf group)
        else decodeFrom? group (missing + 1) rest
      else
        match value? c with
        | none => decodeFrom? group missing rest
        | some n =>
            if group.length = 3 then
              (decodeFrom? [] 0 rest).map (bytesOf (group ++ [n]) ++ ·)
            else decodeFrom? (group ++ [n]) 0 rest

/-- The bytes that an ASCII text stands for. -/
def decode? (text : String) : Option (List UInt8) :=
  if text.toList.all fun c => c.toNat < 128 then decodeFrom? [] 0 text.toList else none

end Base64

end ServiceBindings
