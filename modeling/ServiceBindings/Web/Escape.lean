import ServiceBindings.Text.Printable
import ServiceBindings.Decimal.Reading

/-! # Escapes in addresses

`escapeAll` writes characters that a part of an address cannot hold as their bytes, each behind a percent
sign in two digits to the base sixteen. `unescapedBytes` are the bytes of a text with such escapes. -/

namespace ServiceBindings

/-- A byte as an escape. -/
def escapeByte (b : UInt8) : List Char := '%' :: (Text.hex 2 b.toNat).map Char.toUpper

/-- Escape the characters that are not allowed: those of a text, and all but the printed ones of
ASCII. -/
def escapeAll (forbidden : String) (cs : List Char) : String :=
  .ofList (cs.flatMap fun c =>
    if 32 < c.toNat ∧ c.toNat < 127 ∧ !forbidden.toList.contains c then [c]
    else c.toString.toUTF8.toList.flatMap escapeByte)

/-- The bytes of a text in which some are escaped. -/
def unescapedBytes : List Char → List UInt8
  | [] => []
  | '%' :: h :: l :: rest =>
      match natOfDigits? 16 [h, l] with
      | some n => .ofNat n :: unescapedBytes rest
      | none => 37 :: unescapedBytes (h :: l :: rest)
  | c :: rest => c.toString.toUTF8.toList ++ unescapedBytes rest

end ServiceBindings
