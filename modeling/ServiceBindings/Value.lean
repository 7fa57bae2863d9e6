import ServiceBindings.Entries
import ServiceBindings.Calendar
import ServiceBindings.Decimal.Notation
import ServiceBindings.Text.Printable

/-! # Document values

The values that a loaded document is made of:

* `Scalar`: null, flags, whole numbers of any size, binary numbers, texts, dates, timestamps and
  strings of bytes. A scalar is also what a mapping has as a key.
* `Value`: a scalar, a list, a mapping, or a set of scalars. The entries of a mapping are **ordered**;
  `Value.mapping` builds one from pairs, where a repeated key keeps its first place and takes its last
  value.
* `Scalar.sameKey` decides which keys are the same: numbers by their exact value, whatever their
  kind, where the flags count as 0 and 1.
* `Value.get?` looks a text key up, `Value.referenceTexts` are the texts under the key `$ref`
  anywhere in a value. -/

namespace ServiceBindings

/-- A value without parts. -/
inductive Scalar where
  /-- The absent value. -/
  | null
  /-- True or false. -/
  | flag (value : Bool)
  /-- A whole number. -/
  | int (value : Int)
  /-- A binary floating-point number. -/
  | float (value : Float)
  /-- A text. -/
  | text (value : String)
  /-- A day. -/
  | date (value : Date)
  /-- A point in time. -/
  | timestamp (value : Timestamp)
  /-- A string of bytes. -/
  | bytes (value : List UInt8)
  deriving DecidableEq, Inhabited

namespace Scalar

/-- How numbers are displayed. -/
def displayNotation : NumberNotation where
  plainFrom := -4
  plainBelow := 16
  undefinedName := "nan"
  infinityName := "inf"

/-- The text that a scalar is displayed as where a name is wanted. -/
def display : Scalar → String
  | .null => "None"
  | .flag true => "True"
  | .flag false => "False"
  | .int n => toString n
  | .float x => displayNotation.text x
  | .text s => s
  | .date d => d.text
  | .timestamp t => t.text " "
  | .bytes bs => "b" ++ Text.quotedBytes bs

/-- The name of a scalar's kind. -/
def kindName : Scalar → String
  | .null => "NoneType"
  | .flag _ => "bool"
  | .int _ => "int"
  | .float _ => "float"
  | .text _ => "str"
  | .date _ => "datetime.date"
  | .timestamp _ => "datetime.datetime"
  | .bytes _ => "bytes"

/-- A finite number as a quotient of a whole number and a positive natural; `none` for every other
scalar. -/
def quotient? : Scalar → Option (Int × Nat)
  | .flag b => some (if b then 1 else 0, 1)
  | .int n => some (n, 1)
  | .float x =>
      let fields := FloatFields.ofBits x.toBits.toNat
      if !fields.isFinite then none
      else
        let (num, den) := (Binary.ofFields fields).quotient
        some (if fields.negative then -(num : Int) else num, den)
  | _ => none

/-- Whether two scalars are the same key: numbers by value, timestamps by instant, all else by
equality. -/
def sameKey (a b : Scalar) : Bool :=
  match a.quotient?, b.quotient? with
  | some (n, d), some (m, e) => n * e == m * d
  | none, none =>
      match a, b with
      | .timestamp s, .timestamp t => s.sameInstant t
      | _, _ => decide (a = b)
  | _, _ => false

/-- Texts are the same key exactly when they are equal. -/
@[simp] theorem sameKey_text (s t : String) : sameKey (.text s) (.text t) = decide (s = t) := by
  simp [sameKey, quotient?]

end Scalar

/-- A value of a loaded document. -/
inductive Value where
  /-- A value without parts. -/
  | scalar (value : Scalar)
  /-- A list of values. -/
  | list (items : List Value)
  /-- A mapping, by its entries in order. -/
  | map (entries : List (Scalar × Value))
  /-- A set of scalars. -/
  | set (members : List Scalar)
  deriving Inhabited

namespace Value

/-! ## Equality -/

mutual

/-- Whether two values are equal. -/
def same : Value → Value → Bool
  | .scalar s, .scalar t => decide (s = t)
  | .list xs, .list ys => sameItems xs ys
  | .map xs, .map ys => sameEntries xs ys
  | .set xs, .set ys => decide (xs = ys)
  | _, _ => false

/-- Whether two lists of values are equal. -/
def sameItems : List Value → List Value → Bool
  | [], [] => true
  | v :: vs, w :: ws => same v w && sameItems vs ws
  | _, _ => false

/-- Whether two lists of entries are equal. -/
def sameEntries : List (Scalar × Value) → List (Scalar × Value) → Bool
  | [], [] => true
  | (k, v) :: vs, (l, w) :: ws => decide (k = l) && same v w && sameEntries vs ws
  | _, _ => false

end

mutual

/-- The comparison decides equality of values. -/
theorem same_iff : ∀ v w : Value, same v w = true ↔ v = w
  | .scalar s, w => by cases w <;> simp [same]
  | .list xs, w => by cases w <;> simp [same, sameItems_iff]
  | .map xs, w => by cases w <;> simp [same, sameEntries_iff]
  | .set xs, w => by cases w <;> simp [same]

/-- The comparison decides equality of lists of values. -/
theorem sameItems_iff : ∀ vs ws : List Value, sameItems vs ws = true ↔ vs = ws
  | [], ws => by cases ws <;> simp [sameItems]
  | v :: vs, [] => by simp [sameItems]
  | v :: vs, w :: ws => by simp [sameItems, same_iff v w, sameItems_iff vs ws]

/-- The comparison decides equality of lists of entries. -/
theorem sameEntries_iff : ∀ vs ws : List (Scalar × Value), sameEntries vs ws = true ↔ vs = ws
  | [], ws => by cases ws <;> simp [sameEntries]
  | v :: vs, [] => by simp [sameEntries]
  | (k, v) :: vs, (l, w) :: ws => by
      simp [sameEntries, same_iff v w, sameEntries_iff vs ws]

end

instance : DecidableEq Value := fun v w => decidable_of_iff _ (same_iff v w)

/-! ## Parts -/

/-- The absent value. -/
abbrev null : Value := .scalar .null

/-- A text. -/
abbrev text (s : String) : Value := .scalar (.text s)

/-- The mapping that a list of pairs makes. -/
def mapping (pairs : List (Scalar × Value)) : Value :=
  .map (Entries.ofListBy Scalar.sameKey pairs)

/-- The set of the given scalars, without repetition. -/
def ofMembers (members : List Scalar) : Value :=
  .set ((Entries.ofListBy Scalar.sameKey (members.map (·, ()))).map Prod.fst)

/-- The value under a text key in the entries of a mapping. -/
def lookupText (key : String) (entries : List (Scalar × Value)) : Option Value :=
  entries.lookup (.text key)

/-- The value under a text key, if this is a mapping that has the key. -/
def get? (key : String) : Value → Option Value
  | .map entries => lookupText key entries
  | _ => none

/-- The text that a value is, if it is one. -/
def text? : Value → Option String
  | .scalar (.text s) => some s
  | _ => none

/-- Whether a value is a mapping. -/
def isMap : Value → Bool
  | .map _ => true
  | _ => false

/-- Whether a value is a list. -/
def isList : Value → Bool
  | .list _ => true
  | _ => false

/-- The name of a value's kind. -/
def kindName : Value → String
  | .scalar s => s.kindName
  | .list _ => "list"
  | .map _ => "dict"
  | .set _ => "set"

/-! ## References -/

/-- The reference that a value is: the text that a mapping has under the key `$ref`. -/
def reference? (v : Value) : Option String := (v.get? "$ref").bind text?

/-- The reference that an entry of a mapping contributes by itself. -/
def entryReference (key : Scalar) (v : Value) : List String :=
  if key = .text "$ref" then v.text?.toList else []

mutual

/-- The texts under the key `$ref` of a mapping, anywhere in a value. -/
def referenceTexts : Value → List String
  | .scalar _ => []
  | .list items => referenceTextsOfList items
  | .map entries => referenceTextsOfEntries entries
  | .set _ => []

/-- The reference texts in the items of a list. -/
def referenceTextsOfList : List Value → List String
  | [] => []
  | v :: rest => referenceTexts v ++ referenceTextsOfList rest

/-- The reference texts in the entries of a mapping. -/
def referenceTextsOfEntries : List (Scalar × Value) → List String
  | [] => []
  | (key, v) :: rest => entryReference key v ++ referenceTexts v ++ referenceTextsOfEntries rest

end

@[simp] theorem get?_scalar (key : String) (s : Scalar) : (scalar s).get? key = none := rfl

@[simp] theorem get?_list (key : String) (items : List Value) :
    (list items).get? key = none := rfl

@[simp] theorem get?_set (key : String) (members : List Scalar) :
    (set members).get? key = none := rfl

@[simp] theorem get?_map (key : String) (entries : List (Scalar × Value)) :
    (map entries).get? key = lookupText key entries := rfl

end Value

end ServiceBindings
