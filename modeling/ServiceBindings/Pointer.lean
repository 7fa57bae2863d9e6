import ServiceBindings.Value
import ServiceBindings.Decimal.Reading
import ServiceBindings.Text.Replace
import ServiceBindings.Text.Split

/-! # Pointers into a document

A pointer is the text `#/` followed by steps with a slash between neighbours. Within a step `~1`
stands for a slash and `~0` for a tilde.

* `Value.step?` is what one step leads to: in a mapping the value under that key, in a list the item
  at the index that the step writes in decimal digits. **An index of too many digits is not read**
  (`digitLimit`), and a walk that comes to one in a list ends there (`Value.overlongStep?`).
* `Pointer.steps?` are the steps of a local pointer, `Pointer.ofSteps` writes steps as a pointer.
* `Pointer.resolve` walks a document along a pointer.
* `ReferenceError` says why a reference cannot be followed, with its wording in
  `ReferenceError.message`. An index of too many digits is an error of another kind than the others: it is
  not reported (`ReferenceError.isReported`). -/

namespace ServiceBindings

/-- Why a reference cannot be followed. -/
inductive ReferenceError where
  /-- The pointer does not begin at the root of the document. -/
  | notLocal (pointer : String)
  /-- The pointer leads nowhere. -/
  | unresolvable (pointer : String)
  /-- The last reference of the chain is on it already. -/
  | cyclic (chain : List String)
  /-- There is no document that the pointer could lead into. -/
  | noDocument (pointer : String)
  /-- The chain holds as many references as the document has, and the pointer is yet another one. It
  never arises for a document and its own references. -/
  | unlisted (chain : List String) (pointer : String)
  /-- A step into a list is an index of so many digits, which are too many to be read. -/
  | tooManyDigits (count : Nat)
  deriving DecidableEq, Repr

namespace ReferenceError

/-- The wording of an error. -/
def message : ReferenceError → String
  | .notLocal pointer => "Only local references are currently supported: " ++ pointer
  | .unresolvable pointer => "Unresolvable reference: " ++ pointer
  | .cyclic chain => "Cyclic schema reference detected: " ++ Text.join " -> " chain
  | .noDocument pointer => "Cannot inline reference without a source document: " ++ pointer
  | .unlisted _ pointer => "Reference missing from the document: " ++ pointer
  | .tooManyDigits count => "Exceeds the limit (" ++ toString digitLimit ++
      " digits) for integer string conversion: value has " ++ toString count ++ " digits"

/-- Whether an error is one that the program expects of references. -/
def isReported : ReferenceError → Bool
  | .tooManyDigits _ => false
  | _ => true

end ReferenceError

namespace Value

/-- The index that a step writes, if it is a non-empty text of decimal digits and not too many of them. -/
def indexOfStep? (step : String) : Option Nat :=
  if isOverlong step then none else natOfDigits? 10 step.toList

/-- What one step leads to. -/
def step? (v : Value) (step : String) : Option Value :=
  match v with
  | .map entries => lookupText step entries
  | .list items => (indexOfStep? step).bind fun index => items[index]?
  | .scalar _ => none
  | .set _ => none

/-- What steps lead to, taken one after the other. -/
def walk? (v : Value) : List String → Option Value
  | [] => some v
  | step :: rest => (v.step? step).bind fun next => next.walk? rest

/-- The number of digits of the first index that steps come to in a list and that has too many. -/
def overlongStep? (v : Value) : List String → Option Nat
  | [] => none
  | step :: rest =>
      if v.isList && isOverlong step then some step.length
      else (v.step? step).bind fun next => next.overlongStep? rest

@[simp] theorem walk?_nil (v : Value) : v.walk? [] = some v := rfl

theorem walk?_cons (v : Value) (step : String) (rest : List String) :
    v.walk? (step :: rest) = (v.step? step).bind fun next => next.walk? rest := rfl

end Value

namespace Pointer

/-- Read the escapes of a step: `~1` is a slash, and then `~0` is a tilde. -/
def unescape (step : List Char) : List Char :=
  Chars.replaceAll ['~', '0'] ['~'] (Chars.replaceAll ['~', '1'] ['/'] step)

/-- Write a step so that it holds no slash: a tilde is `~0`, and a slash is `~1`. -/
def escape (step : List Char) : List Char :=
  step.flatMap fun c => if c = '~' then ['~', '0'] else if c = '/' then ['~', '1'] else [c]

/-- The steps of a local pointer. -/
def steps? (pointer : String) : Option (List String) :=
  match pointer.toList with
  | '#' :: '/' :: rest =>
      some ((Chars.splitWhere (· == '/') rest).map fun step => .ofList (unescape step))
  | _ => none

/-- The pointer with the given steps. -/
def ofSteps (steps : List String) : String :=
  .ofList ('#' :: '/' :: Chars.join ['/'] (steps.map fun step => escape step.toList))

/-- Why the steps of a pointer lead nowhere. -/
def lost (document : Value) (pointer : String) (steps : List String) : ReferenceError :=
  match document.overlongStep? steps with
  | some count => .tooManyDigits count
  | none => .unresolvable pointer

/-- What a pointer leads to in a document. -/
def resolve (document : Value) (pointer : String) : Except ReferenceError Value :=
  match steps? pointer with
  | none => .error (.notLocal pointer)
  | some steps =>
      match document.walk? steps with
      | some v => .ok v
      | none => .error (lost document pointer steps)

end Pointer

end ServiceBindings
