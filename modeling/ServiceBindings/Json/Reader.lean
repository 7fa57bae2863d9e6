import ServiceBindings.Json.Token

/-! # Reading JSON text

`Json.read?` is the value that a JSON text writes, if it writes one. The tokens are read from left to
right; what is still open is kept on a stack of `Frame`s, and `Progress` says what may come next.

An interpreter reads a JSON text within limits: of the digits of a whole number, and of the lists and
mappings that are open at a time. `Json.load` is what it reads, or the `Fault` that it comes to first. -/

namespace ServiceBindings

namespace Json

/-- A list or mapping whose end is still to come. -/
inductive Frame where
  /-- A list, with its items so far in reverse order. -/
  | list (items : List Value)
  /-- A mapping, with its pairs so far in reverse order, and the key whose value comes next. -/
  | map (pairs : List (Scalar × Value)) (key : String)

/-- What may come next. -/
inductive Progress where
  /-- A value. -/
  | value (opened : List Frame)
  /-- The first item of a list, or its end. -/
  | firstItem (opened : List Frame)
  /-- The first key of a mapping, or its end. -/
  | firstKey (opened : List Frame)
  /-- A further key of a mapping with the given pairs. -/
  | key (pairs : List (Scalar × Value)) (opened : List Frame)
  /-- The colon after a key. -/
  | colon (pairs : List (Scalar × Value)) (key : String) (opened : List Frame)
  /-- A comma or the end, after a value of the given frame. -/
  | separator (frame : Frame) (opened : List Frame)
  /-- Nothing: the whole value is read. -/
  | done (value : Value)

/-- A value is complete: it goes into the innermost open list or mapping. -/
def Progress.complete (v : Value) : List Frame → Progress
  | [] => .done v
  | .list items :: opened => .separator (.list (v :: items)) opened
  | .map pairs name :: opened => .separator (.map ((.text name, v) :: pairs) name) opened

/-- Begin a value with a token. -/
def Progress.beginValue (opened : List Frame) : Token → Option Progress
  | .beginList => some (.firstItem opened)
  | .beginMap => some (.firstKey opened)
  | .scalar s => some (.complete (.scalar s) opened)
  | _ => none

/-- Take the next token. -/
def Progress.step : Progress → Token → Option Progress
  | .value opened, token => beginValue opened token
  | .firstItem opened, .endList => some (.complete (.list []) opened)
  | .firstItem opened, token => beginValue (.list [] :: opened) token
  | .firstKey opened, .endMap => some (.complete (.map []) opened)
  | .firstKey opened, .scalar (.text name) => some (.colon [] name opened)
  | .key pairs opened, .scalar (.text name) => some (.colon pairs name opened)
  | .colon pairs name opened, .colon => some (.value (.map pairs name :: opened))
  | .separator (.list items) opened, .comma => some (.value (.list items :: opened))
  | .separator (.list items) opened, .endList => some (.complete (.list items.reverse) opened)
  | .separator (.map pairs _) opened, .comma => some (.key pairs opened)
  | .separator (.map pairs _) opened, .endMap =>
      some (.complete (.mapping pairs.reverse) opened)
  | _, _ => none

/-- The value, if it is complete. -/
def Progress.value? : Progress → Option Value
  | .done v => some v
  | _ => none

/-- The value that tokens write. -/
def ofTokens? (tokens : List Token) : Option Value :=
  (tokens.foldlM Progress.step (.value [])).bind Progress.value?

/-- The value that a JSON text writes. -/
def read? (text : String) : Option Value := (tokens? .standard text).bind ofTokens?

/-! ## Limits -/

/-- Why an interpreter does not read a JSON text. -/
inductive Fault where
  /-- It is no JSON text. -/
  | malformed
  /-- A whole number has too many digits. -/
  | tooManyDigits (count : Nat)
  /-- Too many lists and mappings are open. -/
  | tooDeep
  deriving DecidableEq, Repr

namespace Fault

/-- The wording of a fault. -/
def message : Fault → String
  | malformed => "malformed JSON"
  | tooManyDigits count => "a whole number has " ++ toString count ++ " digits"
  | tooDeep => "maximum recursion depth exceeded"

/-- Whether a fault is that of a text, and not that of a limit. -/
def isReported : Fault → Bool
  | malformed => true
  | _ => false

end Fault

/-- How many lists and mappings are open. -/
def Progress.depth : Progress → Nat
  | .value opened => opened.length
  | .firstItem opened | .firstKey opened | .key _ opened | .colon _ _ opened | .separator _ opened =>
      opened.length + 1
  | .done _ => 0

/-- The number of digits that a whole number at the start of a text has, given how many characters it
takes. -/
def digitCountOf (cs : List Char) (taken : Nat) : Nat :=
  if cs.head? = some '-' then taken - 1 else taken

/-- Read the token at the start of a text: what may come next, and the number of characters it takes. -/
def accept (depth : Nat) (surrogates : SurrogateBlock) (progress : Progress) (cs : List Char) :
    Except Fault (Progress × Nat) :=
  match scanToken surrogates cs with
  | none => .error .malformed
  | some (token, taken) =>
      match progress.step token with
      | none => .error .malformed
      | some next =>
          let digits := match token with
            | .scalar (.int _) => digitCountOf cs taken
            | _ => 0
          if digitLimit < digits then .error (.tooManyDigits digits)
          else if depth < next.depth then .error .tooDeep
          else .ok (next, taken)

/-- Read a text whose first `skip` characters belong to a token that is already read. -/
def loadFrom (depth : Nat) (surrogates : SurrogateBlock) (progress : Progress) :
    Nat → List Char → Except Fault Value
  | _, [] =>
      match progress.value? with
      | some v => .ok v
      | none => .error .malformed
  | skip + 1, _ :: rest => loadFrom depth surrogates progress skip rest
  | 0, c :: rest =>
      if isSpace c then loadFrom depth surrogates progress 0 rest
      else
        match accept depth surrogates progress (c :: rest) with
        | .error fault => .error fault
        | .ok (next, taken) => loadFrom depth surrogates next (taken - 1) rest

/-- The value that an interpreter reads in a JSON text, with at most `depth` lists and mappings open. -/
def load (depth : Nat) (surrogates : SurrogateBlock) (text : String) : Except Fault Value :=
  loadFrom depth surrogates (.value []) 0 text.toList

end Json

end ServiceBindings
