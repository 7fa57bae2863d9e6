import ServiceBindings.Web.CompositionTable

/-! # Composed names

A letter with a mark can be one character or two. `DomainName.composed` is the form of a text with **as few
characters as there can be**: all characters are taken apart, the marks behind a letter are put in order by
their class, and letters are put together again with the marks that nothing separates them from. -/

namespace ServiceBindings

namespace DomainName

/-- The class of a mark, zero for other characters. -/
def markClass (c : Char) : Nat :=
  ((markClasses.find? fun (first, last, _) => first ≤ c.toNat && c.toNat ≤ last).map
    fun (_, _, number) => number).getD 0

/-- Take characters apart, once. -/
def splitOnce (cs : List Char) : List Char :=
  cs.flatMap fun c =>
    match compositions.find? fun (whole, _, _) => whole == c.toNat with
    | some (_, first, second) => [Char.ofNat first, Char.ofNat second]
    | none => [c]

/-- The character that two characters compose. -/
def compose? (first second : Char) : Option Char :=
  (compositions.find? fun (_, a, b) => a == first.toNat && b == second.toNat).map
    fun (whole, _, _) => Char.ofNat whole

/-- Put a character in front of marks that are in order. -/
def insertMark (c : Char) : List Char → List Char
  | [] => [c]
  | d :: rest =>
      if 0 < markClass d ∧ markClass d < markClass c then d :: insertMark c rest
      else c :: d :: rest

/-- Put characters together: `letter` is the last one that is no mark, `marks` are the marks behind it, the
last one first. -/
def composeFrom : Option Char → List Char → List Char → List Char
  | letter, marks, [] => letter.toList ++ marks.reverse
  | letter, marks, c :: rest =>
      let isNear := (marks.head?.map fun d => decide (markClass d < markClass c)).getD true
      match (if isNear then letter.bind (compose? · c) else none) with
      | some whole => composeFrom (some whole) marks rest
      | none =>
          if markClass c = 0 then letter.toList ++ marks.reverse ++ composeFrom (some c) [] rest
          else composeFrom letter (c :: marks) rest

/-- The form of a text with as few characters as there can be. No character is taken apart more than
twice. -/
def composed (cs : List Char) : List Char :=
  composeFrom none [] ((splitOnce (splitOnce cs)).foldr insertMark [])

end DomainName

end ServiceBindings
