import Gatehouse.Text.CaseTable
import Gatehouse.Text.PrintTable

/-!
# Lowercase and uppercase

Full case mapping of texts.  A capital sigma at the end of a word has a lowercase form of its own;
everything else is mapped character by character.
-/

namespace Gatehouse.Text

/-- The code points that a character maps to. -/
def mapCode (rows : List (Nat × Nat × Nat × Int)) (many : List (Nat × List Nat)) (c : Char) :
    List Char :=
  let n := c.toNat
  match many.lookup n with
  | some ns => ns.map Char.ofNat
  | none =>
    match rows.find? fun r => r.1 ≤ n && n ≤ r.2.1 && (n - r.1) % r.2.2.1 == 0 with
    | some r => [Char.ofNat (n + r.2.2.2).toNat]
    | none => [c]

/-- The lowercase form of a character that does not depend on its neighbours. -/
def lowerOf (c : Char) : List Char := mapCode lowerRows lowerMany c

/-- The uppercase form of a character. -/
def upperOf (c : Char) : List Char := mapCode upperRows upperMany c

/-- Whether the next character that counts for the case of a word is a letter with case. -/
def nextIsCased (cs : List Char) : Bool :=
  match cs.dropWhile fun c => inRanges caseIgnorable c.toNat with
  | [] => false
  | c :: _ => inRanges cased c.toNat

/-- The lowercase form of a text whose characters before it are given in reverse. -/
def lowerAfter (before : List Char) : List Char → List Char
  | [] => []
  | c :: cs =>
    let form :=
      if c = 'Σ' then if nextIsCased before && !nextIsCased cs then ['ς'] else ['σ']
      else lowerOf c
    form ++ lowerAfter (c :: before) cs

/-- The lowercase form of a text. -/
def lower (s : String) : String := String.ofList (lowerAfter [] s.toList)

/-- The uppercase form of a text. -/
def upper (s : String) : String := String.ofList (s.toList.flatMap upperOf)

end Gatehouse.Text
