/-!
# Splitting and trimming text

Operations on lists of characters that the readers of headers, cookies, queries, paths and settings
share.  `splitOn` never returns an empty list.
-/

namespace Gatehouse.Text

variable {α : Type} [DecidableEq α]

/-- The fields of a text between the separators; a text without separator is one field. -/
def splitOn (sep : α) (cs : List α) : List (List α) :=
  cs.foldr
    (fun c fields =>
      if c = sep then [] :: fields
      else match fields with
        | [] => [[c]]
        | f :: fs => (c :: f) :: fs)
    [[]]

/-- Nothing is split into one empty part. -/
@[simp]
theorem splitOn_nil (sep : α) : splitOn sep [] = [[]] := rfl

/-- There is at least one field. -/
theorem splitOn_ne_nil (sep : α) (cs : List α) : splitOn sep cs ≠ [] := by
  cases cs with
  | nil => simp
  | cons c cs => simp only [splitOn, List.foldr_cons]; split <;> (try split) <;> simp

/-- A separator begins a new field. -/
theorem splitOn_cons_sep (sep : α) (cs : List α) :
    splitOn sep (sep :: cs) = [] :: splitOn sep cs := by
  simp [splitOn]

/-- Any other character belongs to the first field. -/
theorem splitOn_cons_ne {sep c : α} (h : c ≠ sep) (cs : List α) :
    ∃ f fs, splitOn sep cs = f :: fs ∧ splitOn sep (c :: cs) = (c :: f) :: fs := by
  cases e : splitOn sep cs with
  | nil => exact absurd e (splitOn_ne_nil sep cs)
  | cons f fs =>
    refine ⟨f, fs, rfl, ?_⟩
    simp only [splitOn, List.foldr_cons, if_neg h] at e ⊢
    rw [e]

/-- The parts before and after the first separator. -/
def cut? (sep : Char) (cs : List Char) : Option (List Char × List Char) :=
  match cs.dropWhile (· ≠ sep) with
  | [] => none
  | _ :: after => some (cs.takeWhile (· ≠ sep), after)

/-- A text without the characters of a class at both ends. -/
def trim (p : Char → Bool) (cs : List Char) : List Char :=
  ((cs.dropWhile p).reverse.dropWhile p).reverse

/-- What follows `lead` if the text starts with it. -/
def stripLead? (lead cs : List Char) : Option (List Char) :=
  if lead.isPrefixOf cs then some (cs.drop lead.length) else none

/-- Whether `part` stands somewhere in the text. -/
def hasInfix (part : List Char) : List Char → Bool
  | [] => part.isEmpty
  | c :: cs => part.isPrefixOf (c :: cs) || hasInfix part cs

/-- The fields of a text between occurrences of a separator of several characters, left to right. -/
def splitOnMany (sep : List Char) (cs : List Char) : List (List Char) :=
  go [] cs 0
where
  /-- `skip` counts the characters of a separator already recognised. -/
  go (field : List Char) : List Char → Nat → List (List Char)
    | [], _ => [field.reverse]
    | _ :: cs, skip + 1 => go field cs skip
    | c :: cs, 0 =>
      if sep ≠ [] ∧ sep.isPrefixOf (c :: cs) then field.reverse :: go [] cs (sep.length - 1)
      else go (c :: field) cs 0

/-- The lowercase form of an ASCII letter; every other character is kept. -/
def lowerAscii (c : Char) : Char :=
  if 'A' ≤ c ∧ c ≤ 'Z' then Char.ofNat (c.toNat + 32) else c

/-- The uppercase form of an ASCII letter; every other character is kept. -/
def upperAscii (c : Char) : Char :=
  if 'a' ≤ c ∧ c ≤ 'z' then Char.ofNat (c.toNat - 32) else c

/-- An ASCII digit. -/
def isDigit (c : Char) : Bool := '0' ≤ c && c ≤ '9'

/-- An ASCII letter or digit. -/
def isAlnum (c : Char) : Bool :=
  isDigit c || ('a' ≤ c && c ≤ 'z') || ('A' ≤ c && c ≤ 'Z')

/-- The number that a list of decimal digits writes. -/
def digitsValue (cs : List Char) : Nat := cs.foldl (fun n c => n * 10 + (c.toNat - 48)) 0

/--
The number that a decimal numeral of an unsigned type writes: an optional plus sign, then at least
one digit, and no more than `most`.
-/
def unsigned? (most : Nat) (cs : List Char) : Option Nat :=
  let digits := match cs with
    | '+' :: rest => rest
    | _ => cs
  if digits ≠ [] ∧ digits.all isDigit ∧ digitsValue digits ≤ most then some (digitsValue digits)
  else none

/-- The largest number of sixty-four bits. -/
def maxWord : Nat := 18446744073709551615

end Gatehouse.Text
