import Mathlib.Tactic.Lemma

/-!
# Handles and what they stand for

Handles have names.  A thing is opened under a name, a handle is copied to another name, and a name
that is used again leaves what it stood for.  `Naming.groupOf` reads from what was done, the latest
first, for which of the opened things a name stands: all handles that were copied from one, directly
or not, are one group.  Tables of handles that are kept step by step know the same (`Tracks`).
-/

namespace Gatehouse

/-- What a step does to the names of handles. -/
inductive Naming where
  /-- Something new gets a name. -/
  | opens (name : String)
  /-- What a handle stands for gets one more name. -/
  | copies (handle name : String)
  | keeps
deriving DecidableEq, Repr

namespace Naming

/-- How many things were opened. -/
def opened : List Naming → Nat
  | [] => 0
  | .opens _ :: past => opened past + 1
  | .copies _ _ :: past => opened past
  | .keeps :: past => opened past

/-- For which of the opened things, counted from zero, a name stands. -/
def groupOf : List Naming → String → Option Nat
  | [], _ => none
  | .opens name :: past, handle => if handle = name then some (opened past) else groupOf past handle
  | .copies source name :: past, handle =>
    if handle = name then groupOf past source else groupOf past handle
  | .keeps :: past, handle => groupOf past handle

variable {past : List Naming} {handle source name : String} {g : Nat}

/-- Names stand for things that were opened. -/
lemma lt_opened_of_groupOf (h : groupOf past handle = some g) : g < opened past := by
  induction past generalizing handle with
  | nil => cases h
  | cons n past ih =>
    cases n with
    | opens name =>
      rw [groupOf] at h
      split at h
      · cases h
        exact Nat.lt_succ_self _
      · exact Nat.lt_succ_of_lt (ih h)
    | copies source name =>
      rw [groupOf] at h
      split at h
      · exact ih h
      · exact ih h
    | keeps => exact ih h

end Naming

open Naming

/-- A table of handles and a count that know what was opened and what the names stand for. -/
structure Tracks (past : List Naming) (table : String → Option Nat) (count : Nat) : Prop where
  counted : count = opened past
  known : ∀ handle, table handle = groupOf past handle

namespace Tracks

variable {past : List Naming} {table table' : String → Option Nat} {count : Nat}
  {source name : String}

/-- At first nothing is opened and no handle is known. -/
lemma nil : Tracks [] (fun _ => none) 0 := ⟨rfl, fun _ => rfl⟩

/-- What is opened has a number that nothing had. -/
lemma opens (n : Tracks past table count)
    (entered : ∀ handle, table' handle = if handle = name then some count else table handle) :
    Tracks (.opens name :: past) table' (count + 1) := by
  refine ⟨congrArg (· + 1) n.counted, fun handle => ?_⟩
  rw [entered, groupOf, n.counted, n.known]

/-- A copy stands for what its source stands for. -/
lemma copies (n : Tracks past table count)
    (entered : ∀ handle, table' handle = if handle = name then table source else table handle) :
    Tracks (.copies source name :: past) table' count := by
  refine ⟨n.counted, fun handle => ?_⟩
  rw [entered, groupOf, n.known, n.known]

/-- A step that names nothing leaves all handles. -/
lemma keeps (n : Tracks past table count) : Tracks (.keeps :: past) table count :=
  ⟨n.counted, n.known⟩

/-- A handle stands for something that was opened. -/
lemma lt_count (n : Tracks past table count) {handle : String} {g : Nat}
    (h : table handle = some g) : g < count := by
  rw [n.counted]
  exact lt_opened_of_groupOf ((n.known handle).symm.trans h)

end Tracks

end Gatehouse
