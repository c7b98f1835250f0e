import Gatehouse.Text.Quoted

/-!
# Plan tiers

A subscriber's plan, from the lowest to the highest.  The tier is part of what a caller signs, so it
is read from its exact lowercase name only.
-/

namespace Gatehouse

/-- A subscriber's plan. -/
inductive Tier where
  | free
  | pro
  | business
  | enterprise
deriving DecidableEq, Repr

namespace Tier

/-- All tiers, lowest first. -/
def all : List Tier := [free, pro, business, enterprise]

/-- The name that is sent and signed. -/
def name : Tier → String
  | free => "free"
  | pro => "pro"
  | business => "business"
  | enterprise => "enterprise"

/-- The place of a tier among all tiers, lowest first. -/
def rank : Tier → Nat
  | free => 0
  | pro => 1
  | business => 2
  | enterprise => 3

/-- Reads the exact name of a tier. -/
def ofName? (s : String) : Option Tier := all.find? fun t => t.name == s

/-- What is said of a text that names no tier. -/
def unknownMessage (s : String) : String := "unknown plan tier: " ++ Quoted.text s

/-- The diagnostic form. -/
def debug : Tier → String
  | free => "Free"
  | pro => "Pro"
  | business => "Business"
  | enterprise => "Enterprise"

/-- A tier is read back from its name. -/
theorem ofName?_name (t : Tier) : ofName? t.name = some t := by cases t <;> decide

end Tier

end Gatehouse
