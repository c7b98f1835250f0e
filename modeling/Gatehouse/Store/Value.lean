import Gatehouse.Store.Table
import Gatehouse.Tier

/-!
# The values of a request

The stores of a request hold texts, numbers, truth values and tiers.  This is one sort of typed
values among others; nothing that holds of stores depends on it.
-/

namespace Gatehouse

/-- The types of the values of a request. -/
inductive ValueKind where
  | text
  | natural
  | integer
  | truth
  | tier
deriving DecidableEq, Repr

/-- A value of a request. -/
inductive Value where
  | text (s : String)
  | natural (n : Nat)
  | integer (n : Int)
  | truth (b : Bool)
  | tier (t : Tier)
deriving DecidableEq, Repr

/-- The type of a value. -/
def Value.kind : Value → ValueKind
  | text _ => .text
  | natural _ => .natural
  | integer _ => .integer
  | truth _ => .truth
  | tier _ => .tier

instance : Typed Value ValueKind := ⟨Value.kind⟩

/-- The values of one request under their keys. -/
abbrev ValueMap := TypedMap Value

/-- Stores of values under named handles. -/
abbrev StoreTable := Store.Table Value

/-- What can be done to these stores. -/
abbrev StoreAction := Store.Action Value

end Gatehouse
