import Gatehouse.Bytes

/-!
# Message bodies

A body is one buffer, or frames that arrive one after the other and may end in a failure.  Reading
to the end is `Body.drain`.  Only an empty buffer is known to be at its end before it is read.
-/

namespace Gatehouse

/-- A message body. -/
inductive Body where
  | buffer (octets : Bytes)
  | frames (octets : List Bytes) (failure : Option String)
deriving DecidableEq, Repr

namespace Body

/-- The body without octets. -/
def empty : Body := buffer []

/-- All octets of the body, or the text of the failure that ends it. -/
def drain : Body → Except String Bytes
  | buffer bs => .ok bs
  | frames fs none => .ok fs.flatten
  | frames _ (some e) => .error e

/-- Whether the body is known to hold nothing. -/
def isEnd : Body → Bool
  | buffer bs => bs.isEmpty
  | frames _ _ => false

end Body

end Gatehouse
