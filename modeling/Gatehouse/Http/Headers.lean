import Gatehouse.Bytes
import Gatehouse.Http.Token
import Gatehouse.Named

/-!
# Header values and header maps

A header value is an octet string without control characters other than the tab.  A header map
holds, for each name that occurs, its values in order of appearance, at least one; names stand in
the order in which they were first added, except that a removed name gives its place to the last
one. `Headers.values` is the view through which maps are compared: the values of a name, `[]` for a
name that does not occur.
-/

namespace Gatehouse

/-- An octet that a header value may hold. -/
def isHeaderOctet (b : UInt8) : Bool := (0x20 ≤ b && b != 0x7F) || b == 0x09

/-- A header value. -/
structure HeaderValue where
  octets : Bytes
  ok : octets.all isHeaderOctet = true
deriving DecidableEq

namespace HeaderValue

/-- The value with the given octets, if they are all allowed. -/
def of? (bs : Bytes) : Option HeaderValue :=
  if h : bs.all isHeaderOctet = true then some ⟨bs, h⟩ else none

/-- The value that a text writes. -/
def ofText? (s : String) : Option HeaderValue := of? (Bytes.ofText s)

/-- The text of a value that is printable ASCII. -/
def text? (v : HeaderValue) : Option String := Bytes.visibleText? v.octets

/-- What is said of octets that are no header value. -/
def parseMessage : String := "failed to parse header value"

/-- The content type of JSON. -/
def json : HeaderValue := ⟨Bytes.ofText "application/json", by decide +kernel⟩
/-- The content type of plain text. -/
def plainText : HeaderValue := ⟨Bytes.ofText "text/plain; charset=utf-8", by decide +kernel⟩

end HeaderValue

/-- The values of each name: no name stands twice, and none without a value. -/
@[ext]
structure Headers where
  entries : Named (List HeaderValue)
  distinct : entries.keys.Nodup
  filled : ∀ e ∈ entries, e.2 ≠ []
deriving DecidableEq

namespace Headers

/-- The map without names. -/
def empty : Headers := ⟨[], Named.nodup_nil, nofun⟩

instance : Inhabited Headers := ⟨empty⟩

/-- The names in order. -/
def names (h : Headers) : List HeaderName := h.entries.keys

/-- The values of a name in order of appearance. -/
def values (h : Headers) (name : HeaderName) : List HeaderValue := (h.entries.find? name).getD []

/-- The first value of a name. -/
def first? (h : Headers) (name : HeaderName) : Option HeaderValue := (h.values name).head?

/-- The text of the first value of a name, if that is printable ASCII. -/
def text? (h : Headers) (name : HeaderName) : Option String := h.first? name >>= HeaderValue.text?

/-- Whether the name occurs. -/
def contains (h : Headers) (name : HeaderName) : Bool := h.entries.has name

/-- Replaces the values of a name by those that `f` makes of them, and adds a name that is new. -/
def alter (h : Headers) (name : HeaderName) (f : List HeaderValue → List HeaderValue)
    (some_left : ∀ vs, f vs ≠ []) : Headers :=
  ⟨h.entries.alter name fun vs => f (vs.getD []), Named.nodup_alter h.distinct _ _, fun e he => by
    rcases Named.mem_alter he with he | ⟨vs, rfl⟩
    · exact h.filled e he
    · exact some_left _⟩

/-- Adds a value after those that the name has. -/
def append (h : Headers) (name : HeaderName) (v : HeaderValue) : Headers :=
  h.alter name (· ++ [v]) fun _ => List.append_ne_nil_of_right_ne_nil _ (List.cons_ne_nil v [])

/-- Makes a value the only one of its name. -/
def insert (h : Headers) (name : HeaderName) (v : HeaderValue) : Headers :=
  h.alter name (fun _ => [v]) fun _ => List.cons_ne_nil v []

/-- The map without a name; the last name takes its place. -/
def remove (h : Headers) (name : HeaderName) : Headers :=
  ⟨h.entries.swapDrop name, Named.nodup_swapDrop h.distinct name,
    fun e he => h.filled e (Named.mem_of_mem_swapDrop he)⟩

/-- All pairs of a name and a value, name by name. -/
def toList (h : Headers) : List (HeaderName × HeaderValue) :=
  h.entries.flatMap fun e => e.2.map fun v => (e.1, v)

/-- The map of pairs added one after the other. -/
def ofList (ps : List (HeaderName × HeaderValue)) : Headers :=
  ps.foldl (fun h p => h.append p.1 p.2) empty

/-- The number of values of all names. -/
def size (h : Headers) : Nat := h.toList.length

/-- The changed values are those of their name, and every other name keeps its own. -/
theorem values_alter (h : Headers) (name n : HeaderName) (f : List HeaderValue → List HeaderValue)
    (some_left : ∀ vs, f vs ≠ []) :
    (h.alter name f some_left).values n = if n = name then f (h.values name) else h.values n := by
  rw [values, alter, Named.find?_alter, values, values]
  split
  all_goals rfl

/-- An added value stands behind the others of its name. -/
@[simp]
theorem values_append (h : Headers) (name n : HeaderName) (v : HeaderValue) :
    (h.append name v).values n = if n = name then h.values n ++ [v] else h.values n := by
  rw [append, values_alter]
  split
  case isTrue same => rw [same]
  case isFalse => rfl

/-- An inserted value stands alone under its name. -/
@[simp]
theorem values_insert (h : Headers) (name n : HeaderName) (v : HeaderValue) :
    (h.insert name v).values n = if n = name then [v] else h.values n :=
  h.values_alter name n _ _

end Headers

end Gatehouse
