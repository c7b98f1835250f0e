import Gatehouse.Proofs.Chain.Nesting
import Gatehouse.Server.Dispatch

/-!
# The order of plain layers

A request passes layers from the outside to the inside until one of them does not pass it on or the
handler has it (`LayerStack.Passes`); what is produced there goes back through the layers that were
passed, the innermost first (`LayerStack.ascend`).  A run of layers ends exactly with what comes out
of this way back (`LayerStack.finished_iff`).  `LayerStack.turns` is the log of a run: what is
started, and what each layer gets back from the inside, come in opposite orders
(`LayerStack.order_turns`).
-/

namespace Gatehouse

namespace LayerStack

/-- What a layer that was passed does with the result from the inside. -/
abbrev After := NativeResult → Run NativeResult

/-- A request that arrives at some layers, and the state in which it does. -/
structure Arrival where
  stack : LayerStack
  request : NativeRequest
  plan : Plan
  world : World

/-- The end of the run of an arrival. -/
def Arrival.halt (h : NativeHandler) (x : Arrival) : Halt NativeResult :=
  (x.stack.run h x.request).halt x.plan x.world

/-- The outermost layer of an arrival passes the request on. -/
inductive Forwards : Arrival → After → Arrival → Prop
  | mk {l : Layer} {rest : LayerStack} {n n' : NativeRequest} {p p' : Plan} {w w' : World}
    {after : After}
    (e : (l.enter n).halt p w = .finished (.forward n' after) p' w') :
    Forwards ⟨l :: rest, n, p, w⟩ after ⟨rest, n', p', w'⟩

/--
Layers that are passed one after the other, with what they will do on the way back, the outermost
first.
-/
inductive Passes : Arrival → List After → Arrival → Prop
  | here (x : Arrival) : Passes x [] x
  | on {x y z : Arrival} {after : After} {afters : List After} (first : Forwards x after y)
    (later : Passes y afters z) :
    Passes x (after :: afters) z

/-- What is reached behind a number of layers. -/
def Reaches (k : Nat) (x y : Arrival) : Prop := ∃ afters, Passes x afters y ∧ afters.length = k

/--
Where the way ends there is a result: that of the handler, or that of a layer that calls nothing.
-/
inductive Produces (h : NativeHandler) : Arrival → NativeResult → Plan → World → Prop
  | handler {n : NativeRequest} {p p' : Plan} {w w' : World} {b : NativeResult}
    (e : (h n).halt p w = .finished b p' w') : Produces h ⟨[], n, p, w⟩ b p' w'
  | reply {l : Layer} {rest : LayerStack} {n : NativeRequest} {p p' : Plan} {w w' : World}
    {b : NativeResult}
    (e : (l.enter n).halt p w = .finished (.reply b) p' w') :
    Produces h ⟨l :: rest, n, p, w⟩ b p' w'

/-- The way back of a result. -/
def ascend : List After → NativeResult → Run NativeResult
  | [], b => pure b
  | after :: afters, b => ascend afters b >>= after

/-- On its way back an error comes to a layer that makes something else of it. -/
def Recovered (afters : List After) (e : NativeError) (p : Plan) (w : World) : Prop :=
  ∃ outer after inner p₁ w₁ b p₂ w₂, afters = outer ++ after :: inner ∧
    (ascend inner (.error e)).halt p w = .finished (.error e) p₁ w₁ ∧
    (after (.error e)).halt p₁ w₁ = .finished b p₂ w₂ ∧ b ≠ .error e

/-- What happens at a place of a stack; the handler's place comes after those of the layers. -/
inductive Turn where
  /-- What stands at the place is started. -/
  | start (place : Nat) (x : Arrival)
  /-- The layer at the place gets what came out of the inside. -/
  | back (place : Nat) (b : NativeResult) (p : Plan) (w : World)

/-- The place of a turn, on the way in or on the way back. -/
def Turn.label : Turn → Nat ⊕ Nat
  | start i _ => .inl i
  | back i _ _ _ => .inr i

/-- The turn of a place that gets a result back. -/
def backs (place : Nat) : Halt NativeResult → List Turn
  | .finished b p w => [.back place b p w]
  | _ => []

/-- The log of a run of layers from a place on. -/
def turns (h : NativeHandler) (place : Nat) : LayerStack → NativeRequest → Plan → World → List Turn
  | [], n, p, w => [.start place ⟨[], n, p, w⟩]
  | l :: rest, n, p, w => .start place ⟨l :: rest, n, p, w⟩ ::
    match (l.enter n).halt p w with
    | .finished (.forward n' _) p' w' =>
      turns h (place + 1) rest n' p' w' ++ backs place ((LayerStack.run rest h n').halt p' w')
    | _ => []

/-- The log of an arrival, its places counted from a given one. -/
def Arrival.turns (h : NativeHandler) (place : Nat) (x : Arrival) : List Turn :=
  LayerStack.turns h place x.stack x.request x.plan x.world

section Way

variable {h : NativeHandler} {x y z : Arrival} {after : After} {afters : List After}
  {b : NativeResult} {p : Plan}
  {w : World}

/--
Behind a layer that passes the request on, the rest runs and the layer goes on with its result.
-/
lemma halt_of_forwards (f : Forwards x after y) : x.halt h = (y.halt h).bind fun b p w =>
    (after b).halt p w := by
  cases f with
  | mk e => exact halt_around_of_forward e _

/-- Behind the layers that are passed, the rest runs and its result goes the way back. -/
lemma Passes.halt (passes : Passes x afters y) :
    x.halt h = (y.halt h).bind fun b p w => (ascend afters b).halt p w := by
  induction passes with
  | here x =>
    cases x.halt h with
    | finished b p w => rfl
    | dropped w => rfl
    | stuck w => rfl
  | @on x y z after afters first later ih =>
    rw [halt_of_forwards first, ih]
    cases z.halt h with
    | finished b p w => exact (Task.halt_bind _ _ _ _).symm
    | dropped w => rfl
    | stuck w => rfl

/-- The layers that are passed are the first ones of the stack. -/
lemma Passes.stack (passes : Passes x afters y) : y.stack = x.stack.drop afters.length := by
  induction passes with
  | here x => rfl
  | on first later ih =>
    cases first with
    | mk e => exact ih

/-- One more layer is passed behind those that were. -/
lemma Passes.concat (passes : Passes x afters y) (next : Forwards y after z) :
    Passes x (afters ++ [after]) z := by
  induction passes with
  | here x => exact .on next (.here _)
  | on first later ih => exact .on first (ih next)

/-- Each of the layers that are passed passes the request on. -/
lemma Passes.forwards (passes : Passes x afters z) {i : Nat} (lt : i < afters.length) :
    ∃ y after y', Passes x (afters.take i) y ∧ Forwards y after y' := by
  induction passes generalizing i with
  | here x => exact absurd lt (Nat.not_lt_zero i)
  | @on x y z after afters first later ih =>
    cases i with
    | zero => exact ⟨x, after, y, .here x, first⟩
    | succ i =>
      obtain ⟨y', after', z', passes, next⟩ := ih (Nat.lt_of_succ_lt_succ lt)
      exact ⟨y', after', z', .on first passes, next⟩

/-- The run of an arrival that produces a result ends with it. -/
lemma halt_of_produces (produces : Produces h x b p w) : x.halt h = .finished b p w := by
  cases produces with
  | handler e => exact e
  | reply e => exact halt_around_of_reply e _

/-- A run ends exactly with what a result becomes on its way back. -/
lemma finished_iff : x.halt h = .finished b p w ↔ ∃ afters y produced p₁ w₁, Passes x afters y ∧
    Produces h y produced p₁ w₁ ∧ (ascend afters produced).halt p₁ w₁ = .finished b p w := by
  constructor
  · intro ends
    obtain ⟨s, n, p₀, w₀⟩ := x
    induction s generalizing n p₀ w₀ b p w with
    | nil => exact ⟨[], _, b, p, w, .here _, .handler ends, rfl⟩
    | cons l s ih =>
      obtain ⟨v, p', w', entered, -⟩ :=
        Halt.finished_of_bind ((halt_around l.enter _ n p₀ w₀).symm.trans ends)
      cases v with
      | reply b' =>
        cases (halt_around_of_reply entered _).symm.trans ends
        exact ⟨[], _, b, p, w, .here _, .reply entered, rfl⟩
      | forward n' after =>
        obtain ⟨b', p₁, w₁, inner, after_⟩ :=
          Halt.finished_of_bind ((halt_of_forwards (.mk entered)).symm.trans ends)
        obtain ⟨afters, y, produced, p₂, w₂, passes, produces, back⟩ := ih n' p' w' inner
        refine ⟨after :: afters, y, produced, p₂, w₂, .on (.mk entered) passes, produces, ?_⟩
        rw [ascend, Task.halt_bind, back]
        exact after_
  · rintro ⟨afters, y, produced, p₁, w₁, passes, produces, back⟩
    rw [passes.halt, halt_of_produces produces]
    exact back

/-- An error comes out as it is unless a layer on the way back makes something else of it. -/
lemma ascend_error {e : NativeError} {p' : Plan} {w' : World}
    (back : (ascend afters (.error e)).halt p w = .finished b p' w') :
    b = .error e ∨ Recovered afters e p w := by
  induction afters generalizing b p' w' with
  | nil =>
    cases back
    exact .inl rfl
  | cons after afters ih =>
    rw [ascend, Task.halt_bind] at back
    obtain ⟨b₁, p₁, w₁, inner, outermost⟩ := Halt.finished_of_bind back
    rcases ih inner with
      rfl | ⟨outer, after', inside, p₂, w₂, b₂, p₃, w₃, rfl, there, recovers, other⟩
    · by_cases same : b = .error e
      · exact .inl same
      · exact .inr ⟨[], after, afters, p₁, w₁, b, p', w', rfl, inner, outermost, same⟩
    · exact .inr ⟨after :: outer, after', inside, p₂, w₂, b₂, p₃, w₃, rfl, there, recovers, other⟩

/-- A layer passes a request on in one way at most. -/
lemma Forwards.unique {after' : After} (f : Forwards x after y) (f' : Forwards x after' z) :
    after = after' ∧ y = z := by
  cases f with
  | mk e =>
    cases f' with
    | mk e' =>
      cases e.symm.trans e'
      exact ⟨rfl, rfl⟩

/-- Behind no layer an arrival is still the same. -/
lemma reaches_zero_iff : Reaches 0 x y ↔ y = x := by
  constructor
  · rintro ⟨afters, passes, length⟩
    cases passes with
    | here => rfl
    | on => cases length
  · rintro rfl
    exact ⟨[], .here _, rfl⟩

/-- What is reached is reached behind the layer that passes the request on. -/
lemma reaches_succ_iff {k : Nat} (f : Forwards x after y) :
    Reaches (k + 1) x z ↔ Reaches k y z := by
  constructor
  · rintro ⟨afters, passes, length⟩
    cases passes with
    | here => cases length
    | on first later =>
      obtain ⟨rfl, rfl⟩ := f.unique first
      exact ⟨_, later, Nat.succ.inj length⟩
  · rintro ⟨afters, passes, rfl⟩
    exact ⟨after :: afters, .on f passes, rfl⟩

/-- Behind a layer that passes nothing on, nothing is reached. -/
lemma not_reaches_succ {k : Nat} (last : ∀ after y, ¬ Forwards x after y) :
    ¬ Reaches (k + 1) x z := by
  rintro ⟨afters, passes, length⟩
  cases passes with
  | here => cases length
  | on first => exact last _ _ first

/--
Induction along the way: what holds where it ends and is carried outward by each layer holds of
every arrival.
-/
@[elab_as_elim]
lemma inward {motive : Arrival → Prop} (last : ∀ x, (∀ after y, ¬ Forwards x after y) → motive x)
    (on : ∀ x after y, Forwards x after y → motive y → motive x) (x : Arrival) : motive x := by
  obtain ⟨s, n, p, w⟩ := x
  induction s generalizing n p w with
  | nil =>
    apply last
    intro after y f
    cases f
  | cons l s ih =>
    by_cases forwards : ∃ after y, Forwards ⟨l :: s, n, p, w⟩ after y
    · obtain ⟨after, y, f⟩ := forwards
      refine on _ after y f ?_
      cases f with
      | mk e => exact ih _ _ _
    · exact last _ fun after y f => forwards ⟨after, y, f⟩

end Way

section Order

variable {h : NativeHandler} {x y z : Arrival} {after : After} {afters : List After} {place i : Nat}
  {b : NativeResult}
  {p : Plan} {w : World}

/--
The log of a layer that passes the request on: its start, the log of the rest, and its result from
there.
-/
lemma turns_of_forwards (f : Forwards x after y) :
    x.turns h place = .start place x :: (y.turns h (place + 1) ++ backs place (y.halt h)) := by
  cases f with
  | mk e =>
    rw [Arrival.turns, turns, e]
    rfl

/-- The log of a layer that passes nothing on is its start. -/
lemma turns_of_not_forwards (last : ∀ after y, ¬ Forwards x after y) :
    x.turns h place = [.start place x] := by
  obtain ⟨s, n, p, w⟩ := x
  cases s with
  | nil => rfl
  | cons l s =>
    rw [Arrival.turns, turns]
    cases e : (l.enter n).halt p w with
    | dropped w' => rfl
    | stuck w' => rfl
    | finished v p' w' =>
      cases v with
      | reply b => rfl
      | forward n' after => exact absurd (.mk e) (last _ _)

/-- A result that comes back is no start. -/
lemma start_not_mem_backs (x : Halt NativeResult) : .start i y ∉ backs place x := by
  cases x with
  | finished b p w => exact fun there => nomatch List.mem_singleton.mp there
  | dropped w => exact List.not_mem_nil
  | stuck w => exact List.not_mem_nil

/-- A result comes back to its place if the run inside ends with it. -/
lemma back_mem_backs_iff {x : Halt NativeResult} :
    .back i b p w ∈ backs place x ↔ i = place ∧ x = .finished b p w := by
  cases x with
  | finished b' p' w' =>
    rw [backs, List.mem_singleton]
    constructor
    · intro e
      cases e
      exact ⟨rfl, rfl⟩
    · rintro ⟨rfl, e⟩
      cases e
      rfl
  | dropped w => exact iff_of_false List.not_mem_nil fun e => nomatch e.2
  | stuck w => exact iff_of_false List.not_mem_nil fun e => nomatch e.2

/-- Nothing comes back from a run without end. -/
lemma backs_of_unfinished {x : Halt NativeResult} (unfinished : ∀ b p w, x ≠ .finished b p w) :
    backs place x = [] := by
  cases x with
  | finished b p w => exact absurd rfl (unfinished b p w)
  | dropped w => rfl
  | stuck w => rfl

/-- What is started are the arrivals behind the layers that are passed. -/
lemma start_mem_turns_iff :
    .start i z ∈ x.turns h place ↔ ∃ afters, Passes x afters z ∧ i = place + afters.length := by
  induction x using inward generalizing place with
  | last x last =>
    rw [turns_of_not_forwards last, List.mem_singleton]
    constructor
    · intro e
      cases e
      exact ⟨[], .here _, rfl⟩
    · rintro ⟨afters, passes, rfl⟩
      cases passes with
      | here => rfl
      | on first later => exact absurd first (last _ _)
  | on x after y f ih =>
    rw [turns_of_forwards f, List.mem_cons, List.mem_append, or_iff_left (start_not_mem_backs _),
      ih]
    constructor
    · rintro (e | ⟨afters, passes, rfl⟩)
      · cases e
        exact ⟨[], .here _, rfl⟩
      · refine ⟨after :: afters, .on f passes, ?_⟩
        rw [List.length_cons]
        omega
    · rintro ⟨afters, passes, rfl⟩
      cases passes with
      | here => exact .inl rfl
      | on first later =>
        obtain ⟨rfl, rfl⟩ := f.unique first
        refine .inr ⟨_, later, ?_⟩
        rw [List.length_cons]
        omega

/-- Results come back to layers that passed the request on, from runs inside that end. -/
lemma back_mem_turns_iff : .back i b p w ∈ x.turns h place ↔
    ∃ afters y after z, Passes x afters y ∧ Forwards y after z ∧ z.halt h = .finished b p w ∧
      i = place + afters.length := by
  induction x using inward generalizing place with
  | last x last =>
    rw [turns_of_not_forwards last, List.mem_singleton]
    constructor
    · intro e
      cases e
    · rintro ⟨afters, y', after', z, passes, f', -⟩
      cases passes with
      | here => exact absurd f' (last _ _)
      | on first later => exact absurd first (last _ _)
  | on x after y f ih =>
    rw [turns_of_forwards f, List.mem_cons, or_iff_right nofun, List.mem_append, ih,
      back_mem_backs_iff]
    constructor
    · rintro (⟨afters, y', after', z, passes, f', ends, rfl⟩ | ⟨rfl, ends⟩)
      · refine ⟨after :: afters, y', after', z, .on f passes, f', ends, ?_⟩
        rw [List.length_cons]
        omega
      · exact ⟨[], x, after, y, .here x, f, ends, rfl⟩
    · rintro ⟨afters, y', after', z, passes, f', ends, rfl⟩
      cases passes with
      | here =>
        obtain ⟨rfl, rfl⟩ := f.unique f'
        exact .inr ⟨rfl, ends⟩
      | on first later =>
        obtain ⟨rfl, rfl⟩ := f.unique first
        refine .inl ⟨_, y', after', z, later, f', ends, ?_⟩
        rw [List.length_cons]
        omega

/-- Starts come in the order of the places, and after them results in the opposite order. -/
lemma order_turns (h : NativeHandler) (place : Nat) (x : Arrival) :
    ∃ k returns, k ≤ x.stack.length ∧
    (x.turns h place).map Turn.label = (List.range' place (k + 1)).map .inl ++ returns.map .inr ∧
    returns <+: (List.range' place k).reverse ∧
    ∀ b p w, x.halt h = .finished b p w → returns = (List.range' place k).reverse := by
  induction x using inward generalizing place with
  | last x last =>
    refine ⟨0, [], Nat.zero_le _, ?_, List.prefix_rfl, fun _ _ _ _ => rfl⟩
    rw [turns_of_not_forwards last]
    rfl
  | on x after y f ih =>
    obtain ⟨k, returns, long, labels, first, all⟩ := ih (place + 1)
    have longer : k + 1 ≤ x.stack.length := by
      cases f with
      | mk e => exact Nat.succ_le_succ long
    have reversed : (List.range' place (k + 1)).reverse = (List.range' (place + 1) k).reverse ++
        [place] := by
      rw [List.range'_succ, List.reverse_cons]
    have starts : List.range' place (k + 1 + 1) = place :: List.range' (place + 1) (k + 1) :=
      List.range'_succ
    rw [turns_of_forwards f, List.map_cons, List.map_append, labels, halt_of_forwards f]
    by_cases ends : ∃ b p w, y.halt h = .finished b p w
    · -- the layer gets its result after those behind it
      obtain ⟨b, p, w, ends⟩ := ends
      have last : returns ++ [place] = (List.range' place (k + 1)).reverse := by
        rw [all b p w ends, reversed]
      refine ⟨k + 1, returns ++ [place], longer, ?_, last ▸ List.prefix_rfl, fun _ _ _ _ => last⟩
      rw [ends, starts, List.map_cons, List.map_append, List.cons_append, ← List.append_assoc]
      rfl
    · have none : backs place (y.halt h) = [] := backs_of_unfinished fun b p w e =>
        ends ⟨b, p, w, e⟩
      refine ⟨k + 1, returns, longer, ?_, reversed ▸ first.trans (List.prefix_append _ _),
        fun _ _ _ e => ?_⟩
      · rw [none, starts, List.map_nil, List.append_nil]
        rfl
      · obtain ⟨b, p, w, inner, -⟩ := Halt.finished_of_bind e
        exact absurd ⟨b, p, w, inner⟩ ends

end Order

/-- What a run of layers does, in which order, and what it ends with. -/
structure Arrival.Layered (h : NativeHandler) (x : Arrival) : Prop where
  /--
  Layers are started in their order up to the last one that is reached.  Then each of those in front
  of it gets its result once, in the opposite order, unless the run is dropped or waits for ever
  before it does.
  -/
  order : ∃ k returns, k ≤ x.stack.length ∧
    (x.turns h 0).map Turn.label = (List.range (k + 1)).map .inl ++ returns.map .inr ∧
    returns <+: (List.range k).reverse ∧ ∀ b p w, x.halt h = .finished b p w →
    returns = (List.range k).reverse
  /-- At each place there stands what comes there in the stack, -/
  placed : ∀ i y, .start i y ∈ x.turns h 0 → y.stack = x.stack.drop i
  /-- and it is started exactly if all layers in front of it call what lies behind them. -/
  started : ∀ i y, .start i y ∈ x.turns h 0 ↔ Reaches i x y
  /-- The handler is started if all layers do so. -/
  handler : (∃ y, .start x.stack.length y ∈ x.turns h 0) ↔
    ∀ i < x.stack.length, ∃ y after z, .start i y ∈ x.turns h 0 ∧ Forwards y after z
  /-- A layer that is started and calls what lies behind it gets just what comes out of that. -/
  returned : ∀ i b p w, .back i b p w ∈ x.turns h 0 ↔
    ∃ y after z, .start i y ∈ x.turns h 0 ∧ Forwards y after z ∧ z.halt h = .finished b p w
  /-- What is produced at the end of the way comes out as the layers on the way back make it, -/
  result : ∀ b p w, x.halt h = .finished b p w ↔ ∃ afters y produced p₁ w₁, Passes x afters y ∧
    Produces h y produced p₁ w₁ ∧ (ascend afters produced).halt p₁ w₁ = .finished b p w
  /-- and an error as it is, unless one of them makes something else of it. -/
  error : ∀ afters y e p₁ w₁ b p w, Passes x afters y → Produces h y (.error e) p₁ w₁ →
    x.halt h = .finished b p w →
    b = .error e ∨ Recovered afters e p₁ w₁

/-- Every arrival is handled in layers. -/
lemma layered (h : NativeHandler) (x : Arrival) : x.Layered h := by
  have started : ∀ i y, .start i y ∈ x.turns h 0 ↔ Reaches i x y := by
    simp only [start_mem_turns_iff, Nat.zero_add, Reaches, eq_comm, implies_true]
  constructor
  case order => simpa only [List.range_eq_range'] using order_turns h 0 x
  case placed =>
    intro i y there
    obtain ⟨afters, passes, rfl⟩ := (started i y).mp there
    exact passes.stack
  case started => exact started
  case handler =>
    constructor
    · rintro ⟨y, last⟩ i lt
      obtain ⟨afters, passes, length⟩ := (started _ y).mp last
      obtain ⟨y', after, z, front, next⟩ := passes.forwards (length ▸ lt)
      refine ⟨y', after, z, (started i y').mpr ⟨_, front, ?_⟩, next⟩
      rw [List.length_take]
      omega
    · intro all
      cases length : x.stack.length with
      | zero => exact ⟨x, (started 0 x).mpr ⟨[], .here x, rfl⟩⟩
      | succ k =>
        obtain ⟨y, after, z, there, next⟩ := all k (by omega)
        obtain ⟨afters, passes, rfl⟩ := (started k y).mp there
        refine ⟨z, (started _ z).mpr ⟨_, passes.concat next, ?_⟩⟩
        rw [List.length_append, List.length_singleton]
  case returned =>
    intro i b p w
    rw [back_mem_turns_iff]
    constructor
    · rintro ⟨afters, y, after, z, passes, next, ends, rfl⟩
      exact ⟨y, after, z, (started _ y).mpr ⟨afters, passes, (Nat.zero_add _).symm⟩, next, ends⟩
    · rintro ⟨y, after, z, there, next, ends⟩
      obtain ⟨afters, passes, rfl⟩ := (started i y).mp there
      exact ⟨afters, y, after, z, passes, next, ends, (Nat.zero_add _).symm⟩
  case result => exact fun b p w => finished_iff
  case error =>
    intro afters y e p₁ w₁ b p w passes produces ends
    rw [passes.halt, halt_of_produces produces] at ends
    exact ascend_error ends

end LayerStack

namespace Server

open LayerStack

/-- The arrival of a request at the layers of a server. -/
def arrival (s : Server) (stack : LayerStack) (n : NativeRequest) (addr : Option SocketAddr)
    (w : World) : Arrival :=
  ⟨stack, { n with remoteAddr := addr.or n.remoteAddr }, s.layersPlan w.clock, w⟩

/-- What a client gets of plain layers. -/
structure Conveys (s : Server) (h : NativeHandler) (stack : LayerStack) (n : NativeRequest)
    (addr : Option SocketAddr) (w : World) : Prop where
  /-- It is what comes out of them. -/
  answer : ∀ b p w', (s.arrival stack n addr w).halt h = .finished b p w' →
    s.runLayers stack n addr h w = (some (ofResult b), w')
  /--
  An error that is produced is answered as what it is, unless a layer on the way back makes
  something else of it.
  -/
  error : ∀ afters y e p₁ w₁ b p w', Passes (s.arrival stack n addr w) afters y →
    Produces h y (.error e) p₁ w₁ →
    (s.arrival stack n addr w).halt h = .finished b p w' →
    s.runLayers stack n addr h w = (some (Response.ofError e).writeOrRender, w') ∨
    Recovered afters e p₁ w₁

/-- Every server conveys what its layers make of a request. -/
lemma conveys (s : Server) (h : NativeHandler) (stack : LayerStack) (n : NativeRequest)
    (addr : Option SocketAddr) (w : World) : s.Conveys h stack n addr w := by
  have answer : ∀ b p w', (s.arrival stack n addr w).halt h = .finished b p w' →
      s.runLayers stack n addr h w = (some (ofResult b), w') := by
    intro b p w' ends
    have run : (stack.run h { n with remoteAddr := addr.or n.remoteAddr }).run
        (s.layersPlan w.clock) w = (.finished b, w') := by
      rw [Task.run_eq]
      exact congrArg Halt.outcome ends
    simp only [runLayers, run]
  refine ⟨answer, fun afters y e p₁ w₁ b p w' passes produces ends => ?_⟩
  rcases (layered h _).error afters y e p₁ w₁ b p w' passes produces ends with rfl | recovered
  · exact .inl (answer _ p w' ends)
  · exact .inr recovered

end Server

end Gatehouse
