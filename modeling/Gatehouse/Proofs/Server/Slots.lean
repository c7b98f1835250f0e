import Gatehouse.Proofs.Named
import Gatehouse.Server.Slots

/-!
# Open connections and who waits for the last one

`SlotTable.act` is what can be done with connection slots.  All clones of a tracker share one table,
so an action does not say through which of them it is done.

What was done tells which tokens are live (`SlotTable.live`) and who still waits for the last of
them to be dropped (`SlotTable.standing`), and a table of slots knows the same (`SlotTable.Kept`).
A wake is lost if someone waits who has seen the last wake while no connection is open;
`Slots.Keeps` excludes this: who waits either has not noticed the last wake yet, or has and then a
connection is open.  So after any actions in any order the count is that of the live tokens, slots
are refused at the limit alone, and waiters are ready exactly when no token is live
(`SlotTable.run_orderly`).
-/

namespace Gatehouse

namespace Slots

/-- Where someone who waits can stand: no wake is missed. -/
inductive Keeps (s : Slots) : Waiter → Prop where
  | created : Keeps s .created
  | finished : Keeps s .finished
  | woken {seen} : seen < s.wakes → Keeps s (.waiting seen)
  | asleep : 0 < s.active → Keeps s (.waiting s.wakes)

variable {s s' : Slots} {w : Waiter}

/-- A slot is taken below the limit, and then one more is. -/
lemma acquire?_eq_some_iff : s.acquire? = some s' ↔
    (∀ l, s.limit = some l → s.active < l) ∧ s' = { s with active := s.active + 1 } := by
  unfold acquire? isFull
  cases s.limit with
  | none => simp [eq_comm]
  | some l =>
    by_cases full : l ≤ s.active
    · simp [full, Nat.not_lt.mpr full]
    · simp [full, Nat.not_le.mp full, eq_comm]

/-- No slot is taken at the limit. -/
lemma acquire?_eq_none_iff : s.acquire? = none ↔ ∃ l, s.limit = some l ∧ l ≤ s.active := by
  unfold acquire? isFull
  cases s.limit with
  | none => simp
  | some l => simp

/-- A slot that is taken wakes nobody. -/
lemma Keeps.acquire (k : s.Keeps w) (e : s.acquire? = some s') : s'.Keeps w := by
  obtain ⟨-, rfl⟩ := acquire?_eq_some_iff.mp e
  cases k with
  | created => exact .created
  | finished => exact .finished
  | woken lt => exact .woken lt
  | asleep _ => exact .asleep (Nat.succ_pos _)

/-- The last connection to close wakes everyone who is asleep. -/
lemma Keeps.release (k : s.Keeps w) : s.release.Keeps w := by
  have grows : s.wakes ≤ s.release.wakes := by
    simp only [Slots.release]
    split <;> omega
  cases k with
  | created => exact .created
  | finished => exact .finished
  | woken lt => exact .woken (Nat.lt_of_lt_of_le lt grows)
  | asleep open_ =>
    by_cases last : s.active = 1
    · apply Keeps.woken
      simp only [Slots.release, last, if_true]
      exact Nat.lt_succ_self _
    · have same : s.release.wakes = s.wakes := by simp only [Slots.release, if_neg last]
      rw [← same]
      apply Keeps.asleep
      simp only [Slots.release]
      omega

/-- Who has looked is finished or has seen the last wake. -/
lemma keeps_look (s : Slots) : s.Keeps s.look.2 := by
  unfold look
  split
  · exact .finished
  · exact .asleep (Nat.pos_of_ne_zero ‹_›)

/-- Who is polled misses no wake afterwards. -/
lemma Keeps.poll (k : s.Keeps w) : s.Keeps (s.poll w).2 := by
  cases k with
  | created => exact s.keeps_look
  | finished => exact .finished
  | woken lt =>
    rw [Slots.poll, if_neg (Nat.ne_of_gt lt)]
    exact s.keeps_look
  | asleep open_ =>
    rw [Slots.poll, if_pos rfl]
    exact .asleep open_

/-- A poll tells whether a connection is open, whenever the one who waits has looked before. -/
lemma Keeps.poll_eq (k : s.Keeps w) (unfinished : w ≠ .finished) :
    (s.poll w).1 = if s.active = 0 then .ready else .pending := by
  have looked : s.look.1 = if s.active = 0 then .ready else .pending := by
    unfold look
    split <;> rfl
  cases k with
  | created => exact looked
  | finished => exact absurd rfl unfinished
  | woken lt =>
    rw [Slots.poll, if_neg (Nat.ne_of_gt lt)]
    exact looked
  | asleep open_ => rw [Slots.poll, if_pos rfl, if_neg (Nat.ne_of_gt open_)]

/-- A waiter is done exactly when it was told that it is. -/
lemma poll_unfinished (s : Slots) (unfinished : w ≠ .finished) :
    (s.poll w).2 ≠ .finished ↔ (s.poll w).1 ≠ .ready := by
  have asleep (seen : Nat) : Waiter.waiting seen ≠ .finished ↔ PollResult.pending ≠ .ready := by
    refine iff_of_true (fun h => ?_) (fun h => ?_)
    · cases h
    · cases h
  have looked : s.look.2 ≠ .finished ↔ s.look.1 ≠ .ready := by
    unfold look
    split
    · exact iff_of_false (fun h => h rfl) (fun h => h rfl)
    · exact asleep s.wakes
  cases w with
  | created => exact looked
  | finished => exact absurd rfl unfinished
  | waiting seen =>
    rw [poll]
    split
    · exact asleep seen
    · exact looked

end Slots

/-- What can be done with connection slots. -/
inductive SlotAction where
  | acquire (token : String)
  | drop (token : String)
  | await (waiter : String)
  | poll (waiter : String)
deriving DecidableEq, Repr

/-- What has become of a waiter. -/
inductive Standing where
  /-- It was not ready yet. -/
  | waits
  /-- It was ready once. -/
  | finished
deriving DecidableEq, Repr

namespace Standing

/-- What a waiter is told when it is polled while no token is live, or while one is. -/
def answer (idle : Bool) : Standing → PollResult
  | .waits => if idle then .ready else .pending
  | .finished => .done

/-- What becomes of it then. -/
def polled (idle : Bool) (h : Standing) : Standing := if idle then .finished else h

end Standing

namespace SlotTable

/-- The table after an action. -/
def act (t : SlotTable) : SlotAction → SlotTable
  | .acquire token => (t.acquire token).2
  | .drop token => (t.drop token).2
  | .await waiter => t.await waiter
  | .poll waiter => (t.poll waiter).2

/-- The table after what was done, the latest first. -/
def run (limit : Option Nat) : List SlotAction → SlotTable
  | [] => start limit
  | a :: past => (run limit past).act a

/--
The tokens that are live after what was done: one is added unless the limit is reached, in place of
the one that had its name, and lives until it is dropped.
-/
def live (limit : Option Nat) : List SlotAction → List String
  | [] => []
  | .acquire token :: past =>
    if limit = some (live limit past).length ∨ token ∈ live limit past then live limit past
    else token :: live limit past
  | .drop token :: past => (live limit past).erase token
  | .await _ :: past | .poll _ :: past => live limit past

/--
What has become of the waiter that was last made under a name: it waits until it is polled while no
token is live.
-/
def standing (limit : Option Nat) : List SlotAction → String → Option Standing
  | [], _ => none
  | .await name :: past, waiter => if waiter = name then some .waits else standing limit past waiter
  | .poll name :: past, waiter =>
    if waiter = name then (standing limit past waiter).map (·.polled (live limit past).isEmpty)
    else standing limit past waiter
  | .acquire _ :: past, waiter | .drop _ :: past, waiter => standing limit past waiter

/-- What a poll of a waiter tells: ready if no token is live, and nothing more once it was ready. -/
def told (limit : Option Nat) (past : List SlotAction) (waiter : String) : Option PollResult :=
  (standing limit past waiter).map (·.answer (live limit past).isEmpty)

/-- A waiter of a table stands as what was done says, and misses no wake while it waits. -/
inductive Stands (s : Slots) : Option Standing → Option Waiter → Prop where
  | absent : Stands s none none
  | waiting {w} : s.Keeps w → w ≠ .finished → Stands s (some .waits) (some w)
  | finished : Stands s (some .finished) (some .finished)

/-- Waiters stand as they did if no wake is missed. -/
lemma Stands.mono {s s' : Slots} {h : Option Standing} {w : Option Waiter} (st : Stands s h w)
    (keeps : ∀ w, s.Keeps w → s'.Keeps w) : Stands s' h w := by
  cases st with
  | absent => exact .absent
  | waiting k unfinished => exact .waiting (keeps _ k) unfinished
  | finished => exact .finished

/-- A poll tells a waiter what it should, and leaves it as it should stand. -/
lemma Stands.poll {s : Slots} {h : Standing} {w : Waiter} (st : Stands s (some h) (some w))
    {idle : Bool} (counted : s.active = 0 ↔ idle = true) : (s.poll w).1 = h.answer idle ∧
      Stands s (some (h.polled idle)) (some (s.poll w).2) := by
  cases st with
  | finished =>
    refine ⟨rfl, ?_⟩
    have same : Standing.finished.polled idle = .finished := ite_self _
    rw [same]
    exact .finished
  | waiting k unfinished =>
    have told := k.poll_eq unfinished
    have ended := s.poll_unfinished unfinished
    cases idle with
    | true =>
      rw [if_pos (counted.mpr rfl)] at told
      have last : (s.poll w).2 = .finished := not_not.mp (mt ended.mp (not_not.mpr told))
      rw [told, last]
      exact ⟨rfl, .finished⟩
    | false =>
      rw [if_neg (mt counted.mp nofun)] at told
      exact ⟨told, .waiting k.poll (ended.mpr (by rw [told]; nofun))⟩

/-- A live token gives its slot back. -/
lemma drop_held {t : SlotTable} {token : String} (held : token ∈ t.tokens) : t.drop token =
    (true, { t with slots := t.slots.release, tokens := t.tokens.erase token }) :=
  if_pos (List.contains_iff_mem.mpr held)

/-- Nothing happens if a token is dropped that is not live. -/
lemma drop_free {t : SlotTable} {token : String} (free : token ∉ t.tokens) :
    t.drop token = (false, t) :=
  if_neg (mt List.contains_iff_mem.mp free)

/-- What every action keeps: the table knows the live tokens, their number and every waiter. -/
structure Kept (limit : Option Nat) (past : List SlotAction) (t : SlotTable) : Prop where
  allowed : t.slots.limit = limit
  tokens : t.tokens = live limit past
  distinct : t.tokens.Nodup
  counted : t.slots.active = t.tokens.length
  capped : ∀ l, limit = some l → t.slots.active ≤ l
  waiters : ∀ waiter, Stands t.slots (standing limit past waiter) (t.waiters.lookup waiter)

namespace Kept

variable {limit : Option Nat} {past : List SlotAction} {t : SlotTable}

/-- At first there is neither a token nor a waiter. -/
lemma start (limit : Option Nat) : Kept limit [] (.start limit) :=
  ⟨rfl, rfl, .nil, rfl, fun l _ => Nat.zero_le l, fun _ => .absent⟩

/-- Slots are exhausted when as many tokens are live as the limit allows. -/
lemma acquire?_eq_none_iff (k : Kept limit past t) :
    t.slots.acquire? = none ↔ limit = some t.tokens.length := by
  rw [Slots.acquire?_eq_none_iff, k.allowed, ← k.counted]
  constructor
  · rintro ⟨l, e, le⟩
    rw [e, Nat.le_antisymm le (k.capped l e)]
  · intro e
    exact ⟨_, e, Nat.le_refl _⟩

/-- A slot is refused when as many tokens are live as the limit allows, and this changes nothing. -/
lemma acquire_full (k : Kept limit past t) (full : limit = some t.tokens.length) (token : String) :
    t.acquire token = (false, t) := by
  rw [SlotTable.acquire, k.acquire?_eq_none_iff.mpr full]

/--
Below the limit a token whose name is taken drops the earlier one, so the count is what it was.
-/
lemma acquire_held (k : Kept limit past t) (room : limit ≠ some t.tokens.length) {token : String}
    (held : token ∈ t.tokens) : ∃ s, t.slots.acquire? = some s ∧
      t.acquire token = (true, { t with slots := s.release }) := by
  cases e : t.slots.acquire? with
  | none => exact absurd (k.acquire?_eq_none_iff.mp e) room
  | some s =>
    refine ⟨s, rfl, ?_⟩
    rw [SlotTable.acquire, e]
    simp only [if_pos (List.contains_iff_mem.mpr held)]

/-- Below the limit a token with a name that is free takes one more slot. -/
lemma acquire_free (k : Kept limit past t) (room : limit ≠ some t.tokens.length) {token : String}
    (free : token ∉ t.tokens) : ∃ s, t.slots.acquire? = some s ∧
      t.acquire token = (true, { t with slots := s, tokens := token :: t.tokens }) := by
  cases e : t.slots.acquire? with
  | none => exact absurd (k.acquire?_eq_none_iff.mp e) room
  | some s =>
    refine ⟨s, rfl, ?_⟩
    rw [SlotTable.acquire, e]
    simp only [if_neg (mt List.contains_iff_mem.mp free)]

/-- Whether a slot is taken or not, the table knows it. -/
lemma acquire (k : Kept limit past t) (token : String) :
    Kept limit (.acquire token :: past) (t.acquire token).2 := by
  by_cases full : limit = some t.tokens.length
  · rw [k.acquire_full full]
    refine ⟨k.allowed, ?_, k.distinct, k.counted, k.capped, k.waiters⟩
    rw [live, if_pos (.inl (k.tokens ▸ full)), k.tokens]
  by_cases held : token ∈ t.tokens
  · obtain ⟨s, e, acquired⟩ := k.acquire_held full held
    have keeps (w) (kept : t.slots.Keeps w) : s.release.Keeps w := (kept.acquire e).release
    obtain ⟨room, rfl⟩ := Slots.acquire?_eq_some_iff.mp e
    rw [acquired]
    refine ⟨k.allowed, ?_, k.distinct, k.counted, k.capped,
      fun waiter => (k.waiters waiter).mono keeps⟩
    rw [live, if_pos (.inr (k.tokens ▸ held)), k.tokens]
  · obtain ⟨s, e, acquired⟩ := k.acquire_free full held
    have keeps (w) (kept : t.slots.Keeps w) : s.Keeps w := kept.acquire e
    obtain ⟨room, rfl⟩ := Slots.acquire?_eq_some_iff.mp e
    rw [acquired]
    refine ⟨k.allowed, ?_, List.nodup_cons.mpr ⟨held, k.distinct⟩, ?_, fun l e => ?_,
      fun waiter => (k.waiters waiter).mono keeps⟩
    · rw [live, if_neg (not_or.mpr ⟨k.tokens ▸ full, k.tokens ▸ held⟩), k.tokens]
    · rw [List.length_cons, ← k.counted]
    · exact room l (k.allowed.trans e)

/-- Whether a token was live or not, the table knows that it is not any more. -/
lemma drop (k : Kept limit past t) (token : String) :
    Kept limit (.drop token :: past) (t.drop token).2 := by
  by_cases held : token ∈ t.tokens
  · rw [drop_held held]
    refine ⟨k.allowed, congrArg (·.erase token) k.tokens, k.distinct.erase token, ?_, fun l e => ?_,
      fun waiter => (k.waiters waiter).mono fun _ kept => kept.release⟩
    · rw [List.length_erase_of_mem held, ← k.counted]
      rfl
    · exact Nat.le_trans (Nat.sub_le _ _) (k.capped l e)
  · rw [drop_free held]
    refine ⟨k.allowed, ?_, k.distinct, k.counted, k.capped, k.waiters⟩
    rw [live, ← k.tokens, List.erase_of_not_mem held]

/-- A waiter that is made stands in the table. -/
lemma await (k : Kept limit past t) (waiter : String) :
    Kept limit (.await waiter :: past) (t.await waiter) := by
  refine ⟨k.allowed, k.tokens, k.distinct, k.counted, k.capped, fun name => ?_⟩
  rw [SlotTable.await, lookup_cons_ite, standing]
  split
  · exact .waiting .created nofun
  · exact k.waiters name

/-- No token is live when the count is zero. -/
lemma idle_iff (k : Kept limit past t) : t.slots.active = 0 ↔ (live limit past).isEmpty = true := by
  rw [k.counted, k.tokens, List.length_eq_zero_iff, List.isEmpty_iff]

/-- A poll answers what is told. -/
lemma poll_fst (k : Kept limit past t) (waiter : String) :
    (t.poll waiter).1 = told limit past waiter := by
  have here := k.waiters waiter
  unfold told SlotTable.poll
  cases found : t.waiters.lookup waiter with
  | none =>
    rw [found] at here
    generalize standing limit past waiter = h at here
    cases here
    rfl
  | some w =>
    rw [found] at here
    generalize standing limit past waiter = h at here
    cases h with
    | none => cases here
    | some h => exact congrArg some (here.poll k.idle_iff).1

/-- A waiter that is polled stands in the table as it was told. -/
lemma poll (k : Kept limit past t) (waiter : String) :
    Kept limit (.poll waiter :: past) (t.poll waiter).2 := by
  have here := k.waiters waiter
  cases found : t.waiters.lookup waiter with
  | none =>
    have polled : t.poll waiter = (none, t) := by rw [SlotTable.poll, found]
    rw [polled]
    refine ⟨k.allowed, k.tokens, k.distinct, k.counted, k.capped, fun name => ?_⟩
    rw [standing]
    split
    case isTrue same =>
      rw [found] at here
      rw [same, found]
      generalize standing limit past waiter = h at here ⊢
      cases here
      exact .absent
    case isFalse => exact k.waiters name
  | some w =>
    have polled : t.poll waiter =
        (some (t.slots.poll w).1,
        { t with waiters := (waiter, (t.slots.poll w).2) :: t.waiters }) := by
      rw [SlotTable.poll, found]
    rw [polled]
    refine ⟨k.allowed, k.tokens, k.distinct, k.counted, k.capped, fun name => ?_⟩
    rw [standing, lookup_cons_ite]
    split
    case isTrue same =>
      rw [found] at here
      rw [same]
      generalize standing limit past waiter = h at here ⊢
      cases h with
      | none => cases here
      | some h => exact (here.poll k.idle_iff).2
    case isFalse => exact k.waiters name

/-- No action makes the table lose what it knows. -/
lemma act (k : Kept limit past t) (a : SlotAction) : Kept limit (a :: past) (t.act a) := by
  cases a with
  | acquire token => exact k.acquire token
  | drop token => exact k.drop token
  | await waiter => exact k.await waiter
  | poll waiter => exact k.poll waiter

/-- Whatever was done, the table knows it. -/
lemma run (limit : Option Nat) (past : List SlotAction) : Kept limit past (run limit past) := by
  induction past with
  | nil => exact .start limit
  | cons a past k => exact k.act a

/-- A slot is refused if and only if as many tokens are live as the limit allows. -/
lemma refused_iff (k : Kept limit past t) (token : String) :
    (t.acquire token).1 = false ↔ limit = some t.tokens.length := by
  rw [← k.acquire?_eq_none_iff, SlotTable.acquire]
  cases t.slots.acquire? with
  | none => exact iff_of_true rfl rfl
  | some s => exact iff_of_false nofun nofun

/-- A slot that is taken was not refused. -/
lemma room_of_taken (k : Kept limit past t) {token : String} (taken : (t.acquire token).1 = true) :
    limit ≠ some t.tokens.length := by
  intro full
  rw [(k.refused_iff token).mpr full] at taken
  cases taken

end Kept

/-- What can be said of slots after what was done with them. -/
structure Orderly (limit : Option Nat) (past : List SlotAction) (t : SlotTable) : Prop where
  /--
  The tokens of the table are those that are live, each of them once, and their number is the count.
  -/
  tokens : t.tokens = live limit past ∧ t.tokens.Nodup
  counted : t.slots.active = (live limit past).length
  capped : ∀ l, limit = some l → t.slots.active ≤ l
  /--
  A slot is refused if and only if as many tokens are live as the limit allows; this changes
  nothing.
  -/
  refused : ∀ token, (t.acquire token).1 = false ↔ limit = some (live limit past).length
  unchanged : ∀ token, (t.acquire token).1 = false → (t.acquire token).2 = t
  /--
  A slot that is not refused is taken: one more token is live, unless it takes the place of another.
  -/
  admitted : ∀ token, (t.acquire token).1 = true → token ∉ live limit past →
    (t.acquire token).2.tokens = token :: t.tokens ∧
    (t.acquire token).2.slots.active = t.slots.active + 1
  replaced : ∀ token, (t.acquire token).1 = true → token ∈ live limit past →
    (t.acquire token).2.tokens = t.tokens ∧ (t.acquire token).2.slots.active = t.slots.active
  /-- A token that is dropped is live no more, and the count never falls below zero. -/
  dropped : ∀ token, token ∈ live limit past → (t.drop token).1 = true ∧
    (t.drop token).2.tokens = t.tokens.erase token ∧
    (t.drop token).2.slots.active + 1 = t.slots.active
  /-- A poll of a waiter that was not ready before gives whether no token is live. -/
  polled : ∀ waiter, (t.poll waiter).1 = told limit past waiter

/-- Slots stay in order whatever is done, and nobody misses that the last connection has closed. -/
theorem run_orderly (limit : Option Nat) (past : List SlotAction) :
    Orderly limit past (run limit past) := by
  have k := Kept.run limit past
  generalize run limit past = t at k
  refine ⟨⟨k.tokens, k.distinct⟩, k.tokens ▸ k.counted, k.capped, fun token => ?refused,
    fun token no => ?unchanged, fun token taken free => ?admitted,
    fun token taken held => ?replaced, fun token held => ?dropped, k.poll_fst⟩
  case refused => rw [k.refused_iff, k.tokens]
  case unchanged => rw [k.acquire_full ((k.refused_iff token).mp no)]
  case admitted =>
    rw [← k.tokens] at free
    obtain ⟨s, e, acquired⟩ := k.acquire_free (k.room_of_taken taken) free
    obtain ⟨-, rfl⟩ := Slots.acquire?_eq_some_iff.mp e
    rw [acquired]
    exact ⟨rfl, rfl⟩
  case replaced =>
    rw [← k.tokens] at held
    obtain ⟨s, e, acquired⟩ := k.acquire_held (k.room_of_taken taken) held
    obtain ⟨-, rfl⟩ := Slots.acquire?_eq_some_iff.mp e
    rw [acquired]
    exact ⟨rfl, rfl⟩
  case dropped =>
    rw [← k.tokens] at held
    have some_live : 0 < t.slots.active := k.counted ▸ List.length_pos_of_mem held
    rw [drop_held held]
    exact ⟨rfl, rfl, Nat.sub_add_cancel some_live⟩

/-- The count comes to zero and goes up again between two polls, and the waiter waits on. -/
example : ((run none [.acquire "b", .drop "a", .poll "w", .await "w", .acquire "a"]).poll "w").1 =
    some .pending := by decide

end SlotTable

end Gatehouse
