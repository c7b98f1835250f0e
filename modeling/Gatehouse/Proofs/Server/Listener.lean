import Mathlib.Data.List.Induction
import Gatehouse.Proofs.Server.Slots
import Gatehouse.Server.Listener

/-!
# Taking connections and draining them

`Listener.Acts` is what each action can do to a listener.  Every action keeps the count of the
connections that are served (`Listener.Kept`), takes on or closes one of them at most (`Acts.perm`),
and takes on none once the loop was left (`Acts.settled`).  `Listener.run_regular` says of all runs
what follows from that: who is refused, that each connection gives its slot back once, and when the
listener returns (`Listener.Returns`).
-/

namespace Gatehouse

namespace Listener

/-- What an action does to a listener, where it can happen. -/
inductive Acts (l : Listener) : ListenerAction → Listener → Prop where
  | admitted {id s} : l.phase = .accepting → id ∉ l.served → l.slots.acquire? = some s →
    Acts l (.connect id) { l with slots := s, served := id :: l.served }
  | refused {id} : l.phase = .accepting → id ∉ l.served → l.slots.acquire? = none →
    Acts l (.connect id) l
  | failed : l.phase = .accepting → Acts l .acceptFails l
  | closed {id cleanly} : id ∈ l.served →
    Acts l (.close id cleanly) { l with slots := l.slots.release, served := l.served.erase id }
  | signalled : Acts l .signal { l with signalled := true }
  | left : l.phase = .accepting → l.signalled = true →
    Acts l .leave { l with phase := .draining l.clock .created }
  | elapsed {ms} : Acts l (.elapse ms) { l with clock := l.clock + ms }
  | waited {since wait} : l.phase = .draining since wait → (l.slots.poll wait).1 ≠ .ready →
    Acts l .poll { l with phase := .draining since (l.slots.poll wait).2 }
  | drained {since wait} : l.phase = .draining since wait → (l.slots.poll wait).1 = .ready →
    Acts l .poll { l with phase := .returned }
  | gaveUp {since wait} : l.phase = .draining since wait → since + l.shutdownTimeout ≤ l.clock →
    Acts l .giveUp { l with phase := .returned }

variable {limits : Limits} {l l' : Listener} {a : ListenerAction} {as : List ListenerAction}

/-- No action does anything else. -/
lemma acts_of_act? (e : l.act? a = some l') : Acts l a l' := by
  cases a with
  | connect id =>
    simp only [act?, Option.ite_none_right_eq_some, Option.some.injEq] at e
    obtain ⟨⟨accepting, fresh⟩, rfl⟩ := e
    unfold take
    cases slot : l.slots.acquire? with
    | some s => exact .admitted accepting fresh slot
    | none => exact .refused accepting fresh slot
  | acceptFails =>
    simp only [act?, Option.ite_none_right_eq_some, Option.some.injEq] at e
    obtain ⟨accepting, rfl⟩ := e
    exact .failed accepting
  | close id cleanly =>
    simp only [act?, Option.ite_none_right_eq_some, Option.some.injEq] at e
    obtain ⟨held, rfl⟩ := e
    exact .closed held
  | signal =>
    cases e
    exact .signalled
  | leave =>
    simp only [act?, Option.ite_none_right_eq_some, Option.some.injEq] at e
    obtain ⟨⟨accepting, signalled⟩, rfl⟩ := e
    exact .left accepting signalled
  | elapse ms =>
    cases e
    exact .elapsed
  | poll =>
    rw [act?] at e
    cases phase : l.phase with
    | accepting => rw [phase] at e; cases e
    | returned => rw [phase] at e; cases e
    | draining since wait =>
      simp only [phase, Option.some.injEq] at e
      subst e
      by_cases ready : (l.slots.poll wait).1 = .ready
      · rw [if_pos ready]
        exact .drained phase ready
      · rw [if_neg ready]
        exact .waited phase ready
  | giveUp =>
    rw [act?] at e
    cases phase : l.phase with
    | accepting => rw [phase] at e; cases e
    | returned => rw [phase] at e; cases e
    | draining since wait =>
      simp only [phase, Option.ite_none_right_eq_some, Option.some.injEq] at e
      obtain ⟨late, rfl⟩ := e
      exact .gaveUp phase late

/-- What every action keeps. -/
structure Kept (limits : Limits) (l : Listener) : Prop where
  limit : l.slots.limit = limits.maxConnections
  timeout : l.shutdownTimeout = limits.shutdownTimeout
  distinct : l.served.Nodup
  counted : l.slots.active = l.served.length
  capped : ∀ cap, limits.maxConnections = some cap → l.slots.active ≤ cap
  waits : ∀ since wait, l.phase = .draining since wait → l.slots.Keeps wait ∧ wait ≠ .finished

/-- A listener that starts has taken no slot. -/
lemma Kept.start (limits : Limits) : Kept limits (.start limits) :=
  ⟨rfl, rfl, .nil, rfl, fun _ _ => Nat.zero_le _, nofun⟩

/-- One step: every action keeps slots and connections in line. -/
lemma Kept.act (k : Kept limits l) (acts : Acts l a l') : Kept limits l' := by
  cases acts with
  | @admitted id s accepting fresh slot =>
    obtain ⟨room, rfl⟩ := Slots.acquire?_eq_some_iff.mp slot
    refine ⟨k.limit, k.timeout, List.nodup_cons.mpr ⟨fresh, k.distinct⟩, ?_, fun cap e => ?_,
      fun since wait e => ?_⟩
    · rw [List.length_cons, ← k.counted]
    · exact room cap (k.limit.trans e)
    · cases accepting.symm.trans e
  | refused _ _ _ => exact k
  | failed _ => exact k
  | @closed id cleanly held =>
    refine ⟨k.limit, k.timeout, k.distinct.erase id, ?_, fun cap e => ?_, fun since wait e => ?_⟩
    · rw [List.length_erase_of_mem held, ← k.counted]
      rfl
    · exact Nat.le_trans (Nat.sub_le _ _) (k.capped cap e)
    · exact ⟨(k.waits since wait e).1.release, (k.waits since wait e).2⟩
  | signalled => exact ⟨k.limit, k.timeout, k.distinct, k.counted, k.capped, k.waits⟩
  | left _ _ =>
    refine ⟨k.limit, k.timeout, k.distinct, k.counted, k.capped, fun since wait e => ?_⟩
    cases e
    exact ⟨.created, nofun⟩
  | elapsed => exact ⟨k.limit, k.timeout, k.distinct, k.counted, k.capped, k.waits⟩
  | @waited since wait draining pending =>
    refine ⟨k.limit, k.timeout, k.distinct, k.counted, k.capped, fun since' wait' e => ?_⟩
    cases e
    obtain ⟨keeps, unfinished⟩ := k.waits since wait draining
    exact ⟨keeps.poll, (l.slots.poll_unfinished unfinished).mpr pending⟩
  | drained _ _ => exact ⟨k.limit, k.timeout, k.distinct, k.counted, k.capped, nofun⟩
  | gaveUp _ _ => exact ⟨k.limit, k.timeout, k.distinct, k.counted, k.capped, nofun⟩

/--
A poll ends the wait exactly if no connection is open: the close of the last one is never missed.
-/
lemma Kept.poll_eq_ready_iff (k : Kept limits l) {since : Nat} {wait : Waiter}
    (draining : l.phase = .draining since wait) :
    (l.slots.poll wait).1 = .ready ↔ l.served = [] := by
  obtain ⟨keeps, unfinished⟩ := k.waits since wait draining
  rw [keeps.poll_eq unfinished, k.counted]
  cases l.served with
  | nil => exact iff_of_true rfl rfl
  | cons id ids => exact iff_of_false nofun nofun

/-- The connection that an action takes on, if it can happen and takes one on. -/
def newcomer? (l : Listener) : ListenerAction → Option Nat
  | .connect id => if l.slots.isFull then none else some id
  | _ => none

/-- The connections that are taken on in the course of actions, in their order. -/
def takenOn (l : Listener) : List ListenerAction → List Nat
  | [] => []
  | a :: as =>
    match l.act? a with
    | some l' => (l.newcomer? a).toList ++ takenOn l' as
    | none => []

/-- The connection that an action closes. -/
def closed? : ListenerAction → Option Nat
  | .close id _ => some id
  | _ => none

/--
The open connections after an action, with the one that it closes, are those before with the
newcomer.
-/
lemma Acts.perm (acts : Acts l a l') :
    ((l.newcomer? a).toList ++ l.served).Perm ((closed? a).toList ++ l'.served) := by
  cases acts with
  | admitted _ _ slot =>
    have room : l.slots.isFull = false := by
      rw [Slots.acquire?] at slot
      cases full : l.slots.isFull with
      | false => rfl
      | true => rw [full] at slot; cases slot
    simp [newcomer?, closed?, room]
  | refused _ _ slot =>
    have full : l.slots.isFull = true := by
      rw [Slots.acquire?] at slot
      cases full : l.slots.isFull with
      | true => rfl
      | false => rw [full] at slot; cases slot
    simp [newcomer?, closed?, full]
  | closed held => exact List.perm_cons_erase held
  | failed _ => exact .rfl
  | signalled => exact .rfl
  | left _ _ => exact .rfl
  | elapsed => exact .rfl
  | waited _ _ => exact .rfl
  | drained _ _ => exact .rfl
  | gaveUp _ _ => exact .rfl

/-- A run begins with its first action. -/
lemma run?_cons_eq_some_iff :
    l.run? (a :: as) = some l' ↔ ∃ m, l.act? a = some m ∧ m.run? as = some l' := by
  rw [run?]
  cases l.act? a with
  | none => exact iff_of_false nofun nofun
  | some m => simp

/-- A run may be made in two parts. -/
lemma run?_append_eq_some_iff {bs : List ListenerAction} :
    l.run? (as ++ bs) = some l' ↔ ∃ m, l.run? as = some m ∧ m.run? bs = some l' := by
  induction as generalizing l with
  | nil => simp [run?]
  | cons a as ih =>
    rw [List.cons_append, run?_cons_eq_some_iff]
    simp only [ih, run?_cons_eq_some_iff]
    constructor
    · rintro ⟨m, act, n, run, rest⟩
      exact ⟨n, ⟨m, act, run⟩, rest⟩
    · rintro ⟨n, ⟨m, act, run⟩, rest⟩
      exact ⟨m, act, n, run, rest⟩

/-- A run ends with its last action. -/
lemma run?_concat_eq_some_iff :
    l.run? (as ++ [a]) = some l' ↔ ∃ m, l.run? as = some m ∧ m.act? a = some l' := by
  have single (m : Listener) : m.run? [a] = some l' ↔ m.act? a = some l' := by
    rw [run?_cons_eq_some_iff]
    exact ⟨fun ⟨n, act, same⟩ => act.trans same, fun act => ⟨l', act, rfl⟩⟩
  rw [run?_append_eq_some_iff]
  simp only [single]

/-- Runs come to all states that can be reached. -/
lemma reaches_iff : l.Reaches l' ↔ ∃ as, l.run? as = some l' := by
  constructor
  · intro reaches
    induction reaches with
    | refl => exact ⟨[], rfl⟩
    | step _ step ih =>
      obtain ⟨as, run⟩ := ih
      obtain ⟨a, act⟩ := step
      exact ⟨as ++ [a], run?_concat_eq_some_iff.mpr ⟨_, run, act⟩⟩
  · rintro ⟨as, run⟩
    induction as using List.reverseRecOn generalizing l' with
    | nil =>
      cases run
      exact .refl
    | append_singleton as a ih =>
      obtain ⟨m, run, act⟩ := run?_concat_eq_some_iff.mp run
      exact .step (ih run) ⟨a, act⟩

/-- Slots and connections are in line after every run. -/
lemma Kept.run (k : Kept limits l) (run : l.run? as = some l') : Kept limits l' := by
  induction as generalizing l with
  | nil =>
    cases run
    exact k
  | cons a as ih =>
    obtain ⟨m, act, run⟩ := run?_cons_eq_some_iff.mp run
    exact ih (k.act (acts_of_act? act)) run

/-- What was served or is taken on is closed or served in the end. -/
lemma perm_of_run (run : l.run? as = some l') :
    (l.served ++ l.takenOn as).Perm (as.filterMap closed? ++ l'.served) := by
  induction as generalizing l with
  | nil =>
    cases run
    exact (List.append_nil _).symm ▸ .rfl
  | cons a as ih =>
    obtain ⟨m, act, run⟩ := run?_cons_eq_some_iff.mp run
    have first := (acts_of_act? act).perm
    have rest := ih run
    have closing : (a :: as).filterMap closed? = (closed? a).toList ++ as.filterMap closed? := by
      cases h : closed? a with
      | none => rw [List.filterMap_cons_none h]; rfl
      | some id => rw [List.filterMap_cons_some h]; rfl
    rw [takenOn, act, closing]
    calc l.served ++ ((l.newcomer? a).toList ++ m.takenOn as)
      _ = (l.served ++ (l.newcomer? a).toList) ++ m.takenOn as := (List.append_assoc _ _ _).symm
      List.Perm _ ((l.newcomer? a).toList ++ l.served ++ m.takenOn as) :=
      List.perm_append_comm.append_right _
      List.Perm _ ((closed? a).toList ++ m.served ++ m.takenOn as) := first.append_right _
      _ = (closed? a).toList ++ (m.served ++ m.takenOn as) := List.append_assoc _ _ _
      List.Perm _ ((closed? a).toList ++ (as.filterMap closed? ++ l'.served)) := rest.append_left _
      _ = (closed? a).toList ++ as.filterMap closed? ++ l'.served := (List.append_assoc _ _ _).symm

/-- Once the loop was left no connection is taken on. -/
lemma Acts.settled (acts : Acts l a l') (left : l.phase ≠ .accepting) :
    l.newcomer? a = none ∧ l'.phase ≠ .accepting := by
  cases acts with
  | admitted accepting _ _ => exact absurd accepting left
  | refused accepting _ _ => exact absurd accepting left
  | failed accepting => exact absurd accepting left
  | closed _ => exact ⟨rfl, left⟩
  | signalled => exact ⟨rfl, left⟩
  | left accepting _ => exact absurd accepting left
  | elapsed => exact ⟨rfl, left⟩
  | waited _ _ => exact ⟨rfl, nofun⟩
  | drained _ _ => exact ⟨rfl, nofun⟩
  | gaveUp _ _ => exact ⟨rfl, nofun⟩

/-- Nothing is taken on after a listener has stopped accepting. -/
lemma takenOn_of_left (left : l.phase ≠ .accepting) (run : l.run? as = some l') :
    l.takenOn as = [] := by
  induction as generalizing l with
  | nil => rfl
  | cons a as ih =>
    obtain ⟨m, act, run⟩ := run?_cons_eq_some_iff.mp run
    obtain ⟨none_new, left'⟩ := (acts_of_act? act).settled left
    rw [takenOn, act]
    simp only [none_new, ih left' run]
    rfl

/-- What had happened before a listener began to drain, and at what time it began. -/
inductive Drains (limits : Limits) (since : Nat) : List ListenerAction → Prop where
  | intro {before between l₁} : .signal ∈ before → (start limits).run? before = some l₁ →
    l₁.phase = .accepting →
    l₁.clock = since → Drains limits since (before ++ .leave :: between)

/--
What had happened before a listener returned: it drained, and then no connection was open or its
time was over.
-/
inductive Returns (limits : Limits) : List ListenerAction → Prop where
  | intro {drain last after l₂ l₃ since wait} :
    Drains limits since drain → (start limits).run? drain = some l₂ →
    l₂.phase = .draining since wait → l₂.act? last = some l₃ → l₃.phase = .returned →
    (l₂.served = [] ∨ since + limits.shutdownTimeout ≤ l₂.clock) →
    Returns limits (drain ++ last :: after)

/-- A listener that has begun to drain has done so after one more action. -/
lemma Drains.concat {since : Nat} (d : Drains limits since as) (a : ListenerAction) :
    Drains limits since (as ++ [a]) := by
  cases d with
  | intro signalled run accepting clock =>
    rw [List.append_assoc, List.cons_append]
    exact .intro signalled run accepting clock

/-- A listener that has returned has done so after one more action. -/
lemma Returns.concat (r : Returns limits as) (a : ListenerAction) : Returns limits (as ++ [a]) := by
  cases r with
  | intro d run draining act returned late =>
    rw [List.append_assoc, List.cons_append]
    exact .intro d run draining act returned late

/-- How far a listener has come, told from what has happened to it. -/
structure Recalls (limits : Limits) (as : List ListenerAction) (l : Listener) : Prop where
  signalled : l.signalled = true → .signal ∈ as
  draining : ∀ since wait, l.phase = .draining since wait → Drains limits since as
  returned : l.phase = .returned → Returns limits as

/-- An action that leaves the signal and the phase alone. -/
lemma Recalls.concat (r : Recalls limits as l) (signal : l'.signalled = l.signalled)
    (phase : l'.phase = l.phase) (a : ListenerAction) : Recalls limits (as ++ [a]) l' := by
  refine ⟨fun h => ?_, fun since wait h => ?_, fun h => ?_⟩
  · exact List.mem_append_left _ (r.signalled (signal ▸ h))
  · exact (r.draining since wait (phase ▸ h)).concat a
  · exact (r.returned (phase ▸ h)).concat a

/-- How far a listener has come is told by what has happened to it. -/
lemma recalls_of_run (run : (start limits).run? as = some l) : Recalls limits as l := by
  induction as using List.reverseRecOn generalizing l with
  | nil =>
    cases run
    exact ⟨nofun, nofun, nofun⟩
  | append_singleton as a ih =>
    obtain ⟨m, earlier, act⟩ := run?_concat_eq_some_iff.mp run
    have r := ih earlier
    have k := (Kept.start limits).run earlier
    have happens (h : m.signalled = true) : .signal ∈ as ++ [a] :=
      List.mem_append_left _ (r.signalled h)
    cases acts_of_act? act with
    | admitted _ _ _ => exact r.concat (by rfl) (by rfl) _
    | refused _ _ _ => exact r.concat (by rfl) (by rfl) _
    | failed _ => exact r.concat (by rfl) (by rfl) _
    | closed _ => exact r.concat (by rfl) (by rfl) _
    | elapsed => exact r.concat (by rfl) (by rfl) _
    | signalled =>
      refine ⟨fun _ => List.mem_append_right _ List.mem_cons_self, fun since wait h => ?_,
        fun h => ?_⟩
      · exact (r.draining since wait h).concat _
      · exact (r.returned h).concat _
    | left accepting signalled =>
      refine ⟨happens, fun since wait h => ?_, nofun⟩
      cases h
      exact .intro (r.signalled signalled) earlier accepting rfl
    | waited draining _ =>
      refine ⟨happens, fun since wait h => ?_, nofun⟩
      cases h
      exact (r.draining _ _ draining).concat _
    | drained draining ready =>
      refine ⟨happens, nofun, fun _ => ?_⟩
      exact .intro (r.draining _ _ draining) earlier draining act rfl
        (.inl ((k.poll_eq_ready_iff draining).mp ready))
    | gaveUp draining late =>
      refine ⟨happens, nofun, fun _ => ?_⟩
      exact .intro (r.draining _ _ draining) earlier draining act rfl (.inr (k.timeout ▸ late))

/-- What can be said of a listener to which some actions have happened, in any order. -/
structure Regular (limits : Limits) (as : List ListenerAction) (l : Listener) : Prop where
  counted : l.served.Nodup ∧ l.slots.active = l.served.length
  capped : ∀ cap, limits.maxConnections = some cap → l.served.length ≤ cap
  /-- A connection is refused if and only if the cap is reached; this changes nothing. -/
  refused : ∀ id l', l.act? (.connect id) = some l' →
    (id ∉ l'.served ↔ limits.maxConnections = some l.served.length) ∧ (id ∉ l'.served → l' = l)
  /-- A connection that is not refused takes one slot. -/
  admitted : ∀ id l', l.act? (.connect id) = some l' → id ∈ l'.served →
    l' = { l with slots := { l.slots with active := l.slots.active + 1 }, served := id :: l.served }
  /-- Each connection that was taken on either has been closed, once, or is being served. -/
  once : ((start limits).takenOn as).Perm (as.filterMap closed? ++ l.served)
  /--
  Closing a connection gives back one slot, and it cannot be closed again; nothing else gives slots
  back.
  -/
  frees : ∀ id cleanly l', l.act? (.close id cleanly) = some l' →
    l'.slots.active + 1 = l.slots.active ∧ l'.served = l.served.erase id ∧
    ∀ again, l'.act? (.close id again) = none
  holds : ∀ a l', l.act? a = some l' → closed? a = none → l.slots.active ≤ l'.slots.active
  /-- Once the loop was left no further connection is served. -/
  settled : l.phase ≠ .accepting → ∀ bs l', l.run? bs = some l' → l.takenOn bs = [] ∧
    l'.served ⊆ l.served
  returns : l.phase = .returned → Returns limits as
  /--
  A draining listener that looks returns exactly if no connection is open, and one that is late can
  return.
  -/
  drains : ∀ since wait, l.phase = .draining since wait →
    ((∃ l', l.act? .poll = some l' ∧ l'.phase = .returned) ↔ l.served = []) ∧
      (since + limits.shutdownTimeout ≤ l.clock → ∃ l', l.act? .giveUp = some l' ∧
        l'.phase = .returned)

/-- No slot is free if as many connections are open as the cap allows. -/
lemma Kept.refused_iff (k : Kept limits l) :
    l.slots.acquire? = none ↔ limits.maxConnections = some l.served.length := by
  rw [Slots.acquire?_eq_none_iff, k.limit, ← k.counted]
  constructor
  · rintro ⟨cap, e, le⟩
    rw [e, Nat.le_antisymm le (k.capped cap e)]
  · intro e
    exact ⟨_, e, Nat.le_refl _⟩

/-- A connection is refused where the cap is reached, and takes a slot where it is not. -/
lemma Kept.connect (k : Kept limits l) {id : Nat} (act : l.act? (.connect id) = some l') :
    (limits.maxConnections = some l.served.length ∧ id ∉ l'.served ∧ l' = l) ∨
      (¬ limits.maxConnections = some l.served.length ∧ id ∈ l'.served ∧
        l' = { l with
          slots := { l.slots with active := l.slots.active + 1 }
          served := id :: l.served }) := by
  cases acts_of_act? act with
  | admitted _ _ slot =>
    have free : ¬ limits.maxConnections = some l.served.length := by
      rw [← k.refused_iff, slot]
      exact nofun
    obtain ⟨-, rfl⟩ := Slots.acquire?_eq_some_iff.mp slot
    exact .inr ⟨free, List.mem_cons_self, rfl⟩
  | refused _ fresh slot => exact .inl ⟨k.refused_iff.mp slot, fresh, rfl⟩

/-- A connection that ends gives back its slot, and it ends once. -/
lemma Kept.close (k : Kept limits l) {id : Nat} {cleanly : Bool}
    (act : l.act? (.close id cleanly) = some l') :
    l'.slots.active + 1 = l.slots.active ∧ l'.served = l.served.erase id ∧
    ∀ again, l'.act? (.close id again) = none := by
  cases acts_of_act? act with
  | closed held =>
    have live : 0 < l.slots.active := k.counted ▸ List.length_pos_of_mem held
    refine ⟨Nat.sub_add_cancel live, rfl, fun again => ?_⟩
    rw [act?, if_neg k.distinct.not_mem_erase]

/-- Only closing a connection gives a slot back. -/
lemma Acts.holds (acts : Acts l a l') (none_closed : closed? a = none) :
    l.slots.active ≤ l'.slots.active := by
  cases acts with
  | admitted _ _ slot =>
    obtain ⟨-, rfl⟩ := Slots.acquire?_eq_some_iff.mp slot
    exact Nat.le_succ _
  | closed _ => cases none_closed
  | refused _ _ _ => exact Nat.le_refl _
  | failed _ => exact Nat.le_refl _
  | signalled => exact Nat.le_refl _
  | left _ _ => exact Nat.le_refl _
  | elapsed => exact Nat.le_refl _
  | waited _ _ => exact Nat.le_refl _
  | drained _ _ => exact Nat.le_refl _
  | gaveUp _ _ => exact Nat.le_refl _

/-- After a listener has stopped accepting its connections can only get fewer. -/
lemma settled_of_left (left : l.phase ≠ .accepting) (run : l.run? as = some l') :
    l.takenOn as = [] ∧ l'.served ⊆ l.served := by
  have none_taken := takenOn_of_left left run
  have perm := perm_of_run run
  rw [none_taken, List.append_nil] at perm
  exact ⟨none_taken, fun id hid => perm.mem_iff.mpr (List.mem_append_right _ hid)⟩

/-- A listener that drains returns when no connection is open, or when its time is over. -/
lemma Kept.drains (k : Kept limits l) {since : Nat} {wait : Waiter}
    (draining : l.phase = .draining since wait) :
    ((∃ l', l.act? .poll = some l' ∧ l'.phase = .returned) ↔ l.served = []) ∧
      (since + limits.shutdownTimeout ≤ l.clock → ∃ l', l.act? .giveUp = some l' ∧
        l'.phase = .returned) := by
  rw [← k.poll_eq_ready_iff draining, ← k.timeout]
  refine ⟨⟨?_, fun ready => ?_⟩, fun late => ?_⟩
  · rintro ⟨l', act, returned⟩
    cases acts_of_act? act with
    | waited _ _ => cases returned
    | drained draining' ready =>
      cases draining.symm.trans draining'
      exact ready
  · refine ⟨{ l with phase := .returned }, ?_, rfl⟩
    simp only [act?, draining, ready, if_true]
  · refine ⟨{ l with phase := .returned }, ?_, rfl⟩
    simp only [act?, draining, late, if_true]

/-- All states that a listener can come to are those of its runs, and every run is regular. -/
theorem run_regular (limits : Limits) :
    (∀ l, (start limits).Reaches l ↔ ∃ as, (start limits).run? as = some l) ∧
    ∀ as l, (start limits).run? as = some l → Regular limits as l := by
  refine ⟨fun l => reaches_iff, fun as l run => ?_⟩
  have k := (Kept.start limits).run run
  constructor
  case counted => exact ⟨k.distinct, k.counted⟩
  case capped => exact fun cap e => k.counted ▸ k.capped cap e
  case refused =>
    intro id l' act
    rcases k.connect act with ⟨full, fresh, rfl⟩ | ⟨free, there, -⟩
    · exact ⟨iff_of_true fresh full, fun _ => rfl⟩
    · exact ⟨iff_of_false (fun fresh => fresh there) free, fun fresh => absurd there fresh⟩
  case admitted =>
    intro id l' act there
    rcases k.connect act with ⟨-, fresh, -⟩ | ⟨-, -, taken⟩
    · exact absurd there fresh
    · exact taken
  case once => exact perm_of_run run
  case frees => exact fun id cleanly l' act => k.close act
  case holds => exact fun a l' act none_closed => (acts_of_act? act).holds none_closed
  case settled => exact fun left bs l' run' => settled_of_left left run'
  case returns => exact (recalls_of_run run).returned
  case drains => exact fun since wait draining => k.drains draining

/-- A listener for one connection at a time. -/
def narrow : Limits := ⟨"", 1000, none, some 1⟩

/--
One connection is served, a second one is refused, and the first one ends while the listener drains.
-/
def busy : List ListenerAction :=
  [.connect 1, .connect 2, .signal, .connect 3, .leave, .poll, .elapse 10, .close 1 false, .poll]

/-- The listener returns as soon as its only connection has ended. -/
theorem run_regular_busy : ∃ l, (start narrow).run? busy = some l ∧ Regular narrow busy l ∧
    (start narrow).takenOn busy = [1] ∧ l.clock = 10 ∧ Returns narrow busy := by
  obtain ⟨-, regular⟩ := run_regular narrow
  have run : ∃ l, (start narrow).run? busy = some l ∧ l.clock = 10 ∧ l.phase = .returned := by
    refine ⟨⟨1000, ⟨some 1, 0, 1⟩, [], true, 10, .returned⟩, ?_, rfl, rfl⟩
    decide
  obtain ⟨l, run, clock, returned⟩ := run
  exact ⟨l, run, regular busy l run, by decide, clock, (regular busy l run).returns returned⟩

end Listener

end Gatehouse
