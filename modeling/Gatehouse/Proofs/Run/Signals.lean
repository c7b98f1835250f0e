import Gatehouse.Proofs.Named
import Gatehouse.Proofs.Handles
import Gatehouse.Run.Signal

/-!
# Signals are never missed

`Signals.act?` is what can be done with signals through named handles, and its answers.  What is
answered is compared with what was done and answered before, the latest first: `Signals.Fired` says
that a signal was fired through some handle of its group, and `Signals.Awaits` who waits for it and
whether they were told.

A firing is missed if someone is asleep who has seen the last version of a cell that has fired.
`SignalCell.Keeps` excludes this, for both ways to fire, and every action keeps it
(`Signals.Kept.act`).  So whatever is done, in any order and through any handles, the answers are
those of `Signals.Lawful` (`Signals.after_lawful`).
-/

namespace Gatehouse

namespace SignalCell

/-- Where someone who waits for a signal can stand. -/
inductive Keeps (c : SignalCell) : Waiter → Prop where
  | created : Keeps c .created
  | finished : Keeps c .finished
  | behind {seen} : seen < c.version → Keeps c (.waiting seen)
  | asleep : c.fired = false → Keeps c (.waiting c.version)

variable {c : SignalCell} {w : Waiter}

/-- A cell that was fired is fired. -/
lemma fired_fire (mode : FireMode) (c : SignalCell) : (mode.fire c).fired = true := by
  cases mode with
  | always => rfl
  | once =>
    rw [FireMode.fire, writeOnce]
    split
    case isTrue fired => exact fired
    case isFalse => rfl

/--
A firing that changes something is behind nobody's back: whoever slept has an older version now.
-/
lemma Keeps.fire (k : c.Keeps w) (mode : FireMode) : (mode.fire c).Keeps w := by
  have woken (k : c.Keeps w) : (SignalCell.mk true (c.version + 1)).Keeps w := by
    cases k with
    | created => exact .created
    | finished => exact .finished
    | behind older => exact .behind (Nat.lt_succ_of_lt older)
    | asleep _ => exact .behind (Nat.lt_succ_self _)
  cases mode with
  | always => exact woken k
  | once =>
    rw [FireMode.fire, writeOnce]
    split
    case isTrue => exact k
    case isFalse => exact woken k

/-- Someone who looks at a cell stands where those who wait can. -/
lemma keeps_look (c : SignalCell) : c.Keeps (Waiter.look c).2 := by
  cases fired : c.fired with
  | true =>
    rw [Waiter.look, if_pos fired]
    exact .finished
  | false =>
    rw [Waiter.look, if_neg (Bool.eq_false_iff.mp fired)]
    exact .asleep fired

/-- Someone who asks a cell again stands where those who wait can. -/
lemma Keeps.poll (k : c.Keeps w) : c.Keeps (w.poll c).2 := by
  cases k with
  | created => exact c.keeps_look
  | finished => exact .finished
  | behind older =>
    rw [Waiter.poll, if_neg (Nat.ne_of_gt older)]
    exact c.keeps_look
  | asleep unfired =>
    rw [Waiter.poll, if_pos rfl]
    exact .asleep unfired

/-- A poll tells whether the signal has fired, whenever the one who waits has looked before. -/
lemma Keeps.poll_eq (k : c.Keeps w) (unfinished : w ≠ .finished) :
    (w.poll c).1 = if c.fired then .ready else .pending := by
  have looked : (Waiter.look c).1 = if c.fired then .ready else .pending := by
    unfold Waiter.look
    split
    all_goals rfl
  cases k with
  | created => exact looked
  | finished => exact absurd rfl unfinished
  | behind older =>
    rw [Waiter.poll, if_neg (Nat.ne_of_gt older)]
    exact looked
  | asleep unfired => rw [Waiter.poll, if_pos rfl, if_neg (Bool.eq_false_iff.mp unfired)]

end SignalCell

namespace Waiter

variable {c : SignalCell} {w : Waiter}

/-- A look at a cell tells that it has fired, or leaves someone who waits. -/
lemma look_cases (c : SignalCell) :
    look c = (.ready, .finished) ∨ look c = (.pending, .waiting c.version) := by
  unfold look
  split
  case isTrue => exact .inl rfl
  case isFalse => exact .inr rfl

/-- Who is told is done with waiting. -/
lemma finished_of_ready (ready : (w.poll c).1 = .ready) : (w.poll c).2 = .finished := by
  have looked (ready : (look c).1 = .ready) : (look c).2 = .finished := by
    rcases look_cases c with e | e
    · rw [e]
    · rw [e] at ready
      cases ready
  cases w with
  | created => exact looked ready
  | finished => rfl
  | waiting seen =>
    rw [poll] at ready ⊢
    split at ready
    · cases ready
    · rw [if_neg ‹_›]
      exact looked ready

/-- Who is not told waits on, or was told before. -/
lemma finished_iff_of_not_ready (unready : (w.poll c).1 ≠ .ready) :
    (w.poll c).2 = .finished ↔ w = .finished := by
  have waits (seen : Nat) : ¬ Waiter.waiting seen = .finished := nofun
  have looked (unready : (look c).1 ≠ .ready) : ¬ (look c).2 = .finished := by
    rcases look_cases c with e | e
    · rw [e] at unready
      exact absurd rfl unready
    · rw [e]
      exact waits _
  cases w with
  | created => exact iff_of_false (looked unready) nofun
  | finished => exact iff_of_true rfl rfl
  | waiting seen =>
    rw [poll] at unready ⊢
    split at unready
    · rw [if_pos ‹_›]
    · rw [if_neg ‹_›]
      exact iff_of_false (looked unready) (waits _)

end Waiter

/-- What can be done with signals through named handles. -/
inductive SignalAction where
  /-- A new signal. -/
  | create (handle : String)
  /-- One more name for the signal of a handle. -/
  | clone (handle name : String)
  | fire (handle : String)
  /-- Asks whether the signal has fired. -/
  | look (handle : String)
  /-- A new waiter for the signal of a handle. -/
  | await (handle waiter : String)
  | poll (waiter : String)
deriving DecidableEq, Repr

/-- What is answered. -/
inductive SignalAnswer where
  | nothing
  | told (fired : Bool)
  /-- The result of a poll; there is none if nobody waits under the name. -/
  | polled (r : Option PollResult)
deriving DecidableEq, Repr

namespace SignalAction

/-- What an action does to the names of handles. -/
def naming : SignalAction → Naming
  | .create handle => .opens handle
  | .clone handle name => .copies handle name
  | _ => .keeps

/-- The handle through which something is done. -/
def handle? : SignalAction → Option String
  | .clone handle _ | .fire handle | .look handle | .await handle _ => some handle
  | .create _ | .poll _ => none

end SignalAction

/-- What was done, and what was answered. -/
abbrev SignalEvent := SignalAction × SignalAnswer

namespace Signals

/-- The answer to an action and the signals after it; there are none if the handle is not known. -/
def act? (s : Signals) : SignalAction → Option (SignalAnswer × Signals)
  | .create handle => some (.nothing, s.create handle)
  | .clone handle name => (s.cell? handle).map fun i => (.nothing, s.clone i name)
  | .fire handle => (s.cell? handle).map fun i => (.nothing, s.fire i)
  | .look handle => (s.cell? handle).map fun i => (.told (s.isFired i), s)
  | .await handle waiter => (s.cell? handle).map fun i => (.nothing, s.await i waiter)
  | .poll waiter => some (.polled (s.poll waiter).1, (s.poll waiter).2)

/-- The signals after what was done, the latest first; at first there is none. -/
inductive After (mode : FireMode) : List SignalEvent → Signals → Prop where
  | nil : After mode [] ⟨mode, [], [], []⟩
  | cons {past s a r s'} : After mode past s → s.act? a = some (r, s') →
    After mode ((a, r) :: past) s'

/-- The signal, by its number, for which a handle stands. -/
def groupOf (past : List SignalEvent) : String → Option Nat :=
  Naming.groupOf (past.map fun e => e.1.naming)

/-- Some handle of the signal was fired. -/
inductive Fired (g : Nat) : List SignalEvent → Prop where
  | now {handle r past} : groupOf past handle = some g → Fired g ((.fire handle, r) :: past)
  | before {e past} : Fired g past → Fired g (e :: past)

/-- Who waits under a name, for which signal, and whether they were told that it has fired. -/
inductive Awaits (waiter : String) : List SignalEvent → Nat → Bool → Prop where
  | created {handle r past g} : groupOf past handle = some g →
    Awaits waiter ((.await handle waiter, r) :: past) g false
  | told {past g told} : Awaits waiter past g told →
    Awaits waiter ((.poll waiter, .polled (some .ready)) :: past) g true
  | other {e past g told} : Awaits waiter past g told →
    (∀ handle r, e ≠ (.await handle waiter, r)) →
    e ≠ (.poll waiter, .polled (some .ready)) → Awaits waiter (e :: past) g told

variable {mode : FireMode} {past : List SignalEvent} {e : SignalEvent} {a : SignalAction}
  {r : SignalAnswer}
variable {s s' : Signals} {waiter handle : String} {g g' : Nat} {told told' : Bool}

/-- Under one name one signal is awaited, and its waiter was told or not. -/
lemma Awaits.unique (w : Awaits waiter past g told) (w' : Awaits waiter past g' told') :
    g = g' ∧ told = told' := by
  induction w generalizing g' told' with
  | created known =>
    cases w' with
    | created known' =>
      rw [known] at known'
      cases known'
      exact ⟨rfl, rfl⟩
    | other _ renewed _ => exact absurd rfl (renewed _ _)
  | told _ ih =>
    cases w' with
    | told w' => exact ⟨(ih w').1, rfl⟩
    | other _ _ ready => exact absurd rfl ready
  | other _ renewed ready ih =>
    cases w' with
    | created _ => exact absurd rfl (renewed _ _)
    | told _ => exact absurd rfl ready
    | other w' _ _ => exact ih w'

/-- Unless the name is given away, who waits under it has waited before. -/
lemma Awaits.tail (w : Awaits waiter (e :: past) g told)
    (renewed : ∀ handle r, e ≠ (.await handle waiter, r)) :
    ∃ told, Awaits waiter past g told := by
  cases w with
  | created _ => exact absurd rfl (renewed _ _)
  | told w => exact ⟨_, w⟩
  | other w _ _ => exact ⟨_, w⟩

/-- A signal was fired by the last action or before. -/
lemma fired_cons_iff : Fired g ((a, r) :: past) ↔
    (∃ handle, a = .fire handle ∧ groupOf past handle = some g) ∨ Fired g past := by
  constructor
  · rintro (⟨known⟩ | ⟨f⟩)
    · exact .inl ⟨_, rfl, known⟩
    · exact .inr f
  · rintro (⟨handle, rfl, known⟩ | f)
    · exact .now known
    · exact .before f

/-- A new cell leaves all others as they are. -/
lemma cellAt_create (s : Signals) (handle : String) (j : Nat) :
    (s.create handle).cellAt j = s.cellAt j := by
  simp only [create, cellAt, List.getElem?_append]
  split
  case isTrue => rfl
  case isFalse beyond =>
    rw [List.getElem?_eq_none (Nat.le_of_not_lt beyond)]
    cases j - s.cells.length with
    | zero => rfl
    | succ n => rfl

/-- Firing changes the cell that is fired alone. -/
lemma cellAt_fire {i : Nat} (held : i < s.cells.length) (j : Nat) :
    (s.fire i).cellAt j = if j = i then s.mode.fire (s.cellAt i) else s.cellAt j := by
  simp only [fire, cellAt, List.getElem?_set]
  by_cases same : i = j
  · rw [if_pos same, if_pos held, if_pos same.symm]
    rfl
  · rw [if_neg same, if_neg (Ne.symm same)]

/-- Those who wait under a name stand where they can. -/
structure Waiting (past : List SignalEvent) (s : Signals) : Prop where
  waits : ∀ waiter g w, s.waiters.lookup waiter = some (g, w) →
    (s.cellAt g).Keeps w ∧ Awaits waiter past g (decide (w = .finished))
  unawaited : ∀ waiter, s.waiters.lookup waiter = none → ∀ g told, ¬ Awaits waiter past g told

namespace Waiting

/-- Where nobody begins to wait and nobody is told, waiters are as they were. -/
lemma cons (k : Waiting past s) (kept : s'.waiters = s.waiters)
    (cells : ∀ g w, (s.cellAt g).Keeps w → (s'.cellAt g).Keeps w)
    (unrenewed : ∀ waiter handle r, e ≠ (.await handle waiter, r))
    (unready : ∀ waiter, e ≠ (.poll waiter, .polled (some .ready))) : Waiting (e :: past) s' := by
  refine ⟨fun waiter g w found => ?_, fun waiter found g told w => ?_⟩
  · rw [kept] at found
    obtain ⟨keeps, awaits⟩ := k.waits waiter g w found
    exact ⟨cells g w keeps, awaits.other (unrenewed waiter) (unready waiter)⟩
  · rw [kept] at found
    obtain ⟨told, w⟩ := w.tail (unrenewed waiter)
    exact k.unawaited waiter found g told w

/-- Where a waiter is entered under a name, the others are as they were. -/
lemma entered {i : Nat} {w : Waiter} (k : Waiting past s) (keeps : (s.cellAt i).Keeps w)
    (awaits : Awaits waiter (e :: past) i (decide (w = .finished)))
    (unrenewed : ∀ name, name ≠ waiter → ∀ handle r, e ≠ (.await handle name, r))
    (unready : ∀ name, name ≠ waiter → e ≠ (.poll name, .polled (some .ready))) :
    Waiting (e :: past) { s with waiters := (waiter, i, w) :: s.waiters } := by
  have looked := lookup_cons_ite waiter (i, w) s.waiters
  refine ⟨fun name g w found => ?_, fun name found g told awaits => ?_⟩
  · rw [looked] at found
    split at found
    case isTrue same =>
      cases found
      rw [same]
      exact ⟨keeps, awaits⟩
    case isFalse other =>
      obtain ⟨keeps, awaits⟩ := k.waits name g w found
      exact ⟨keeps, awaits.other (unrenewed name other) (unready name other)⟩
  · rw [looked] at found
    split at found
    case isTrue => cases found
    case isFalse other =>
      obtain ⟨told, awaits⟩ := awaits.tail (unrenewed name other)
      exact k.unawaited name found g told awaits

end Waiting

/-- What every action keeps. -/
structure Kept (past : List SignalEvent) (s : Signals) : Prop extends Waiting past s where
  tracks : Tracks (past.map fun e => e.1.naming) s.cell? s.cells.length
  fired : ∀ g, (s.cellAt g).fired = true ↔ Fired g past

namespace Kept

/-- The signal of a handle is the number of its cell. -/
lemma groupOf_eq (k : Kept past s) (handle : String) : groupOf past handle = s.cell? handle :=
  (k.tracks.known handle).symm

/-- Where nothing is fired, what has fired is as it was. -/
lemma fired_cons (k : Kept past s) (cells : ∀ g, s'.cellAt g = s.cellAt g)
    (unfired : ∀ handle, a ≠ .fire handle) (g : Nat) :
    (s'.cellAt g).fired = true ↔ Fired g ((a, r) :: past) := by
  rw [cells, k.fired, fired_cons_iff, or_iff_right]
  rintro ⟨handle, e, -⟩
  exact unfired handle e

/-- A new signal has a number that none had, and has not fired. -/
lemma create (k : Kept past s) (handle : String) :
    Kept ((.create handle, r) :: past) (s.create handle) := by
  have cells (g) := s.cellAt_create handle g
  refine ⟨k.cons rfl (fun g w keeps => by rwa [cells]) nofun nofun, ?_, k.fired_cons cells nofun⟩
  have counted : (s.create handle).cells.length = s.cells.length + 1 := List.length_append
  rw [counted]
  exact k.tracks.opens (lookup_cons_ite handle s.cells.length s.handles)

/-- A clone stands for the signal of its handle. -/
lemma clone (k : Kept past s) {i : Nat} (known : s.cell? handle = some i) (name : String) :
    Kept ((.clone handle name, r) :: past) (s.clone i name) := by
  refine ⟨k.cons rfl (fun g w keeps => keeps) nofun nofun, k.tracks.copies fun h => ?_,
    k.fired_cons (fun _ => rfl) nofun⟩
  rw [known]
  exact lookup_cons_ite name i s.handles h

/-- A signal is fired for all its handles. -/
lemma fire (k : Kept past s) {i : Nat} (known : s.cell? handle = some i) :
    Kept ((.fire handle, r) :: past) (s.fire i) := by
  have held : i < s.cells.length := k.tracks.lt_count known
  have cells (g) := s.cellAt_fire held g
  refine ⟨k.cons rfl (fun g w keeps => ?_) nofun nofun, ?_, fun g => ?_⟩
  · rw [cells]
    split
    case isTrue same => exact same ▸ keeps.fire s.mode
    case isFalse => exact keeps
  · have counted : (s.fire i).cells.length = s.cells.length := List.length_set
    rw [counted]
    exact k.tracks.keeps
  · rw [cells, fired_cons_iff]
    by_cases same : g = i
    · rw [if_pos same, same]
      exact iff_of_true (SignalCell.fired_fire _ _)
        (.inl ⟨handle, rfl, (k.groupOf_eq handle).trans known⟩)
    · rw [if_neg same, k.fired, or_iff_right]
      rintro ⟨_, ⟨⟩, other⟩
      rw [k.groupOf_eq, known] at other
      exact same (Option.some.inj other).symm

/-- A look changes nothing. -/
lemma look (k : Kept past s) (handle : String) : Kept ((.look handle, r) :: past) s :=
  ⟨k.cons rfl (fun _ _ keeps => keeps) nofun nofun, k.tracks.keeps,
    k.fired_cons (fun _ => rfl) nofun⟩

/-- Someone begins to wait for the signal of a handle. -/
lemma await (k : Kept past s) {i : Nat} (known : s.cell? handle = some i) (waiter : String) :
    Kept ((.await handle waiter, r) :: past) (s.await i waiter) := by
  refine ⟨k.entered .created (.created ((k.groupOf_eq handle).trans known))
    (fun name other _ _ same => ?_) nofun,
    k.tracks.keeps, k.fired_cons (fun _ => rfl) nofun⟩
  cases same
  exact other rfl

/-- Someone who waits is told whether the signal has fired, and waits on if not. -/
lemma poll (k : Kept past s) (waiter : String) :
    Kept ((.poll waiter, .polled (s.poll waiter).1) :: past) (s.poll waiter).2 := by
  cases found : s.waiters.lookup waiter with
  | none =>
    have same : s.poll waiter = (none, s) := by rw [Signals.poll, found]
    rw [same]
    exact ⟨k.cons rfl (fun _ _ keeps => keeps) nofun nofun, k.tracks.keeps,
      k.fired_cons (fun _ => rfl) nofun⟩
  | some entry =>
    obtain ⟨i, wait⟩ := entry
    have polled : s.poll waiter =
        (some (wait.poll (s.cellAt i)).1,
        { s with waiters := (waiter, i, (wait.poll (s.cellAt i)).2) :: s.waiters }) := by
      rw [Signals.poll, found]
    obtain ⟨keeps, awaits⟩ := k.waits waiter i wait found
    rw [polled]
    refine ⟨k.entered keeps.poll ?_ (fun _ _ _ _ => nofun) fun name other same => ?_,
      k.tracks.keeps,
      k.fired_cons (fun _ => rfl) nofun⟩
    · -- who is told now is finished from here on, and only then
      by_cases ready : (wait.poll (s.cellAt i)).1 = .ready
      · rw [ready, Waiter.finished_of_ready ready]
        exact awaits.told
      · rw [decide_eq_decide.mpr (Waiter.finished_iff_of_not_ready ready)]
        refine awaits.other nofun fun e => ready ?_
        exact Option.some.inj (SignalAnswer.polled.inj (congrArg Prod.snd e))
    · exact other (SignalAction.poll.inj (congrArg Prod.fst same)).symm

/-- One step: every action keeps the signals in line with what was done. -/
lemma act (k : Kept past s) (e : s.act? a = some (r, s')) : Kept ((a, r) :: past) s' := by
  cases a with
  | create handle =>
    cases e
    exact k.create handle
  | clone handle name =>
    obtain ⟨i, known, e⟩ := Option.map_eq_some_iff.mp e
    cases e
    exact k.clone known name
  | fire handle =>
    obtain ⟨i, known, e⟩ := Option.map_eq_some_iff.mp e
    cases e
    exact k.fire known
  | look handle =>
    obtain ⟨i, known, e⟩ := Option.map_eq_some_iff.mp e
    cases e
    exact k.look handle
  | await handle waiter =>
    obtain ⟨i, known, e⟩ := Option.map_eq_some_iff.mp e
    cases e
    exact k.await known waiter
  | poll waiter =>
    cases e
    exact k.poll waiter

/-- Signals that can be reached are in line with what was done. -/
lemma of_after (h : After mode past s) : Kept past s := by
  induction h with
  | nil =>
    exact ⟨⟨nofun, fun waiter _ g told => nofun⟩, .nil, fun g => iff_of_false nofun nofun⟩
  | cons _ e k => exact k.act e

/-- The answer of a handle that stands for a signal. -/
lemma look_eq (k : Kept past s) (known : groupOf past handle = some g) :
    s.act? (.look handle) = some (.told (s.cellAt g).fired, s) := by
  rw [k.groupOf_eq] at known
  rw [act?, known]
  rfl

/-- The answer to a poll of someone who waits. -/
lemma poll_eq (k : Kept past s) (w : Awaits waiter past g told) : (s.poll waiter).1 =
    some (if told then .done else if (s.cellAt g).fired then .ready else .pending) := by
  cases found : s.waiters.lookup waiter with
  | none => exact absurd w (k.unawaited waiter found g told)
  | some entry =>
    obtain ⟨g', wait⟩ := entry
    obtain ⟨keeps, w'⟩ := k.waits waiter g' wait found
    obtain ⟨rfl, rfl⟩ := w.unique w'
    rw [Signals.poll, found]
    by_cases done : wait = .finished
    · rw [done]
      rfl
    · rw [decide_eq_false done]
      exact congrArg some (keeps.poll_eq done)

/-- What is done through handles of other signals does not fire this one. -/
lemma fired_of_act (k : Kept past s) (e : s.act? a = some (r, s'))
    (other : ∀ handle, a.handle? = some handle → groupOf past handle ≠ some g) :
    (s'.cellAt g).fired = (s.cellAt g).fired := by
  rw [Bool.eq_iff_iff, (k.act e).fired, k.fired, fired_cons_iff, or_iff_right]
  rintro ⟨handle, rfl, known⟩
  exact other handle rfl known

/-- An action can be done if its handle stands for a signal. -/
lemma act?_isSome_iff (k : Kept past s) (a : SignalAction) :
    (s.act? a).isSome ↔ ∀ handle, a.handle? = some handle → (groupOf past handle).isSome := by
  have through (handle : String) (f : Nat → SignalAnswer × Signals) :
    ((s.cell? handle).map f).isSome ↔
      ∀ other, some handle = some other → (groupOf past other).isSome := by
    rw [Option.isSome_map, ← k.groupOf_eq]
    refine ⟨fun known other e => ?_, fun known => known handle rfl⟩
    cases e
    exact known
  cases a with
  | create handle => exact iff_of_true rfl nofun
  | clone handle name => exact through handle _
  | fire handle => exact through handle _
  | look handle => exact through handle _
  | await handle waiter => exact through handle _
  | poll waiter => exact iff_of_true rfl nofun

end Kept

/-- What can be said of signals after what was done with them. -/
structure Lawful (past : List SignalEvent) (s : Signals) : Prop where
  /-- Everything can be done through the handles that stand for a signal. -/
  acts : ∀ a, (s.act? a).isSome ↔ ∀ handle, a.handle? = some handle → (groupOf past handle).isSome
  /-- A handle tells that its signal has fired exactly if some handle of the signal was fired. -/
  looked : ∀ handle g, groupOf past handle = some g →
    ∃ fired, s.act? (.look handle) = some (.told fired, s) ∧ (fired = true ↔ Fired g past)
  /--
  So does a poll of whoever waits for it and was not told yet, however often and whenever they
  looked before.
  -/
  polled : ∀ waiter g, Awaits waiter past g false →
    ∃ r s', s.act? (.poll waiter) = some (.polled (some r), s') ∧ (r = .ready ↔ Fired g past) ∧
    (r = .pending ↔ ¬ Fired g past)
  /-- Who was told is done. -/
  done : ∀ waiter g, Awaits waiter past g true →
    ∃ s', s.act? (.poll waiter) = some (.polled (some .done), s')
  /-- A signal that has fired stays fired. -/
  stays : ∀ a r s' handle g, s.act? a = some (r, s') → groupOf past handle = some g →
    groupOf ((a, r) :: past) handle = some g → s.act? (.look handle) = some (.told true, s) →
    s'.act? (.look handle) = some (.told true, s')
  /-- What is done with one signal changes neither what the handles of another one tell ... -/
  apart : ∀ a r s' handle g, s.act? a = some (r, s') →
    (∀ other, a.handle? = some other → groupOf past other ≠ some g) →
    groupOf past handle = some g → groupOf ((a, r) :: past) handle = some g →
    (s'.act? (.look handle)).map Prod.fst = (s.act? (.look handle)).map Prod.fst
  /-- ... nor what a poll gives whoever waits for it. -/
  unmoved : ∀ a r s' waiter g told, s.act? a = some (r, s') →
    (∀ other, a.handle? = some other → groupOf past other ≠ some g) →
    Awaits waiter past g told → Awaits waiter ((a, r) :: past) g told →
    (s'.act? (.poll waiter)).map Prod.fst = (s.act? (.poll waiter)).map Prod.fst

/--
Whatever is done with signals of either kind, in any order and through any handles: a signal tells
that it has fired, and whoever waits for it is told, exactly if it was fired through one of its
handles before.
-/
theorem after_lawful (mode : FireMode) (past : List SignalEvent) (s : Signals)
    (h : After mode past s) :
    Lawful past s := by
  have k := Kept.of_after h
  have answered {waiter g told} (w : Awaits waiter past g told) := k.poll_eq w
  refine ⟨k.act?_isSome_iff, fun handle g known => ⟨_, k.look_eq known, k.fired g⟩,
    fun waiter g w => ?polled,
    fun waiter g w => ?done, fun a r s' handle g e known known' fired => ?stays,
    fun a r s' handle g e other known known' => ?apart, fun a r s' waiter g told e other w w' =>
      ?unmoved⟩
  case polled =>
    refine ⟨_, _, by rw [act?, answered w], ?_⟩
    rw [← k.fired]
    cases (s.cellAt g).fired with
    | true => exact ⟨iff_of_true rfl rfl, iff_of_false nofun (fun h => h rfl)⟩
    | false => exact ⟨iff_of_false nofun nofun, iff_of_true rfl nofun⟩
  case done => exact ⟨_, by rw [act?, answered w]; rfl⟩
  case stays =>
    rw [k.look_eq known, Option.some.injEq, Prod.mk.injEq, SignalAnswer.told.injEq] at fired
    have still : (s'.cellAt g).fired = true :=
      ((k.act e).fired g).mpr (.before ((k.fired g).mp fired.1))
    rw [(k.act e).look_eq known', still]
  case apart => rw [k.look_eq known, (k.act e).look_eq known', Option.map_some, Option.map_some,
    k.fired_of_act e other]
  case unmoved =>
    rw [act?, act?, Option.map_some, Option.map_some, answered w, (k.act e).poll_eq w',
      k.fired_of_act e other]

/--
Who began to wait before the firing and who does after it, through a clone, are both told; the other
signal is silent.
-/
theorem after_lawful_cloned : ∃ s,
    After .once [(.await "copy" "late", .nothing), (.fire "copy", .nothing),
      (.poll "early", .polled (some .pending)),
      (.await "main" "early", .nothing), (.create "next", .nothing),
      (.clone "main" "copy", .nothing),
      (.create "main", .nothing)] s ∧
    (s.act? (.poll "early")).map Prod.fst = some (.polled (some .ready)) ∧
    (s.act? (.poll "late")).map Prod.fst = some (.polled (some .ready)) ∧
    (s.act? (.look "next")).map Prod.fst = some (.told false) := by
  have after :=
    After.cons (a := .await "copy" "late")
    (After.cons (a := .fire "copy") (After.cons (a := .poll "early")
    (After.cons (a := .await "main" "early")
    (After.cons (a := .create "next") (After.cons (a := .clone "main" "copy")
    (After.cons (a := .create "main") (After.nil : After .once _ _) rfl) rfl) rfl) rfl) rfl) rfl)
    rfl
  have law := after_lawful _ _ _ after
  refine ⟨_, after, ?early, ?late, ?next⟩
  case early =>
    obtain ⟨r, s', e, ready, -⟩ := law.polled "early" 0
      (.other (.other (.other (.created (by decide)) nofun nofun) nofun nofun) (by simp) nofun)
    rw [e, ready.mpr (.before (.now (by decide)))]
    rfl
  case late =>
    obtain ⟨r, s', e, ready, -⟩ := law.polled "late" 0 (.created (by decide))
    rw [e, ready.mpr (.before (.now (by decide)))]
    rfl
  case next =>
    obtain ⟨fired, e, -⟩ := law.looked "next" 1 (by decide)
    rw [e]
    cases e
    rfl

end Signals

end Gatehouse
