import Mathlib.Tactic.Lemma
import Gatehouse.Run.Schedule

/-!
# How waits end

What a wait can come to is said once for each kind of wait (`Plan.Sleeps`, `Plan.Passing`,
`Plan.PassingOr`). It follows that waits go forward in time and never take a signal back
(`Plan.Passing.forward`), that a wait which nothing disturbs takes its time (`Plan.StillTo.pass`),
that one which lasts over the alarm ends with the signal fired (`Plan.pass_fired_or_over`), and what
a limit makes of the end of a wait (`Plan.Curbs`).
-/

namespace Gatehouse

namespace Plan

variable {p : Plan} {w : World} {wake : Option Nat} {ms : Option Nat}

/-- The end of a wait that takes no notice of the signal. -/
inductive Sleeps (p : Plan) (w : World) (wake : Option Nat) : Passage → Prop where
  | cut {l} : p.limit = some l → isBefore l wake = true →
    Sleeps p w wake (.dropped { w with clock := max w.clock l })
  | passed {t} : wake = some t → (∀ l, p.limit = some l → t ≤ l) →
    Sleeps p w wake (.woke p { w with clock := t })
  | endless : p.limit = none → wake = none → Sleeps p w wake (.stuck w)

/-- A wait that takes no notice of the signal ends in one of these ways. -/
lemma sleeps (p : Plan) (w : World) (wake : Option Nat) : Sleeps p w wake (p.sleepOn w wake) := by
  unfold sleepOn
  cases hl : p.limit with
  | none =>
    cases wake with
    | none => exact .endless hl rfl
    | some t => exact .passed rfl fun l h => by rw [hl] at h; cases h
  | some l =>
    cases hb : isBefore l wake with
    | true =>
      simp only [hb, if_true]
      exact .cut hl hb
    | false =>
      cases wake with
      | none => cases hb
      | some t =>
        simp only [hb, Bool.false_eq_true, if_false, Option.getD_some]
        refine .passed rfl fun l' h => ?_
        rw [hl] at h
        cases h
        simpa [isBefore] using hb

/-- The alarm does not come before the end of a wait. -/
def Quiet (p : Plan) (wake : Option Nat) : Prop := ∀ t, p.alarm = some t → isBefore t wake = false

/-- The end of a wait during which the alarm may ring. -/
inductive Passing (p : Plan) (w : World) (ms : Option Nat) : Passage → Prop where
  | rung {t x} : p.alarm = some t → isBefore t (ms.map (w.clock + ·)) = true →
    Sleeps p.silent (p.ring w t) (ms.map (w.clock + ·)) x → Passing p w ms x
  | still {x} : p.Quiet (ms.map (w.clock + ·)) → Sleeps p w (ms.map (w.clock + ·)) x →
    Passing p w ms x

/-- A wait during which the alarm may ring ends in one of these ways. -/
lemma passing (p : Plan) (w : World) (ms : Option Nat) : Passing p w ms (p.pass w ms) := by
  unfold pass
  cases ha : p.alarm with
  | none => exact .still (fun t h => by rw [ha] at h; cases h) (sleeps p w _)
  | some t =>
    cases hb : isBefore t (ms.map (w.clock + ·)) with
    | true =>
      simp only [hb, if_true]
      exact .rung ha hb (sleeps _ _ _)
    | false =>
      simp only [hb, Bool.false_eq_true, if_false]
      refine .still (fun t' h => ?_) (sleeps p w _)
      rw [ha] at h
      cases h
      exact hb

/--
A wait hears the signal if it has fired before, or if the alarm fires it before the wait is over.
-/
inductive Hears (p : Plan) (w : World) (ms : Option Nat) : Plan → World → Prop where
  | before : w.fired = true → Hears p w ms p w
  | meanwhile {t} : w.fired = false → p.alarm = some t → isBefore t (ms.map (w.clock + ·)) = true →
    Hears p w ms p.silent (p.ring w t)

/-- The end of a wait that ends with the signal. -/
inductive PassingOr (p : Plan) (w : World) (ms : Option Nat) : Passage → Prop where
  | heard {p' w'} : Hears p w ms p' w' → PassingOr p w ms (.called p' w')
  | still {x} : w.fired = false → p.Quiet (ms.map (w.clock + ·)) →
    Sleeps p w (ms.map (w.clock + ·)) x →
    PassingOr p w ms x

/-- A wait that ends with the signal ends in one of these ways. -/
lemma passingOr (p : Plan) (w : World) (ms : Option Nat) : PassingOr p w ms (p.passOr w ms) := by
  unfold passOr
  cases hw : w.fired with
  | true =>
    simp only [if_true]
    exact .heard (.before hw)
  | false =>
    simp only [Bool.false_eq_true, if_false]
    cases ha : p.alarm with
    | none => exact .still hw (fun t h => by rw [ha] at h; cases h) (sleeps p w _)
    | some t =>
      cases hb : isBefore t (ms.map (w.clock + ·)) with
      | true =>
        simp only [hb, if_true]
        exact .heard (.meanwhile hw ha hb)
      | false =>
        simp only [hb, Bool.false_eq_true, if_false]
        refine .still hw (fun t' h => ?_) (sleeps p w _)
        rw [ha] at h
        cases h
        exact hb

/-- A wait that has heard the signal leaves it fired. -/
lemma Hears.fired {p' : Plan} {w' : World} (h : Hears p w ms p' w') : w'.fired = true := by
  cases h with
  | before hw => exact hw
  | meanwhile _ _ _ => rfl

/-- A wait that ends by itself leaves the plan as it is. -/
lemma eq_of_passOr_woke {p' : Plan} {w' : World} (e : p.passOr w ms = .woke p' w') : p' = p := by
  have c := p.passingOr w ms
  rw [e] at c
  cases c with
  | still _ _ s =>
    cases s with
    | passed _ _ => rfl

/-- What a wait hears is what it is called by. -/
lemma passOr_eq_called_iff {p' : Plan} {w' : World} :
    p.passOr w ms = .called p' w' ↔ Hears p w ms p' w' := by
  constructor
  · intro e
    have c := p.passingOr w ms
    rw [e] at c
    cases c with
    | heard h => exact h
    | still _ _ s => cases s
  · intro h
    unfold passOr
    cases h with
    | before hw => simp only [hw, if_true]
    | meanwhile hw ha hb => simp only [hw, ha, hb, Bool.false_eq_true, if_true, if_false]

end Plan

/-- A state that is not earlier than another one, with the signal fired if it was. -/
structure Since (w w' : World) : Prop where
  clock : w.clock ≤ w'.clock
  fired : w.fired = true → w'.fired = true

namespace Since

/-- A state is not earlier than itself. -/
lemma refl (w : World) : Since w w := ⟨Nat.le_refl _, id⟩

/-- What comes later than a later state comes later. -/
lemma trans {w w₁ w₂ : World} (a : Since w w₁) (b : Since w₁ w₂) : Since w w₂ :=
  ⟨Nat.le_trans a.clock b.clock, b.fired ∘ a.fired⟩

end Since

namespace Plan

variable {p p₁ p₂ : Plan} {w₁ w₂ : World}

/-- What the alarm does besides firing takes no time. -/
def Calm (p : Plan) : Prop := ∀ w, (p.onAlarm w).clock = w.clock

/-- A calm alarm rings at its time, or at once if that is over. -/
lemma Calm.clock_ring (c : p.Calm) (w : World) (t : Nat) : (p.ring w t).clock = max w.clock t := c _

/-- What is left of a plan: all of it, unless the alarm has rung. -/
def Leaves (p p₁ : Plan) (w₁ : World) : Prop := p₁ = p ∨ p₁ = p.silent ∧ w₁.fired = true

/-- What is left of what is left of a plan is left of it. -/
lemma Leaves.trans (l : p.Leaves p₁ w₁) (s : Since w₁ w₂) (l' : p₁.Leaves p₂ w₂) :
    p.Leaves p₂ w₂ := by
  rcases l with rfl | ⟨rfl, hw⟩
  · exact l'
  · rcases l' with rfl | ⟨rfl, hw'⟩
    · exact .inr ⟨rfl, s.fired hw⟩
    · exact .inr ⟨rfl, hw'⟩

/-- What is left of a calm plan is calm. -/
lemma Leaves.calm (l : p.Leaves p₁ w₁) (c : p.Calm) : p₁.Calm := by
  rcases l with rfl | ⟨rfl, -⟩
  · exact c
  · exact c

end Plan

namespace Passage

/-- The state at the end of a wait. -/
def state : Passage → World
  | woke _ w => w
  | called _ w => w
  | dropped w => w
  | stuck w => w

/-- Whether a wait goes forward and leaves what is left of a plan. -/
def Forward (p : Plan) (w : World) : Passage → Prop
  | woke p' w' => Since w w' ∧ p.Leaves p' w'
  | called p' w' => Since w w' ∧ p.Leaves p' w'
  | dropped w' => Since w w'
  | stuck w' => Since w w'

/-- A wait goes forward from an earlier state too. -/
lemma Forward.trans {p p' : Plan} {w w' : World} {x : Passage} (s : Since w w') (l : p.Leaves p' w')
    (f : x.Forward p' w') : x.Forward p w := by
  cases x with
  | woke p₁ w₁ => exact ⟨s.trans f.1, l.trans f.1 f.2⟩
  | called p₁ w₁ => exact ⟨s.trans f.1, l.trans f.1 f.2⟩
  | dropped w₁ => exact s.trans f
  | stuck w₁ => exact s.trans f

end Passage

namespace Plan

variable {p : Plan} {w : World} {ms wake : Option Nat} {x : Passage}

/-- A time that is not before a waking comes at it or after it. -/
lemma isBefore_eq_false {t : Nat} (h : isBefore t wake = false) : ∃ u, wake = some u ∧ u ≤ t := by
  cases wake with
  | none => cases h
  | some u => exact ⟨u, rfl, by simpa [isBefore] using h⟩

/-- A time before a waking is the smaller number. -/
lemma isBefore_some {t u : Nat} (h : isBefore t (some u) = true) : t < u := by
  simpa [isBefore] using h

/-- A wait without signal goes forward if it wakes later than it begins. -/
lemma Sleeps.forward (s : Sleeps p w wake x) (later : ∀ t, wake = some t → w.clock ≤ t) :
    x.Forward p w := by
  cases s with
  | cut _ _ => exact ⟨Nat.le_max_left _ _, id⟩
  | passed e _ => exact ⟨⟨later _ e, id⟩, .inl rfl⟩
  | endless _ _ => exact .refl w

/-- A wait without signal does not fire it. -/
lemma Sleeps.state_fired (s : Sleeps p w wake x) : x.state.fired = w.fired := by
  cases s <;> rfl

/-- A wait ends no earlier than it begins. -/
private lemma le_wake (w : World) (ms : Option Nat) :
    ∀ t, ms.map (w.clock + ·) = some t → w.clock ≤ t := by
  intro t e
  obtain ⟨k, -, rfl⟩ := Option.map_eq_some_iff.mp e
  exact Nat.le_add_right _ _

/-- Time goes forward when a calm alarm rings. -/
lemma Calm.since_ring (c : p.Calm) (w : World) (t : Nat) : Since w (p.ring w t) :=
  ⟨by rw [c.clock_ring]; exact Nat.le_max_left _ _, fun _ => rfl⟩

/-- A wait goes forward, however it ends. -/
lemma Passing.forward (h : Passing p w ms x) (calm : p.Calm) : x.Forward p w := by
  cases h with
  | @rung t _ ha hb s =>
    have later : ∀ u, ms.map (w.clock + ·) = some u → (p.ring w t).clock ≤ u := by
      intro u e
      rw [e] at hb
      rw [calm.clock_ring]
      exact Nat.max_le.mpr ⟨le_wake w ms u e, Nat.le_of_lt (isBefore_some hb)⟩
    exact (s.forward later).trans (calm.since_ring w t) (.inr ⟨rfl, rfl⟩)
  | still _ s => exact s.forward (le_wake w ms)

/-- Time goes forward until a wait hears the signal. -/
lemma Hears.forward {p' : Plan} {w' : World} (h : Hears p w ms p' w') (calm : p.Calm) :
    Since w w' ∧ p.Leaves p' w' := by
  cases h with
  | before _ => exact ⟨.refl w, .inl rfl⟩
  | meanwhile _ _ _ => exact ⟨calm.since_ring w _, .inr ⟨rfl, rfl⟩⟩

/-- A wait that ends with the signal goes forward. -/
lemma PassingOr.forward (h : PassingOr p w ms x) (calm : p.Calm) : x.Forward p w := by
  cases h with
  | heard hears => exact hears.forward calm
  | still _ _ s => exact s.forward (le_wake w ms)

/-- Nothing happens from outside before a time. -/
structure StillTo (p : Plan) (time : Nat) : Prop where
  alarm : ∀ a, p.alarm = some a → time ≤ a
  limit : ∀ l, p.limit = some l → time ≤ l

/-- What is still up to a time is still up to an earlier one. -/
lemma StillTo.mono {t u : Nat} (s : p.StillTo u) (le : t ≤ u) : p.StillTo t :=
  ⟨fun a e => Nat.le_trans le (s.alarm a e), fun l e => Nat.le_trans le (s.limit l e)⟩

/-- A wait up to a time before which all is still wakes at that time. -/
lemma StillTo.sleepOn {t : Nat} (s : p.StillTo t) (w : World) :
    p.sleepOn w (some t) = .woke p { w with clock := t } := by
  unfold Plan.sleepOn
  cases hl : p.limit with
  | none => rfl
  | some l => simp [isBefore, Nat.not_lt.mpr (s.limit l hl)]

/-- A wait that the alarm does not interrupt is cut off by the limit alone. -/
lemma pass_of_quiet (q : p.Quiet (ms.map (w.clock + ·))) :
    p.pass w ms = p.sleepOn w (ms.map (w.clock + ·)) := by
  unfold Plan.pass
  cases ha : p.alarm with
  | none => rfl
  | some a => simp only [q a ha, Bool.false_eq_true, if_false]

/-- Where the alarm is quiet, a wait that would end with the signal ends as any other. -/
lemma passOr_of_quiet (q : p.Quiet (ms.map (w.clock + ·))) (hw : w.fired = false) :
    p.passOr w ms = p.sleepOn w (ms.map (w.clock + ·)) := by
  unfold Plan.passOr
  rw [if_neg (by simp [hw])]
  cases ha : p.alarm with
  | none => rfl
  | some a => simp only [q a ha, Bool.false_eq_true, if_false]

/-- Where all is still the alarm is quiet. -/
lemma StillTo.quiet {t : Nat} (s : p.StillTo t) : p.Quiet (some t) := by
  intro a ha
  simp [isBefore, s.alarm a ha]

/-- A wait wakes on time if all is still before. -/
lemma StillTo.pass {k : Nat} (s : p.StillTo (w.clock + k)) :
    p.pass w (some k) = .woke p { w with clock := w.clock + k } :=
  (pass_of_quiet s.quiet).trans (s.sleepOn w)

/-- A wait that would end with the signal wakes on time if all is still before. -/
lemma StillTo.passOr {k : Nat} (s : p.StillTo (w.clock + k)) (hw : w.fired = false) :
    p.passOr w (some k) = .woke p { w with clock := w.clock + k } :=
  (passOr_of_quiet s.quiet hw).trans (s.sleepOn w)

/-- Without a plan nothing happens. -/
lemma stillTo_free (t : Nat) : free.StillTo t := ⟨nofun, nofun⟩

/-- Without an alarm every wait is quiet. -/
lemma quiet_free (wake : Option Nat) : free.Quiet wake := fun _ h => nomatch h

/-- Without an alarm nothing takes time. -/
lemma calm_free : free.Calm := fun _ => rfl

/-- A wait that the alarm does not interrupt is over by the alarm's time. -/
lemma Sleeps.over_of_quiet {t : Nat} (s : Sleeps p w (ms.map (w.clock + ·)) x)
    (ha : p.alarm = some t)
    (quiet : p.Quiet (ms.map (w.clock + ·))) (hl : ∀ l, p.limit = some l → t ≤ l) :
    ∃ k, ms = some k ∧ w.clock + k ≤ t ∧ x = .woke p { w with clock := w.clock + k } := by
  obtain ⟨u, e, le⟩ := isBefore_eq_false (quiet t ha)
  obtain ⟨k, rfl, rfl⟩ := Option.map_eq_some_iff.mp e
  refine ⟨k, rfl, le, ?_⟩
  cases s with
  | @cut l h hb =>
    -- the limit is not before the alarm, and so not before the end of the wait
    have lt : l < w.clock + k := isBefore_some hb
    exact absurd (Nat.le_trans le (hl l h)) (Nat.not_le.mpr lt)
  | passed e _ =>
    cases e
    rfl
  | endless _ h => cases h

/-- A wait lasts over the alarm, which fires the signal, or it is over by the alarm's time. -/
lemma pass_fired_or_over {t : Nat} (ha : p.alarm = some t) (hl : ∀ l, p.limit = some l → t ≤ l)
    (w : World) (ms : Option Nat) :
    (p.pass w ms).state.fired = true ∨
      ∃ k, ms = some k ∧ w.clock + k ≤ t ∧ p.pass w ms =
        .woke p { w with clock := w.clock + k } := by
  have h := p.passing w ms
  generalize p.pass w ms = x at h
  cases h with
  | rung _ _ s => exact .inl s.state_fired
  | still quiet s => exact .inr (s.over_of_quiet ha quiet hl)

/-- A wait that would end with the signal does, or is over before the alarm rings. -/
lemma passOr_fired_or_over {t : Nat} (ha : p.alarm = some t) (hl : ∀ l, p.limit = some l → t ≤ l)
    (w : World) (ms : Option Nat) :
    (p.passOr w ms).state.fired = true ∨ w.fired = false ∧
      ∃ k, ms = some k ∧ w.clock + k ≤ t ∧ p.passOr w ms =
        .woke p { w with clock := w.clock + k } := by
  have h := p.passingOr w ms
  generalize p.passOr w ms = x at h
  cases h with
  | heard hears => exact .inl hears.fired
  | still hw quiet s => exact .inr ⟨hw, s.over_of_quiet ha quiet hl⟩

/-- The plan with a limit. -/
def upTo (p : Plan) (l : Nat) : Plan := { p with limit := some l }

/-- A plan without a limit, whose alarm rings by a time. -/
structure Endless (p : Plan) (l : Nat) : Prop where
  limit : p.limit = none
  alarm : ∀ a, p.alarm = some a → a ≤ l
  calm : p.Calm

/-- A plan without a limit has none after its alarm. -/
lemma Endless.silent {l : Nat} (h : p.Endless l) : p.silent.Endless l := ⟨h.limit, nofun, h.calm⟩

/-- What is left of a plan without a limit has none. -/
lemma Leaves.endless {l : Nat} {p' : Plan} {w' : World} (k : p.Leaves p' w') (h : p.Endless l) :
    p'.Endless l := by
  rcases k with rfl | ⟨rfl, -⟩
  · exact h
  · exact h.silent

/-- What a limit makes of the end of a wait. -/
inductive Curbs (l : Nat) : Passage → Passage → Prop where
  | woke {p' w'} : w'.clock ≤ l → Curbs l (.woke p' w') (.woke (p'.upTo l) w')
  | called {p' w'} : w'.clock ≤ l → Curbs l (.called p' w') (.called (p'.upTo l) w')
  | late {p' w' v} : l < w'.clock → v.clock = l → Curbs l (.woke p' w') (.dropped v)
  | endless {w' v} : v.clock = l → Curbs l (.stuck w') (.dropped v)

/-- A limit cuts a wait short that goes on over it, and no other one. -/
lemma Endless.sleepOn {l : Nat} (h : p.Endless l) (le : w.clock ≤ l) (wake : Option Nat) :
    Curbs l (p.sleepOn w wake) ((p.upTo l).sleepOn w wake) := by
  unfold Plan.sleepOn
  rw [h.limit]
  cases wake with
  | none => exact .endless (Nat.max_eq_right le)
  | some t =>
    cases hb : isBefore l (some t) with
    | true =>
      simp only [upTo, hb, if_true]
      exact .late (isBefore_some hb) (Nat.max_eq_right le)
    | false =>
      obtain ⟨u, e, le'⟩ := isBefore_eq_false hb
      cases e
      simp only [upTo, hb, Bool.false_eq_true, if_false, Option.getD_some]
      exact .woke le'

/-- The alarm has rung by the limit. -/
lemma Endless.ring {l a : Nat} (h : p.Endless l) (ha : p.alarm = some a) (le : w.clock ≤ l) :
    (p.ring w a).clock ≤ l := by
  rw [h.calm.clock_ring]
  exact Nat.max_le.mpr ⟨le, h.alarm a ha⟩

/-- A limit cuts a wait short during which the alarm may ring. -/
lemma Endless.pass {l : Nat} (h : p.Endless l) (le : w.clock ≤ l) (ms : Option Nat) :
    Curbs l (p.pass w ms) ((p.upTo l).pass w ms) := by
  unfold Plan.pass
  have same : (p.upTo l).alarm = p.alarm := rfl
  rw [same]
  cases ha : p.alarm with
  | none => exact h.sleepOn le _
  | some a =>
    dsimp only
    split
    · exact h.silent.sleepOn (h.ring ha le) _
    · exact h.sleepOn le _

/-- A limit cuts a wait short that would end with the signal. -/
lemma Endless.passOr {l : Nat} (h : p.Endless l) (le : w.clock ≤ l) (ms : Option Nat) :
    Curbs l (p.passOr w ms) ((p.upTo l).passOr w ms) := by
  unfold Plan.passOr
  split
  · exact .called le
  · have same : (p.upTo l).alarm = p.alarm := rfl
    rw [same]
    cases ha : p.alarm with
    | none => exact h.sleepOn le _
    | some a =>
      dsimp only
      split
      · exact .called (h.ring ha le)
      · exact h.sleepOn le _

end Plan

end Gatehouse
