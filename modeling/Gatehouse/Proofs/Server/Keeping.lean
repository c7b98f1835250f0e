import Gatehouse.Proofs.Run.Views
import Gatehouse.Proofs.Server.Migration

/-!
# Stages that leave a view alone

Entries and computations that keep a view of the state, whatever they are given.  Stages in front of
an end keep what all of them and the end keep (`Inside.Keeps.runStages`), and so do plain layers
(`LayerStack.keeps_run`).
-/

namespace Gatehouse

variable {ρ β γ : Type} {view : World → γ} {good : β → Prop}

/-- A verdict with a good answer, or with one that stays good on its way out. -/
def Verdict.Keeps (view : World → γ) (good : β → Prop) : Verdict ρ β → Prop
  | .reply b => good b
  | .forward _ after => ∀ b, good b → (after b).Keeps view good

/-- Entries that leave what is seen through a view alone. -/
def Entry.Keeps (view : World → γ) (good : β → Prop) (enter : Entry ρ β) : Prop :=
  ∀ r, (enter r).Keeps view (Verdict.Keeps view good)

/-- Insides that leave what is seen through a view alone. -/
def Inside.Keeps (view : World → γ) (good : β → Prop) (inside : Inside ρ β) : Prop :=
  ∀ r, (inside r).Keeps view good

/-- An entry around an inside keeps a view if both do. -/
lemma Entry.Keeps.around {enter : Entry ρ β} {inside : Inside ρ β} (he : enter.Keeps view good)
    (hi : Inside.Keeps view good inside) : Inside.Keeps view good (enter.around inside) := by
  intro r
  apply (he r).bind
  intro v hv
  cases v with
  | reply b => exact hv
  | forward r' after => exact (hi r').bind hv

namespace Inside.Keeps

variable {good : Response → Prop} {inside : Inside Request Response}

/-- An inside that is raced against the signal keeps a view if it does. -/
lemma proceed (hi : Inside.Keeps view good inside) (c : good .cancelled) :
    Inside.Keeps view good (Gatehouse.proceed inside) := by
  intro r
  apply (Task.Keeps.read World.fired).bind
  intro fired _
  cases fired with
  | true => exact c
  | false => exact hi r

/-- A handler at the end of a chain keeps a view if it does. -/
lemma finish {h : Handler} (hh : Inside.Keeps view good h) (c : good .cancelled) :
    Inside.Keeps view good (Gatehouse.finish h) := by
  apply Inside.Keeps.proceed _ c
  exact fun r => (hh r).guard c

/-- Stages around an inside keep a view if all of them do. -/
lemma runStages {ss : List Stage} (hs : ∀ s ∈ ss, s.enter.Keeps view good)
    (hi : Inside.Keeps view good inside)
    (c : good .cancelled) : Inside.Keeps view good (Gatehouse.runStages ss inside) := by
  induction ss with
  | nil => exact hi
  | cons s ss ih =>
    have rest := ih fun s hm => hs s (List.mem_cons_of_mem _ hm)
    exact ((hs s List.mem_cons_self).around rest).proceed c

/-- What a handler's outcome is taken up as is good if it is for all outcomes. -/
lemma terminal {h : NativeHandler} (hh : Inside.Keeps view (fun _ => True) h)
    (taken_up : ∀ x, good (Response.ofResult x)) :
    Inside.Keeps view good (Exchange.terminal h) := by
  intro r
  rw [Exchange.terminal_eq]
  exact (hh r.toNative).bind fun x _ => taken_up x

end Inside.Keeps

/-- Layers around a handler keep a view if all of them do. -/
lemma LayerStack.keeps_run {good : NativeResult → Prop} {stack : LayerStack} {h : NativeHandler}
    (hs : ∀ l ∈ stack, l.enter.Keeps view good) (hh : Inside.Keeps view good h) :
    Inside.Keeps view good (stack.run h) := by
  induction stack with
  | nil => exact hh
  | cons l stack ih =>
    exact (hs l List.mem_cons_self).around (ih fun l hm => hs l (List.mem_cons_of_mem _ hm))

end Gatehouse
