import Gatehouse.Proofs.Run.Appends
import Gatehouse.Proofs.Stage.BuiltIn
import Gatehouse.Server.Exchange
import Gatehouse.Stage.Script

/-!
# Stages that only add to the log

The events of a run are for those who watch it, and what takes part in the run adds to them without
reading any. So do all stages that come with the server, all scripted ones and the deadline, and
chains of such stages are such stages themselves (`Entry.Appends.enterStages`).
-/

namespace Gatehouse

variable {ρ β : Type}

/-- A verdict that goes on so. -/
def Verdict.Appends : Verdict ρ β → Prop
  | .reply _ => True
  | .forward _ after => ∀ b, (after b).Appends fun _ => True

/-- Entries that read no events. -/
def Entry.Appends (enter : Entry ρ β) : Prop := ∀ r, (enter r).Appends Verdict.Appends

/-- Insides that read no events. -/
def Inside.Appends (inside : Inside ρ β) : Prop := ∀ r, (inside r).Appends fun _ => True

/-- An entry around an inside reads no events if both read none. -/
lemma Entry.Appends.around {enter : Entry ρ β} {inside : Inside ρ β} (he : enter.Appends)
    (hi : inside.Appends) :
    Inside.Appends (enter.around inside) := by
  intro r
  apply (he r).bind
  intro v hv
  cases v with
  | reply b => exact trivial
  | forward r' after => exact (hi r').bind fun b _ => hv b

/-- Two entries in a row read no events if both read none. -/
lemma Entry.Appends.andThen {first second : Entry ρ β} (h₁ : first.Appends) (h₂ : second.Appends) :
    Entry.Appends (first.andThen second) := by
  intro r
  apply (h₁ r).bind
  intro v hv
  cases v with
  | reply b => exact trivial
  | forward r' after =>
    apply (h₂ r').bind
    intro v' hv'
    cases v' with
    | reply b => exact (hv b).bind fun _ _ => trivial
    | forward r'' after' => exact fun b => (hv' b).bind fun b _ => hv b

/-- An entry that is left out after the signal reads no events if it reads none. -/
lemma Entry.Appends.unlessCancelled {enter : Entry Request Response} (h : enter.Appends) :
    Entry.Appends enter.unlessCancelled := by
  intro r
  apply (Task.Appends.read fun _ _ => rfl).bind
  intro fired _
  cases fired with
  | true => exact trivial
  | false => exact h r

namespace Inside.Appends

variable {inside : Inside Request Response}

/-- An inside that is raced against the signal reads no events if it reads none. -/
lemma proceed (hi : inside.Appends) : Inside.Appends (Gatehouse.proceed inside) := by
  intro r
  apply (Task.Appends.read fun _ _ => rfl).bind
  intro fired _
  cases fired with
  | true => exact trivial
  | false => exact hi r

/-- A handler at the end of a chain reads no events if it reads none. -/
lemma finish {h : Handler} (hh : Inside.Appends h) : Inside.Appends (Gatehouse.finish h) :=
  proceed fun r => (hh r).guard trivial

/-- Stages around an inside read no events if all of them read none. -/
lemma runStages {ss : List Stage} (hs : ∀ s ∈ ss, s.enter.Appends) (hi : inside.Appends) :
    Inside.Appends (Gatehouse.runStages ss inside) := by
  induction ss with
  | nil => exact hi
  | cons s ss ih =>
    obtain ⟨first, rest⟩ := List.forall_mem_cons.mp hs
    exact (first.around (ih rest)).proceed

/-- A native handler at the end of a chain reads no events if it reads none. -/
lemma terminal {h : NativeHandler} (hh : Inside.Appends h) :
    Inside.Appends (Exchange.terminal h) := by
  intro r
  apply (hh r.toNative).bind
  intro result _
  cases result with
  | ok n => exact trivial
  | error e => exact trivial

end Inside.Appends

/-- Stages that read no events are one entry that reads none. -/
lemma Entry.Appends.enterStages {ss : List Stage} (hs : ∀ s ∈ ss, s.enter.Appends) :
    Entry.Appends (Gatehouse.enterStages ss) := by
  induction ss with
  | nil => exact fun _ _ => trivial
  | cons s ss ih =>
    obtain ⟨first, rest⟩ := List.forall_mem_cons.mp hs
    exact (first.andThen (ih rest)).unlessCancelled

/-- The record of a deadline that has passed tells of no other records. -/
lemma Exchange.appends_plan (d : Deadline) (chain : String) (start : Nat) :
    (plan d chain start).Appends :=
  fun w es => w.after_emit _ es

namespace Task.Appends

/-- A mark reads no events. -/
lemma mark (place : String) : (Run.mark place).Appends fun _ => True := report fun _ _ => rfl

/-- Firing the signal reads no events. -/
lemma cancel : Run.cancel.Appends fun _ => True := modify fun _ _ => rfl

/-- A value is put into a store without reading events. -/
lemma store (i : StoreId) (key : String) (v : Value) : (Run.store i key v).Appends fun _ => True :=
  modify fun _ _ => rfl

/-- Values are put into a store without reading events. -/
lemma storeAll (i : StoreId) (items : List (String × Value)) :
    (Run.storeAll i items).Appends fun _ => True :=
  modify fun _ _ => rfl

/-- A wait without end reads no events. -/
lemma hang : (Task.hang : Run Unit).Appends fun _ => True := trivial

end Task.Appends

/-- A scripted stage reads no events on the way back. -/
lemma StageScript.appends_leave (s : StageScript) (i : StoreId) (b : Response) :
    (s.leave i b).Appends fun _ => True := by
  apply (Task.Appends.sleepIf s.sleepAfter).bind
  intro _ _
  apply Task.Appends.bindIf .cancel
  intro _
  apply Task.Appends.bindIf (.report fun _ _ => rfl)
  intro _
  exact (Task.Appends.mark _).bind fun _ _ => trivial

/-- A scripted stage reads no events. -/
lemma StageScript.appends_toStage (s : StageScript) : s.toStage.enter.Appends := by
  intro r
  apply (Task.Appends.mark _).bind
  intro _ _
  apply (Task.Appends.sleepIf s.sleepBefore).bind
  intro _ _
  apply Task.Appends.bindIf .cancel
  intro _
  apply (Task.Appends.storeAll r.store s.values).bind
  intro _ _
  cases s.chainName with
  | none => exact s.appends_leave r.store
  | some name =>
    have named :
        (Task.modify fun w : World => { w with chain := some name }).Appends fun _ => True :=
      .modify fun _ _ => rfl
    exact named.bind fun _ _ => s.appends_leave r.store

/-- A scripted handler reads no events. -/
lemma HandlerScript.appends_toHandler (s : HandlerScript) : Inside.Appends s.toHandler := by
  intro r
  apply (Task.Appends.report fun _ _ => rfl).bind
  intro _ _
  apply Task.Appends.bindIf .cancel
  intro _
  apply Task.Appends.bindIf .hang
  intro _
  exact (Task.Appends.sleepIf s.sleep).bind fun _ _ => trivial

/-- A scripted native handler reads no events. -/
lemma NativeScript.appends_toHandler (s : NativeScript) : Inside.Appends s.toHandler := by
  intro n
  have last (_ : Unit) :
    (Run.mark "native:done" >>= fun _ => (pure s.result : Run NativeResult)).Appends
      fun _ => True := (Task.Appends.mark _).bind fun _ _ => trivial
  apply (Task.Appends.report fun _ _ => rfl).bind
  intro _ _
  cases n.store with
  | none => exact (Task.Appends.sleepIf s.sleep).bind fun _ _ => .bindIf .hang last
  | some i =>
    apply (Task.Appends.storeAll i s.values).bind
    intro _ _
    exact (Task.Appends.sleepIf s.sleep).bind fun _ _ => .bindIf .hang last

/-- The built-in stages read no events. -/
lemma BuiltIn.appends_toStage (b : BuiltIn) : b.toStage.enter.Appends := by
  intro r
  cases b with
  | identify trusting =>
    have id_drawn : Run.freshId.Appends fun _ => True := fun _ => ⟨fun _ => ⟨rfl, rfl⟩, trivial⟩
    have go (x : Uuid) :
        (Task.modify fun w : World => { w with requestId := x }).Appends fun _ => True :=
      .modify fun _ _ => rfl
    simp only [BuiltIn.toStage, Stage.identify]
    cases (if trusting then Stage.incomingId? r else none) with
    | some x => exact (go x).bind fun _ _ b => trivial
    | none => exact id_drawn.bind fun x _ => (go x).bind fun _ _ b => trivial
  | journal observer =>
    have told (b : Response) :
      (Task.modify (Stage.observe observer r.method r.uri.path b.status)).Appends
        fun _ => True := by
      cases observer with
      | none => exact .modify fun _ _ => rfl
      | some f => exact .report fun _ _ => rfl
    apply (Task.Appends.report fun _ _ => rfl).bind
    intro _ _ b
    apply (Task.Appends.report fun _ _ => rfl).bind
    intro _ _
    exact (told b).bind fun _ _ => trivial
  | gate v observer =>
    apply (Task.Appends.read fun _ _ => rfl).bind
    intro elapsed _
    cases v.verify r.headers elapsed with
    | error e =>
      have logged : (Task.modify (Stage.logRefused e)).Appends fun _ => True := by
        cases e <;> exact .report fun _ _ => rfl
      have told : (Task.modify (Stage.tellRefused observer e)).Appends fun _ => True := by
        cases observer with
        | none => exact .modify fun _ _ => rfl
        | some f => exact .report fun _ _ => rfl
      exact logged.bind fun _ _ => told.bind fun _ _ => trivial
    | ok c =>
      apply (Task.Appends.report fun _ _ => rfl).bind
      intro _ _
      apply (Task.Appends.store r.store _ _).bind
      intro _ _
      exact (Task.Appends.store r.store _ _).bind fun _ _ _ => trivial

end Gatehouse
