import Gatehouse.Proofs.Run.Timing
import Gatehouse.Proofs.Stage.BuiltIn
import Gatehouse.Stage.Script

/-!
# Proper stages

Stages, layers and handlers that leave the clock and a fired signal alone.  Chains of proper stages
are proper (`Chain.proper_asStage`), however they are nested, and so are the stages that come with
the server and all scripted ones.
-/

namespace Gatehouse

variable {ρ β : Type}

/-- A verdict that goes on properly. -/
def Verdict.Proper : Verdict ρ β → Prop
  | .reply _ => True
  | .forward _ after => ∀ b, (after b).Proper fun _ => True

/-- Entries that go on properly. -/
def Entry.Proper (enter : Entry ρ β) : Prop := ∀ r, (enter r).Proper Verdict.Proper

/-- Insides that run properly. -/
def Inside.Proper (inside : Inside ρ β) : Prop := ∀ r, (inside r).Proper fun _ => True

/-- An entry around an inside is proper if both are. -/
lemma Entry.Proper.around {enter : Entry ρ β} {inside : Inside ρ β} (he : enter.Proper)
    (hi : inside.Proper) :
    Inside.Proper (enter.around inside) := by
  intro r
  apply (he r).bind
  intro v hv
  cases v with
  | reply b => exact trivial
  | forward r' after => exact (hi r').bind fun b _ => hv b

/-- Two entries in a row are proper if both are. -/
lemma Entry.Proper.andThen {first second : Entry ρ β} (h₁ : first.Proper) (h₂ : second.Proper) :
    Entry.Proper (first.andThen second) := by
  intro r
  apply (h₁ r).bind
  intro v hv
  cases v with
  | reply b => exact trivial
  | forward r' after =>
    apply (h₂ r').bind
    intro v' hv'
    cases v' with
    | reply b => exact (hv b).bind fun _ _ => trivial
    | forward r'' after' => exact fun b => (hv' b).bind fun b _ => hv b

/-- The entry that does nothing is proper. -/
lemma Entry.Proper.pass : Entry.Proper (Entry.pass : Entry ρ β) := fun _ _ => trivial

/-- An entry that is left out after the signal is proper if it is. -/
lemma Entry.Proper.unlessCancelled {enter : Entry Request Response} (h : enter.Proper) :
    Entry.Proper enter.unlessCancelled := by
  intro r
  apply (Task.Proper.read World.fired).bind
  intro fired _
  cases fired with
  | true => exact trivial
  | false => exact h r

/-- A proper handler is proper at the end of a chain. -/
lemma Inside.Proper.finish {h : Handler} (hh : Inside.Proper h) : Inside.Proper (finish h) := by
  intro r
  apply (Task.Proper.read World.fired).bind
  intro fired _
  cases fired with
  | true => exact trivial
  | false => exact (hh r).guard trivial

/-- Proper stages are one proper entry. -/
lemma Entry.Proper.enterStages {ss : List Stage} (hs : ∀ s ∈ ss, s.enter.Proper) :
    Entry.Proper (Gatehouse.enterStages ss) := by
  induction ss with
  | nil => exact Entry.Proper.pass
  | cons s ss ih =>
    obtain ⟨first, rest⟩ := List.forall_mem_cons.mp hs
    exact (first.andThen (ih rest)).unlessCancelled

/-- A chain of proper stages is a proper stage. -/
lemma Chain.proper_asStage {c : Chain} (h : ∀ s ∈ c.stages, s.enter.Proper) :
    c.asStage.enter.Proper := .enterStages h

namespace Task.Proper

variable {α : Type} {good : α → Prop}

/-- An event is added properly. -/
lemma report (f : World → Event) : (Task.modify fun w => w.emit (f w)).Proper fun _ => True :=
  modify (fun _ => rfl) fun _ => id

/-- A mark is proper. -/
lemma mark (place : String) : (Run.mark place).Proper fun _ => True := report fun _ => .mark place

/-- Firing the signal is proper. -/
lemma cancel : Run.cancel.Proper fun _ => True := modify (fun _ => rfl) fun _ _ => rfl

/-- A value is put into a store properly. -/
lemma store (i : StoreId) (key : String) (v : Value) : (Run.store i key v).Proper fun _ => True :=
  modify (fun _ => rfl) fun _ => id

/-- Values are put into a store properly. -/
lemma storeAll (i : StoreId) (items : List (String × Value)) :
    (Run.storeAll i items).Proper fun _ => True :=
  modify (fun _ => rfl) fun _ => id

/-- A wait is proper. -/
lemma sleepIf (ms : Option Nat) : (Task.sleepIf ms : Run Unit).Proper fun _ => True := by
  cases ms with
  | none => exact trivial
  | some ms =>
    cases ms with
    | zero => exact trivial
    | succ ms => exact trivial

/-- A task that may be left out is proper if it is. -/
lemma bindIf {c : Prop} [Decidable c] {t : Run Unit} {f : Unit → Run α}
    (ht : t.Proper fun _ => True)
    (hf : ∀ u, (f u).Proper good) : (if c then t >>= f else f ()).Proper good := by
  split
  · exact ht.bind fun u _ => hf u
  · exact hf ()

end Task.Proper

/-- A scripted stage is proper on the way back. -/
lemma StageScript.proper_leave (s : StageScript) (i : StoreId) (b : Response) :
    (s.leave i b).Proper fun _ => True := by
  apply (Task.Proper.sleepIf s.sleepAfter).bind
  intro _ _
  apply Task.Proper.bindIf .cancel
  intro _
  apply Task.Proper.bindIf (.report _)
  intro _
  exact (Task.Proper.mark _).bind fun _ _ => trivial

/-- A scripted stage is proper. -/
lemma StageScript.proper_toStage (s : StageScript) : s.toStage.enter.Proper := by
  intro r
  apply (Task.Proper.mark _).bind
  intro _ _
  apply (Task.Proper.sleepIf s.sleepBefore).bind
  intro _ _
  apply Task.Proper.bindIf .cancel
  intro _
  apply (Task.Proper.storeAll r.store s.values).bind
  intro _ _
  cases s.chainName with
  | none => exact s.proper_leave r.store
  | some name =>
    have named :
        (Task.modify fun w : World => { w with chain := some name }).Proper fun _ => True :=
      .modify (fun _ => rfl) fun _ => id
    exact named.bind fun _ _ => s.proper_leave r.store

/-- A scripted native handler is proper. -/
lemma NativeScript.proper_toHandler (s : NativeScript) : Inside.Proper s.toHandler := by
  intro n
  have last (_ : Unit) :
    (Run.mark "native:done" >>= fun _ => (pure s.result : Run NativeResult)).Proper
      fun _ => True := (Task.Proper.mark _).bind fun _ _ => trivial
  have hang : (Task.hang : Run Unit).Proper fun _ => True := trivial
  apply (Task.Proper.report _).bind
  intro _ _
  cases n.store with
  | none => exact (Task.Proper.sleepIf s.sleep).bind fun _ _ => .bindIf hang last
  | some i =>
    apply (Task.Proper.storeAll i s.values).bind
    intro _ _
    exact (Task.Proper.sleepIf s.sleep).bind fun _ _ => .bindIf hang last

/-- The built-in stages are proper. -/
lemma BuiltIn.proper_toStage (b : BuiltIn) : b.toStage.enter.Proper := by
  intro r
  cases b with
  | identify trusting =>
    have id_drawn : Run.freshId.Proper fun _ => True := fun _ => ⟨rfl, id, trivial⟩
    have go (x : Uuid) :
        (Task.modify fun w : World => { w with requestId := x }).Proper fun _ => True :=
      .modify (fun _ => rfl) fun _ => id
    simp only [BuiltIn.toStage, Stage.identify]
    cases (if trusting then Stage.incomingId? r else none) with
    | some x => exact (go x).bind fun _ _ b => trivial
    | none => exact id_drawn.bind fun x _ => (go x).bind fun _ _ b => trivial
  | journal observer =>
    have told (b : Response) :
      (Task.modify (Stage.observe observer r.method r.uri.path b.status)).Proper
        fun _ => True := by
      cases observer with
      | none => exact .modify (fun _ => rfl) fun _ => id
      | some f => exact .report _
    apply (Task.Proper.report _).bind
    intro _ _ b
    apply (Task.Proper.report _).bind
    intro _ _
    exact (told b).bind fun _ _ => trivial
  | gate v observer =>
    apply (Task.Proper.read World.clock).bind
    intro elapsed _
    cases v.verify r.headers elapsed with
    | error e =>
      have logged : (Task.modify (Stage.logRefused e)).Proper fun _ => True := by
        cases e <;> exact .report _
      have told : (Task.modify (Stage.tellRefused observer e)).Proper fun _ => True := by
        cases observer with
        | none => exact .modify (fun _ => rfl) fun _ => id
        | some f => exact .report _
      exact logged.bind fun _ _ => told.bind fun _ _ => trivial
    | ok c =>
      apply (Task.Proper.report _).bind
      intro _ _
      apply (Task.Proper.store r.store _ _).bind
      intro _ _
      exact (Task.Proper.store r.store _ _).bind fun _ _ _ => trivial

end Gatehouse
