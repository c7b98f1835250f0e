import Gatehouse.Proofs.Json.Quoted
import Gatehouse.Proofs.Server.Failures
import Gatehouse.Proofs.Server.Identity
import Gatehouse.Stage.Script

/-!
# Two ways to report a fault

A fault is reported by a stage or a handler of a chain that answers with it (`Fault.told`), or by a
handler of the server that fails with it, of which a client is shown what it is shown of any
failure.  Both ways hide what an internal fault says, but the first one tells the message of a
timeout, which is the server's fault as well.  So they agree unless a timeout has a message of its
own (`Server.fault_reported`).
-/

namespace Gatehouse

open NativeError (First)

namespace HttpFailure

/-- The body of a failure is its code and its message, both in quotes. -/
lemma renderChars_body (f : HttpFailure) :
    f.body.renderChars = ('\x7b' :: Json.quote "error" ++ [':', '\x7b'] ++ Json.quote "code" ++
      ':' ::
      Json.quote f.code ++ ',' :: Json.quote "message" ++ [':']) ++
        (Json.quote f.message ++ ['\x7d', '\x7d']) := by
  have members (v w : Json) : Json.object [("code", v), ("message", w)] =
      .obj [("code", v), ("message", w)] := by
    have order : ¬ "message" < "code" := by decide
    have other : "message" ≠ "code" := by decide
    simp only [Json.object, List.foldl_cons, List.foldl_nil, Json.insertMember, if_neg order,
      if_neg other]
  have member (v : Json) : Json.object [("error", v)] = .obj [("error", v)] := rfl
  simp only [body, members, member, Json.renderChars, Json.renderMembers, List.append_assoc,
    List.cons_append, List.nil_append]

/-- Failures that differ in their messages are answered differently. -/
lemma toResponse_inj {s : Status} {h : Headers} {m m' : String} :
    (mk s m h).toResponse = (mk s m' h).toResponse ↔ m = m' := by
  constructor
  · intro same
    have octets := Body.buffer.inj (NativeResponse.mk.inj same).2.2
    have chars := String.ofList_inj.mp (Bytes.ofText_inj octets)
    rw [renderChars_body, renderChars_body] at chars
    exact Json.quote_append_inj (List.append_cancel_left chars)
  · rintro rfl
    rfl

end HttpFailure

namespace Fault

/-- What the answer that is made of a fault tells. -/
def told (f : Fault) : HttpFailure := ⟨f.status, f.publicMessage, .empty⟩

/-- What is sent of a fault is what its answer tells. -/
lemma writeOrRender_ofFault (f : Fault) : (Response.ofFault f).writeOrRender = f.told.toResponse :=
  rfl

/-- Of a fault the same is told as is shown of it, but for the message of a timeout. -/
lemma shown_told_iff (f : Fault) :
    f.told.toResponse = f.told.shown.toResponse ↔
    (f.kind = .timeout → f.message = f.status.canonicalText) := by
  obtain ⟨kind, message, cause⟩ := f
  cases kind with
  | timeout => exact HttpFailure.toResponse_inj.trans ⟨fun same _ => same, fun same => same rfl⟩
  | internal => exact iff_of_true rfl nofun
  | _ => exact iff_of_true rfl nofun

end Fault

/-- A stage answers by itself, or puts its answer in the place of the one from inside. -/
inductive Stage.Answers (m : Stage) (inside : Inside Request Response) (r : Request) (p : Plan)
    (v : World) (b : Response) : Prop where
  | reply {p₁ v₁} : (m.enter r).halt p v = .finished (.reply b) p₁ v₁ → Answers m inside r p v b
  | instead {r₁ after p₁ v₁ a p₂ v₂ p₃ v₃} : (m.enter r).halt p v =
    .finished (.forward r₁ after) p₁ v₁ →
    (inside r₁).halt p₁ v₁ = .finished a p₂ v₂ → (after a).halt p₂ v₂ = .finished b p₃ v₃ →
    Answers m inside r p v b

/-- A stage that answers ends the run with its answer. -/
lemma Stage.Answers.halt {m : Stage} {last : Inside Request Response} {r : Request} {p : Plan}
    {v : World} {b : Response} (answers : m.Answers last r p v b) (unfired : v.fired = false) :
    ∃ p' v', (runStages [m] last r).halt p v = .finished b p' v' := by
  cases answers with
  | reply entered => exact ⟨_, _, halt_stage_of_reply unfired entered⟩
  | instead entered inside left =>
    rw [halt_stage_of_forward unfired entered, runStages, inside]
    exact ⟨_, _, left⟩

/-- The handler of a chain without stages answers. -/
inductive Chain.Handles (c : Chain) (r : Request) (p : Plan) (v : World) (b : Response) : Prop where
  | intro {u} : c.stages = [] → v.fired = false → Task.Reaches p (c.handler r) v (.done b) u →
    Handles c r p v b

/-- A handler that answers ends the run of a chain without stages. -/
lemma Chain.Handles.halt {c : Chain} {r : Request} {p : Plan} {v : World} {b : Response}
    (handles : c.Handles r p v b) :
    ∃ u, (c.process r).halt p v = .finished b p u := by
  obtain ⟨none, unfired, reaches⟩ := handles
  rw [process, none, runStages, finish, halt_proceed, unfired, if_neg Bool.false_ne_true,
    reaches.halt_guard Response.cancelled]
  exact ⟨_, rfl⟩

namespace Server

open Exchange

/-- The only stage of the chain that a request runs through answers. -/
inductive AnsweredAlone (s : Server) (n : NativeRequest) (addr : Option SocketAddr) (w : World)
    (b : Response) :
    Prop where
  | intro {c h r p v m} : s.Enters n addr w c h r p v → c.stages = [m] →
    m.Answers (finish (terminal h)) r p v b →
    AnsweredAlone s n addr w b

section

variable {s : Server} {n : NativeRequest} {addr : Option SocketAddr} {w : World}

/-- A request is answered with the answer of the only stage. -/
lemma AnsweredAlone.answer {b : Response} (alone : s.AnsweredAlone n addr w b) :
    (s.dispatch n addr w).1 = some b.writeOrRender := by
  obtain ⟨enters, stages, answers⟩ := alone
  obtain ⟨-, -, -, -, -, unfired, -⟩ := enters.begins
  obtain ⟨p', v', run⟩ := answers.halt unfired
  rw [← stages] at run
  exact enters.dispatch run

/-- Without stages around it an error is answered as it is taken up. -/
lemma RaisesBehind.answer_alone {e : NativeError} (raises : s.RaisesBehind n addr w [] e) :
    (s.dispatch n addr w).1 = some (Response.ofError e).writeOrRender := by
  obtain ⟨id, answer, given⟩ := raises.answer
  cases id with
  | none => exact answer
  | some id =>
    obtain ⟨trusting, there⟩ := given.mp rfl
    cases there

end

/--
However a fault is reported, its status and its code are the same; the message is, unless a timeout
has its own.
-/
theorem fault_reported (f : Fault) :
    (∀ s n addr w, AnsweredAlone s n addr w (.ofFault f) →
      (s.dispatch n addr w).1 = some f.told.toResponse) ∧
    (∀ (c : Chain) r p v, c.Handles r p v (.ofFault f) → ∃ b u,
      (c.process r).halt p v = .finished b p u ∧
      b.writeOrRender = f.told.toResponse) ∧
    (∀ e s n addr w, First e.causes (.inr f) → RaisesBehind s n addr w [] e →
      (s.dispatch n addr w).1 = some f.told.shown.toResponse) ∧
    f.told.shown.status = f.told.status ∧ f.told.shown.code = f.told.code ∧
    (f.told.toResponse = f.told.shown.toResponse ↔
      (f.kind = .timeout → f.message = f.status.canonicalText)) := by
  refine ⟨?stage, ?handler, ?raised, f.told.status_shown, f.told.code_shown, f.shown_told_iff⟩
  case stage => exact fun s n addr w alone => alone.answer
  case handler =>
    intro c r p v handles
    obtain ⟨u, run⟩ := handles.halt
    exact ⟨_, u, run, f.writeOrRender_ofFault⟩
  case raised =>
    intro e s n addr w first raises
    rw [raises.answer_alone, Response.writeOrRender_of_fault
      (NativeError.carrier?_eq_some_iff.mpr first),
      ← Response.shown_publicMessage, Fault.told]

/-- A small server with a chain of the given stages. -/
def serving (stages : List Stage) (h : NativeHandler) : Server :=
  let f : Foundry := ⟨.empty, [], [("api", ⟨stages, .notFound⟩)]⟩
  ⟨⟨"", 0, none, none⟩, [rootRoute h], ⟨.chains f, .ofChains f []⟩⟩

/-- A timeout with a message of its own. -/
def slow : Fault := ⟨.timeout, "db slow", none⟩

/-- A server whose only stage answers with that timeout. -/
def denying : Server := serving [.deny "deny" 0 (.ofFault slow)] fun _ =>
    pure (.error (.fault slow))

/-- A server whose handler fails with an error. -/
def raising (e : NativeError) : Server := serving [] fun _ => pure (.error e)

/-- That timeout behind a text of the handler. -/
def wrappedSlow : NativeError := .wrapped "query failed" (.fault slow)

/-- The first typed cause of that error is the timeout. -/
lemma first_wrappedSlow : First wrappedSlow.causes (.inr slow) :=
  NativeError.first_cons.mpr (.inr ⟨.wrapped _ _, NativeError.first_cons.mpr (.inl (.fault slow))⟩)

/-- The only stage of that server answers with the timeout. -/
lemma answeredAlone_denying :
    denying.AnsweredAlone caller none Stage.visitor.2 (.ofFault slow) := by
  obtain ⟨r, p, u, enters, -, -⟩ := enters_root (s := denying) rfl rfl rfl
  exact .intro enters rfl (.reply rfl)

/-- The handler of that server fails with the error. -/
lemma raisesBehind_raising (e : NativeError) :
    (raising e).RaisesBehind caller none Stage.visitor.2 [] e := by
  obtain ⟨r, p, u, enters, -, unfired⟩ := enters_root (s := raising e) rfl rfl rfl
  exact .intro enters rfl .here unfired .here

/--
The stage and the handler of a chain tell what was slow; the handler of the server tells that
something was.
-/
theorem fault_reported_slow :
    denying.AnsweredAlone caller none Stage.visitor.2 (.ofFault slow) ∧
    (denying.dispatch caller none Stage.visitor.2).1 = some slow.told.toResponse ∧
    Chain.Handles ⟨[], .fixed (.ofFault slow)⟩ Stage.visitor.1 .free Stage.visitor.2
      (.ofFault slow) ∧
    (∃ b u, (Chain.process ⟨[], .fixed (.ofFault slow)⟩ Stage.visitor.1).halt .free
      Stage.visitor.2 =
      .finished b .free u ∧ b.writeOrRender = slow.told.toResponse) ∧
    First wrappedSlow.causes (.inr slow) ∧
    (raising wrappedSlow).RaisesBehind caller none Stage.visitor.2 [] wrappedSlow ∧
    ((raising wrappedSlow).dispatch caller none Stage.visitor.2).1 =
      some (HttpFailure.ofStatus .gatewayTimeout).toResponse := by
  have handles : Chain.Handles ⟨[], .fixed (.ofFault slow)⟩ Stage.visitor.1 .free Stage.visitor.2
      (.ofFault slow) :=
    .intro rfl rfl (.act .here)
  obtain ⟨stage, handler, raised, -⟩ := fault_reported slow
  exact ⟨answeredAlone_denying, stage _ _ _ _ answeredAlone_denying, handles,
    handler _ _ _ _ handles,
    first_wrappedSlow, raisesBehind_raising _,
    raised _ _ _ _ _ first_wrappedSlow (raisesBehind_raising _)⟩

/-- The two reports of one timeout are different. -/
theorem fault_reported_differently :
    denying.AnsweredAlone caller none Stage.visitor.2 (.ofFault slow) ∧
    First wrappedSlow.causes (.inr slow) ∧
    (raising wrappedSlow).RaisesBehind caller none Stage.visitor.2 [] wrappedSlow ∧
    (denying.dispatch caller none Stage.visitor.2).1 ≠
      ((raising wrappedSlow).dispatch caller none Stage.visitor.2).1 := by
  refine ⟨answeredAlone_denying, first_wrappedSlow, raisesBehind_raising _, ?_⟩
  rw [answeredAlone_denying.answer, (raisesBehind_raising _).answer_alone]
  decide +kernel

end Server

end Gatehouse
