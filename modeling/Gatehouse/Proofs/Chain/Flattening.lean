import Gatehouse.Proofs.Server.Deadline

/-!
# Flat chains

A chain with another chain among its stages runs like the one list of all stages, for whatever runs
it: its own end, a chain around it, or the server (`Chain.nested_flattens`).  The end of the inner
chain has no part in it.  Before what follows the inner chain the signal is looked at once more than
in the flat list, and this look never sees anything new.
-/

namespace Gatehouse

/-- Chains may be replaced in both parts of a list. -/
lemma Unfolds.append {ss ss' fs fs' : List Stage} (u : Unfolds ss fs) (u' : Unfolds ss' fs') :
    Unfolds (ss ++ ss') (fs ++ fs') := by
  induction u with
  | nil => exact u'
  | stage s _ ih => exact .stage s ih
  | chain inner _ _ ih =>
    rw [List.append_assoc]
    exact .chain inner ih

/-- A chain as a stage between others is its stages between them. -/
lemma unfolds_between (before inner after : List Stage) (k : Handler) :
    Unfolds (before ++ Chain.asStage ⟨inner, k⟩ :: after) (before ++ inner ++ after) := by
  rw [List.append_assoc]
  exact (Unfolds.refl before).append (.chain (c := ⟨inner, k⟩) (.refl inner) (.refl after))

namespace Exchange

/-- What is served depends on the halts of the stage in front of the handler alone. -/
lemma serve_congr {s s' : Stage} {h : NativeHandler}
    (same : Alike (s.enter.around (finish (terminal h))) (s'.enter.around (finish (terminal h))))
    (d : Deadline) (n : NativeRequest) (addr : Option SocketAddr) (w : World) :
    serve d s n addr h w = serve d s' n addr h w := by
  rw [serve_eq, serve_eq, task, task, same]

end Exchange

/-- Two lists of stages that no one can tell apart by running them. -/
structure RunsLike (ss fs : List Stage) : Prop where
  process : ∀ h r p w, ((⟨ss, h⟩ : Chain).process r).run p w = ((⟨fs, h⟩ : Chain).process r).run p w
  /-- As stages they do the same to what lies behind them, and their own ends are not run. -/
  stage : ∀ k k' last, LooksFirst last → ∀ r p w,
    ((Chain.asStage ⟨ss, k⟩).enter.around last r).run p w =
      ((Chain.asStage ⟨fs, k'⟩).enter.around last r).run p w
  served : ∀ k k' d n addr h w,
    Exchange.serve d (Chain.asStage ⟨ss, k⟩) n addr h w =
      Exchange.serve d (Chain.asStage ⟨fs, k'⟩) n addr h w
  answered : ∀ k k' (s : Server) name n addr h w,
    s.runChain name ⟨ss, k⟩ n addr h w = s.runChain name ⟨fs, k'⟩ n addr h w

/-- Stages run like those that chains among them are replaced by. -/
lemma Unfolds.runsLike {ss fs : List Stage} (u : Unfolds ss fs) : RunsLike ss fs := by
  -- whoever runs a chain sees its halts alone, and these are the same in front of anything that
  -- looks at the signal
  have around (k k' : Handler) {last : Inside Request Response} (l : LooksFirst last) :
      Alike ((Chain.asStage ⟨ss, k⟩).enter.around last)
        ((Chain.asStage ⟨fs, k'⟩).enter.around last) := by
    rw [asStage_around, asStage_around]
    exact u.alike l
  have served (k k' : Handler) (d : Deadline) (n : NativeRequest) (addr : Option SocketAddr)
    (h : NativeHandler) (w : World) :
    Exchange.serve d (Chain.asStage ⟨ss, k⟩) n addr h w =
      Exchange.serve d (Chain.asStage ⟨fs, k'⟩) n addr h w :=
    Exchange.serve_congr (around k k' (looksFirst_finish (Exchange.terminal h))) d n addr w
  constructor
  case process =>
    intro h r p w
    rw [Task.run_eq, Task.run_eq, Chain.process, Chain.process, u.alike (looksFirst_finish h)]
  case stage =>
    intro k k' last l r p w
    rw [Task.run_eq, Task.run_eq, around k k' l]
  case served => exact served
  case answered =>
    intro k k' s name n addr h w
    simp only [Server.runChain, served k k']

/--
A chain between other stages runs as if its stages stood there by themselves, and its own end is
never run.
-/
theorem Chain.nested_flattens (before inner after : List Stage) (k : Handler) :
    RunsLike (before ++ asStage ⟨inner, k⟩ :: after) (before ++ inner ++ after) :=
  (unfolds_between before inner after k).runsLike

end Gatehouse
