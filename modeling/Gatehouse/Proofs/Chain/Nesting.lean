import Gatehouse.Chain.Basic
import Gatehouse.Proofs.Run.Halt

/-!
# Chains inside of chains

A chain that is a stage puts its own stages in front of what lies behind it, so a nested chain runs
like the flat list of its stages.  `Unfolds ss fs` says that `fs` is `ss` with some of its chains,
to any depth, replaced by their stages, and `Unfolds.alike` that both run alike.
-/

namespace Gatehouse

/-- Two computations that always halt alike. -/
def Alike (f g : Inside Request Response) : Prop := ∀ r p w, (f r).halt p w = (g r).halt p w

/-- Computations that begin with a look at the signal. -/
def LooksFirst (f : Inside Request Response) : Prop := ∃ g, f = proceed g

/-- Once the signal has fired nothing more is started. -/
lemma halt_proceed (f : Inside Request Response) (r : Request) (p : Plan) (w : World) :
    (proceed f r).halt p w = if w.fired then .finished .cancelled p w else (f r).halt p w := by
  rw [proceed, Run.isCancelled, Task.halt_bind, Task.halt_read, Halt.bind_finished]
  cases w.fired <;> rfl

section

variable {ρ β : Type}

/-- What an entry makes of a computation depends on its halts alone. -/
lemma halt_around (enter : Entry ρ β) (f : Inside ρ β) (r : ρ) (p : Plan) (w : World) :
    (enter.around f r).halt p w = ((enter r).halt p w).bind fun v p w =>
      match v with
      | .reply b => .finished b p w
      | .forward r' after => ((f r').halt p w).bind fun b p w => (after b).halt p w := by
  rw [Entry.around, Task.halt_bind]
  congr
  funext v p w
  cases v with
  | reply b => rfl
  | forward r' after => exact Task.halt_bind _ _ _ _

/-- An entry that replies leaves out the inside. -/
lemma halt_around_of_reply {enter : Entry ρ β} {r : ρ} {p p' : Plan} {w w' : World} {b : β}
    (e : (enter r).halt p w = .finished (.reply b) p' w') (f : Inside ρ β) :
    (enter.around f r).halt p w = .finished b p' w' := by
  rw [halt_around, e, Halt.bind_finished]

/-- An entry that passes the request on goes on with the end of the inside. -/
lemma halt_around_of_forward {enter : Entry ρ β} {r r' : ρ} {p p' : Plan} {w w' : World}
    {after : β → Run β}
    (e : (enter r).halt p w = .finished (.forward r' after) p' w') (f : Inside ρ β) :
    (enter.around f r).halt p w = ((f r').halt p' w').bind fun b p w => (after b).halt p w := by
  rw [halt_around, e, Halt.bind_finished]

end

namespace Alike

variable {f g k : Inside Request Response}

/-- What is alike to something alike is alike. -/
lemma trans (a : Alike f g) (b : Alike g k) : Alike f k := fun r p w => (a r p w).trans (b r p w)

/-- Computations that are alike are so in a race with the signal. -/
lemma proceed (a : Alike f g) : Alike (proceed f) (proceed g) := by
  intro r p w
  rw [halt_proceed, halt_proceed, a]

/-- Computations that are alike are so inside an entry. -/
lemma around (a : Alike f g) (enter : Entry Request Response) :
    Alike (enter.around f) (enter.around g) := by
  intro r p w
  rw [halt_around, halt_around]
  congr
  funext v p w
  cases v with
  | reply b => rfl
  | forward r' after => simp only [a r' p w]

/-- Computations that are alike are so inside stages. -/
lemma runStages (a : Alike f g) (ss : List Stage) : Alike (runStages ss f) (runStages ss g) := by
  induction ss with
  | nil => exact a
  | cons s ss ih => exact (ih.around s.enter).proceed

end Alike

/-- A second look at the signal sees what the first one saw. -/
lemma LooksFirst.proceed {f : Inside Request Response} (l : LooksFirst f) :
    Alike (proceed f) f := by
  obtain ⟨g, rfl⟩ := l
  intro r p w
  rw [halt_proceed, halt_proceed]
  split <;> rfl

/-- Stages around a computation that looks at the signal first do so too. -/
lemma LooksFirst.runStages {last : Inside Request Response} (l : LooksFirst last)
    (ss : List Stage) :
    LooksFirst (runStages ss last) := by
  cases ss with
  | nil => exact l
  | cons s ss => exact ⟨_, rfl⟩

/-- The end of a chain begins with a look at the signal. -/
lemma looksFirst_finish (h : Handler) : LooksFirst (finish h) := ⟨_, rfl⟩

/-- Stages in two lists run as in one. -/
lemma runStages_append (ss ts : List Stage) (last : Inside Request Response) :
    runStages (ss ++ ts) last = runStages ss (runStages ts last) := by
  induction ss with
  | nil => rfl
  | cons s ss ih => simp only [List.cons_append, runStages, ih]

/-- Two entries as one are the first one around the second one. -/
lemma andThen_around (first second : Entry Request Response) (last : Inside Request Response) :
    (first.andThen second).around last = first.around (second.around last) := by
  funext r
  simp only [Entry.andThen, Entry.around, bind_assoc]
  congr
  funext v
  cases v with
  | reply b => rfl
  | forward r' after =>
    simp only [bind_assoc]
    congr
    funext v
    cases v with
    | reply b => simp only [bind_assoc, pure_bind, bind_pure]
    | forward r'' after' => simp only [pure_bind, bind_assoc]

/-- An entry that looks at the signal is one that is made after a look at the signal. -/
lemma unlessCancelled_around (enter : Entry Request Response) (last : Inside Request Response) :
    enter.unlessCancelled.around last = proceed (enter.around last) := by
  funext r
  simp only [Entry.unlessCancelled, Entry.around, proceed, bind_assoc]
  congr
  funext c
  cases c <;> rfl

/-- Stages as one entry are those stages in front of the same end. -/
lemma enterStages_around (ss : List Stage) (last : Inside Request Response) :
    (enterStages ss).around last = runStages ss last := by
  induction ss with
  | nil =>
    funext r
    simp only [enterStages, Entry.pass, Entry.around, pure_bind, bind_pure, runStages]
  | cons s ss ih => rw [enterStages, unlessCancelled_around, andThen_around, ih, runStages]

/-- Replaces chains in a list of stages by their own stages. -/
inductive Unfolds : List Stage → List Stage → Prop where
  | nil : Unfolds [] []
  | stage (s) {ss fs} : Unfolds ss fs → Unfolds (s :: ss) (s :: fs)
  | chain {c : Chain} {bs ss fs} : Unfolds c.stages bs → Unfolds ss fs →
    Unfolds (c.asStage :: ss) (bs ++ fs)

namespace Unfolds

/-- A list of stages in which nothing is replaced. -/
lemma refl (ss : List Stage) : Unfolds ss ss := by
  induction ss with
  | nil => exact .nil
  | cons s ss ih => exact .stage s ih

/-- Nested chains run like their stages. -/
lemma alike {ss fs : List Stage} (u : Unfolds ss fs) {last : Inside Request Response}
    (l : LooksFirst last) :
    Alike (runStages ss last) (runStages fs last) := by
  -- what lies behind a chain looks at the signal first, so the look before the chain changes
  -- nothing
  induction u generalizing last with
  | nil => exact fun _ _ _ => rfl
  | stage s _ ih => exact ((ih l).around s.enter).proceed
  | chain _ _ ihb ihs =>
    rename_i c bs ss fs _ _
    have behind := l.runStages ss
    have inner : Alike (runStages (c.asStage :: ss) last)
        (runStages c.stages (runStages ss last)) := by
      rw [runStages, Chain.asStage, enterStages_around]
      exact (behind.runStages c.stages).proceed
    rw [runStages_append]
    exact inner.trans ((ihb behind).trans ((ihs l).runStages bs))

end Unfolds

/-- A chain in front of a handler of the server is its stages in front of that handler. -/
lemma asStage_around (c : Chain) (last : Inside Request Response) :
    c.asStage.enter.around last = runStages c.stages last := enterStages_around c.stages last

end Gatehouse
