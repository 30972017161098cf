import QueueFlow.Transactions.World
import Mathlib.Logic.Hydra

/-!
# Runs end

A program is a tree, so each step takes its session further down or ends it. With finitely many
sessions no run goes on for ever, and a world that can always move can be run to its end.
-/

namespace QueueFlow.Transactions

variable {ι Store Write Lock Stmt Err Msg Env α : Type} {Res : Stmt → Type} [DecidableEq ι]
  [DecidableEq Lock] {E : Engine Store Write Lock Stmt Res Err Env} {env : Nat → Env}

inductive Program.Child : Program Stmt Res Err Msg Env α → Program Stmt Res Err Msg Env α → Prop
  | answered {stmt : Stmt} (next : Res stmt → Program Stmt Res Err Msg Env α) (answer : Res stmt) :
      Child (next answer) (.performs stmt next)
  | observed (next : Env → Program Stmt Res Err Msg Env α) (env : Env) :
      Child (next env) (.observes next)
  | committed (next : Program Stmt Res Err Msg Env α) : Child next (.commits next)
  | published (msg : Msg) (next : Program Stmt Res Err Msg Env α) :
      Child next (.publishes msg next)

def Session.Ended (session : Session Stmt Res Err Msg Env α) : Prop :=
  ∀ program, session ≠ .running program

theorem not_ended_of_stmt {session : Session Stmt Res Err Msg Env α}
    (sends : session.stmt?.isSome = true) : ¬ session.Ended := by
  intro ended
  cases session with
  | running program => exact ended program rfl
  | _ => cases sends

inductive Session.Onward : Session Stmt Res Err Msg Env α → Session Stmt Res Err Msg Env α → Prop
  | further {child program : Program Stmt Res Err Msg Env α} (below : child.Child program) :
      Onward (.running child) (.running program)
  | ended {session : Session Stmt Res Err Msg Env α} (program : Program Stmt Res Err Msg Env α)
      (ended : session.Ended) : Onward session (.running program)

theorem acc_of_ended {session : Session Stmt Res Err Msg Env α} (ended : session.Ended) :
    Acc Session.Onward session := by
  refine ⟨session, fun later onward => ?_⟩
  cases onward with
  | further below => exact (ended _ rfl).elim
  | ended program _ => exact (ended program rfl).elim

theorem acc_of_children {program : Program Stmt Res Err Msg Env α}
    (children : ∀ child : Program Stmt Res Err Msg Env α, child.Child program →
      Acc Session.Onward (.running child : Session Stmt Res Err Msg Env α)) :
    Acc Session.Onward (.running program : Session Stmt Res Err Msg Env α) := by
  refine ⟨_, fun later onward => ?_⟩
  cases onward with
  | further below => exact children _ below
  | ended _ ended => exact acc_of_ended ended

theorem acc_running (program : Program Stmt Res Err Msg Env α) :
    Acc Session.Onward (.running program : Session Stmt Res Err Msg Env α) := by
  induction program with
  | ret value => exact acc_of_children nofun
  | raise error => exact acc_of_children nofun
  | performs stmt next ih =>
      refine acc_of_children fun child below => ?_
      cases below with
      | answered _ answer => exact ih answer
  | observes next ih =>
      refine acc_of_children fun child below => ?_
      cases below with
      | observed _ env => exact ih env
  | commits next ih =>
      refine acc_of_children fun child below => ?_
      cases below with
      | committed => exact ih
  | publishes msg next ih =>
      refine acc_of_children fun child below => ?_
      cases below with
      | published => exact ih

theorem wellFounded_onward : WellFounded fun later session : Session Stmt Res Err Msg Env α =>
    later.Onward session := by
  refine ⟨fun session => ?_⟩
  cases session with
  | running program => exact acc_running program
  | _ => exact acc_of_ended nofun

theorem Move.onward {state next : State ι Store Write Lock Stmt Res Msg Env} {i : ι}
    {program : Program Stmt Res Err Msg Env α} {session : Session Stmt Res Err Msg Env α}
    (move : Move E env state i program session next) : session.Onward (.running program) := by
  cases move with
  | performed ready exec => exact .further (.answered _ _)
  | observed next => exact .further (.observed _ _)
  | committed next => exact .further (.committed _)
  | published msg next => exact .further (.published _ _)
  | _ => exact .ended _ nofun

/-! ## Finitely many sessions -/

def World.Over (w : World ι Store Write Lock Stmt Res Err Msg Env α) : Prop :=
  ∀ i, (w.session i).Ended

def World.Next (E : Engine Store Write Lock Stmt Res Err Env) (env : Nat → Env)
    (later w : World ι Store Write Lock Stmt Res Err Msg Env α) : Prop :=
  ∃ label, w.step E env label = some later

theorem World.Next.onward {later w : World ι Store Write Lock Stmt Res Err Msg Env α}
    (next : World.Next E env later w) :
    ∃ i session, session.Onward (w.session i) ∧
      later.session = Function.update w.session i session := by
  obtain ⟨label, step⟩ := next
  cases label with
  | run i =>
      obtain ⟨program, session, state, running, move, rfl⟩ := World.step_run step
      exact ⟨i, session, running ▸ move.onward, rfl⟩
  | crash i =>
      obtain ⟨program, running, rfl⟩ := World.step_crash step
      exact ⟨i, .crashed, running ▸ .ended program nofun, rfl⟩

theorem cutExpand_update [Fintype ι] {β : Type} {r : β → β → Prop} {f : ι → β} {i : ι} {b : β}
    (below : r b (f i)) :
    Relation.CutExpand r (Finset.univ.val.map (Function.update f i b))
      (Finset.univ.val.map f) := by
  have split : (Finset.univ : Finset ι).val = i ::ₘ (Finset.univ.erase i).val :=
    (Finset.insert_val_of_notMem (Finset.notMem_erase i _)).symm.trans
      (congrArg _ (Finset.insert_erase (Finset.mem_univ i))) |>.symm
  have others : (Finset.univ.erase i).val.map (Function.update f i b) =
      (Finset.univ.erase i).val.map f := by
    refine Multiset.map_congr rfl fun j member => ?_
    exact Function.update_of_ne (Finset.ne_of_mem_erase member) _ _
  rw [split, Multiset.map_cons, Multiset.map_cons, Function.update_self, others]
  exact Relation.cutExpand_single_add below _

theorem wellFounded_next [Finite ι] (E : Engine Store Write Lock Stmt Res Err Env)
    (env : Nat → Env) : WellFounded fun later w : World ι Store Write Lock Stmt Res Err Msg Env α =>
      World.Next E env later w := by
  have := Fintype.ofFinite ι
  have sessions : WellFounded (Relation.CutExpand
      fun later session : Session Stmt Res Err Msg Env α => later.Onward session) :=
    wellFounded_onward.cutExpand
  have measured := InvImage.wf
    (fun w : World ι Store Write Lock Stmt Res Err Msg Env α => Finset.univ.val.map w.session)
    sessions
  refine Subrelation.wf (fun {later w} next => ?_) measured
  obtain ⟨i, session, onward, same⟩ := next.onward
  show Relation.CutExpand _ (Finset.univ.val.map later.session) (Finset.univ.val.map w.session)
  rw [same]
  exact cutExpand_update onward

section
variable {w : World ι Store Write Lock Stmt Res Err Msg Env α}

theorem no_endless_run [Finite ι]
    (run : Nat → World ι Store Write Lock Stmt Res Err Msg Env α) :
    ¬ ∀ n, World.Next E env (run (n + 1)) (run n) := by
  intro steps
  have wellFounded : WellFounded
      fun later w : World ι Store Write Lock Stmt Res Err Msg Env α => World.Next E env later w :=
    wellFounded_next E env
  exact (wellFounded_iff_isEmpty_descending_chain.mp wellFounded).false ⟨run, steps⟩

theorem not_crashed_of_advance {state next : State ι Store Write Lock Stmt Res Msg Env} {i : ι}
    {program : Program Stmt Res Err Msg Env α} {session : Session Stmt Res Err Msg Env α}
    (advanced : advance E env state i program = some (session, next)) : session ≠ .crashed := by
  rintro rfl
  cases program with
  | performs stmt rest =>
      simp only [advance] at advanced
      split at advanced
      · cases advanced
      · split at advanced <;> cases advanced
  | _ => cases advanced

theorem crashed_of_step {next : World ι Store Write Lock Stmt Res Err Msg Env α} {i j : ι}
    (step : w.step E env (.run i) = some next) (crashed : next.session j = .crashed) :
    w.session j = .crashed := by
  simp only [World.step] at step
  split at step
  · obtain ⟨moved, advanced, rfl⟩ := Option.map_eq_some_iff.mp step
    by_cases same : j = i
    · subst same
      exact (not_crashed_of_advance advanced (by simpa using crashed)).elim
    · simpa [Function.update_of_ne same] using crashed
  · cases step

/-- Where a kept property lets somebody move as long as somebody runs, a world with the property can
be run to its end, and no further session crashes on the way. -/
theorem exists_over [Finite ι] {Keeps : World ι Store Write Lock Stmt Res Err Msg Env α → Prop}
    (kept : ∀ w i next, Keeps w → w.step E env (.run i) = some next → Keeps next)
    (progress : ∀ w, Keeps w → ¬ w.Over → ∃ i next, w.step E env (.run i) = some next)
    (keeps : Keeps w) : ∃ last, Reachable E env w last ∧ last.Over ∧
      ∀ i, last.session i = .crashed → w.session i = .crashed := by
  refine (wellFounded_next E env).induction (C := fun w => Keeps w → ∃ last,
    Reachable E env w last ∧ last.Over ∧ ∀ i, last.session i = .crashed → w.session i = .crashed)
    w (fun w ih keeps => ?_) keeps
  by_cases done : w.Over
  · exact ⟨w, .refl, done, fun i crashed => crashed⟩
  · obtain ⟨i, next, step⟩ := progress w keeps done
    obtain ⟨last, reach, ended, crashes⟩ := ih next ⟨.run i, step⟩ (kept w i next keeps step)
    have first : Reachable E env w next := .run i .refl trivial step
    refine ⟨last, first.trans reach, ended, fun j crashed => ?_⟩
    exact crashed_of_step step (crashes j crashed)

end

end QueueFlow.Transactions
