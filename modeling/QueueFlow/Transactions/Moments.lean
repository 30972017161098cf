import QueueFlow.Transactions.Log
import QueueFlow.Transactions.World

/-!
# Moments of a run

What a log tells has happened in worlds that the run passed through.
-/

namespace QueueFlow.Transactions

variable {ι Store Write Lock Stmt Err Msg Env α : Type} {Res : Stmt → Type} [DecidableEq ι]
  [DecidableEq Lock] {E : Engine Store Write Lock Stmt Res Err Env} {env : Nat → Env}
  {ok : World ι Store Write Lock Stmt Res Err Msg Env α → ι → Prop}
  {start w : World ι Store Write Lock Stmt Res Err Msg Env α} {i : ι} {stmt : Stmt}
  {value : Res stmt} {writes : List Write}

/-- `here` lies on the way to `w`, and session `i` sends `stmt` there. -/
structure Moment (E : Engine Store Write Lock Stmt Res Err Env) (env : Nat → Env)
    (ok : World ι Store Write Lock Stmt Res Err Msg Env α → ι → Prop)
    (start w here : World ι Store Write Lock Stmt Res Err Msg Env α) (n : Nat) (i : ι)
    (stmt : Stmt) (value : Res stmt) (writes : List Write) : Prop where
  reached : Reaches E env ok start here
  onward : Reaches E env ok here w
  log : here.state.log = w.state.log.take n
  sends : ∃ next, here.session i = .running (.performs stmt next)
  exec : ∃ locks, E.exec stmt (here.state.context E env i) = .done value writes locks

/-- A step adds one entry to the log at most, and a statement's only when it was sent. -/
theorem Move.logged {state next : State ι Store Write Lock Stmt Res Msg Env}
    {program : Program Stmt Res Err Msg Env α} {session : Session Stmt Res Err Msg Env α} {j : ι}
    (moved : Move E env state j program session next) :
    next.log = state.log ∨ ∃ action, next.log = state.log ++ [⟨j, action⟩] ∧
      ∀ stmt (value : Res stmt) writes, action = .performed stmt value writes →
        (∃ rest, program = .performs stmt rest) ∧
          ∃ locks, E.exec stmt (state.context E env j) = .done value writes locks := by
  cases moved with
  | performed ready exec =>
      refine .inr ⟨_, rfl, fun stmt value writes same => ?_⟩
      cases same
      exact ⟨⟨_, rfl⟩, _, exec⟩
  | committed => exact .inr ⟨_, rfl, fun _ _ _ impossible => by cases impossible⟩
  | published => exact .inr ⟨_, rfl, fun _ _ _ impossible => by cases impossible⟩
  | _ => exact .inl rfl

theorem Reaches.moment (reach : Reaches E env ok start w) {n : Nat}
    (later : start.state.log.length ≤ n)
    (located : w.state.log[n]? = some ⟨i, .performed stmt value writes⟩) :
    ∃ here, Moment E env ok start w here n i stmt value writes := by
  induction reach with
  | refl => simp [List.getElem?_eq_none later] at located
  | @run before after j reach meets step ih =>
      obtain ⟨program, session, state, running, moved, rfl⟩ := World.step_run step
      rcases moved.logged with same | ⟨action, grown, sent⟩
      · change state.log[n]? = _ at located
        rw [same] at located
        obtain ⟨here, moment⟩ := ih located
        refine ⟨here, moment.reached, .run j moment.onward meets step, ?_, moment.sends,
          moment.exec⟩
        rw [moment.log, ← same]
      · change state.log[n]? = _ at located
        by_cases inside : n < before.state.log.length
        · rw [grown, List.getElem?_append_left inside] at located
          obtain ⟨here, moment⟩ := ih located
          refine ⟨here, moment.reached, .run j moment.onward meets step, ?_, moment.sends,
            moment.exec⟩
          change _ = state.log.take n
          rw [moment.log, grown, List.take_append_of_le_length (Nat.le_of_lt inside)]
        · have last : n = before.state.log.length := by
            have short := (List.getElem?_eq_some_iff.mp located).1
            rw [grown, List.length_append, List.length_singleton] at short
            omega
          subst last
          rw [grown, List.getElem?_concat_length, Option.some.injEq, Event.mk.injEq] at located
          obtain ⟨rfl, same⟩ := located
          obtain ⟨⟨rest, rfl⟩, exec⟩ := sent stmt value writes same
          refine ⟨before, reach, .run j .refl meets step, ?_, ⟨rest, running⟩, exec⟩
          change _ = state.log.take _
          rw [grown, List.take_append_of_le_length (Nat.le_refl _), List.take_length]
  | @crash before after j reach step ih =>
      obtain ⟨program, running, rfl⟩ := World.step_crash step
      obtain ⟨here, moment⟩ := ih located
      exact ⟨here, moment.reached, .crash j moment.onward step, moment.log, moment.sends,
        moment.exec⟩

end QueueFlow.Transactions
