import QueueFlow.Transactions.Obedience

/-!
# Readers

A program that only reads takes no locks and leaves no trace, so it can run beside the sessions:
each of its statements is answered by what is committed when it is sent.
-/

namespace QueueFlow.Transactions

variable {ι Store Write Lock Stmt Err Msg Env α : Type} {Res : Stmt → Type} [DecidableEq ι]
  (E : Engine Store Write Lock Stmt Res Err Env) (env : Nat → Env)

/-- One step of a reader: an answer of the store, or a look at its surroundings. -/
def look (store : Store) (now : Env) :
    Program Stmt Res Err Msg Env α → Option (Program Stmt Res Err Msg Env α)
  | .performs stmt next =>
      match E.exec stmt ⟨store, fun _ => false, now, now⟩ with
      | .done value [] [] => some (next value)
      | _ => none
  | .observes next => some (next now)
  | _ => none

def lookAll (store : Store) :
    List Env → Program Stmt Res Err Msg Env α → Option (Program Stmt Res Err Msg Env α)
  | [], program => some program
  | now :: later, program => (look E store now program).bind (lookAll store later)

/-- Some steps, each over a store that satisfies `P`. -/
inductive LooksAt (P : Store → Prop) (first : Program Stmt Res Err Msg Env α) :
    List Env → Program Stmt Res Err Msg Env α → Prop where
  | start : LooksAt P first [] first
  | step {times : List Env} {program next : Program Stmt Res Err Msg Env α} {store : Store}
      {now : Env} (looks : LooksAt P first times program) (holds : P store)
      (answered : look E store now program = some next) : LooksAt P first (times ++ [now]) next

def SameAnswers (ok : Stmt → Prop) (store store' : Store) : Prop :=
  ∀ stmt, ok stmt → ∀ now : Env,
    E.exec stmt ⟨store, fun _ => false, now, now⟩ = E.exec stmt ⟨store', fun _ => false, now, now⟩

variable [DecidableEq Lock] in
/-- A reader beside a run that starts in `start`. -/
inductive Beside (ok : World ι Store Write Lock Stmt Res Err Msg Env α → ι → Prop) {β : Type}
    (first : Program Stmt Res Err Msg Env β)
    (start : World ι Store Write Lock Stmt Res Err Msg Env α) :
    World ι Store Write Lock Stmt Res Err Msg Env α → List Env →
      Program Stmt Res Err Msg Env β → Prop where
  | start : Beside ok first start start [] first
  | look {w : World ι Store Write Lock Stmt Res Err Msg Env α} {times : List Env}
      {program next : Program Stmt Res Err Msg Env β} {now : Env}
      (beside : Beside ok first start w times program)
      (answered : look E w.state.store now program = some next) :
      Beside ok first start w (times ++ [now]) next
  | run {w w' : World ι Store Write Lock Stmt Res Err Msg Env α} {times : List Env}
      {program : Program Stmt Res Err Msg Env β}
      (beside : Beside ok first start w times program) (reach : Reaches E env ok w w') :
      Beside ok first start w' times program

variable {E env} {store target : Store} {now : Env} {times : List Env} {ok : Stmt → Prop}
  {P : Store → Prop} {first program next : Program Stmt Res Err Msg Env α}

theorem SameAnswers.trans {middle : Store} (one : SameAnswers E ok store middle)
    (two : SameAnswers E ok middle target) : SameAnswers E ok store target :=
  fun stmt fine now => (one stmt fine now).trans (two stmt fine now)

theorem look_sends (sends : program.Sends ok) (answered : look E store now program = some next) :
    next.Sends ok := by
  cases program with
  | performs stmt rest =>
      rw [look] at answered
      split at answered
      · cases answered
        exact sends.2 _
      · cases answered
  | observes rest =>
      cases answered
      exact sends _
  | _ => cases answered

theorem look_congr (sends : program.Sends ok) (same : SameAnswers E ok store target) :
    look E store now program = look E target now program := by
  cases program with
  | performs stmt rest => rw [look, look, same stmt sends.1 now]
  | _ => rfl

theorem lookAll_concat : lookAll E store (times ++ [now]) program =
    (lookAll E store times program).bind (look E store now) := by
  induction times generalizing program with
  | nil => cases here : look E store now program <;> simp [lookAll, here]
  | cons time times ih =>
      rw [List.cons_append, lookAll, lookAll]
      cases look E store time program with
      | none => rfl
      | some next => exact ih

theorem LooksAt.sends (looks : LooksAt E P first times program) (sends : first.Sends ok) :
    program.Sends ok := by
  induction looks with
  | start => exact sends
  | step looks holds answered ih => exact look_sends ih answered

theorem LooksAt.mono {P' : Store → Prop} (looks : LooksAt E P first times program)
    (weaker : ∀ store, P store → P' store) : LooksAt E P' first times program := by
  induction looks with
  | start => exact .start
  | step looks holds answered ih => exact .step ih (weaker _ holds) answered

theorem LooksAt.front (looks : LooksAt E P first times program) :
    first = program ∨ ∃ store now later next, P store ∧ look E store now first = some next ∧
      LooksAt E P next later program := by
  induction looks with
  | start => exact .inl rfl
  | @step _ _ final store now looks holds answered ih =>
      rcases ih with rfl | ⟨early, before, later, next, there, begun, onward⟩
      · exact .inr ⟨store, now, [], final, holds, answered, .start⟩
      · exact .inr ⟨early, before, _, next, there, begun, onward.step holds answered⟩

/-- What a reader has seen in stores that it cannot tell from `target`, it sees there. -/
theorem LooksAt.lookAll (looks : LooksAt E P first times program) (sends : first.Sends ok)
    (same : ∀ store, P store → SameAnswers E ok store target) :
    lookAll E target times first = some program := by
  induction looks with
  | start => rfl
  | step looks holds answered ih =>
      rw [lookAll_concat, ih, Option.bind_some, ← look_congr (looks.sends sends) (same _ holds)]
      exact answered

variable [DecidableEq Lock] {β : Type}
  {passes : World ι Store Write Lock Stmt Res Err Msg Env α → ι → Prop}
  {reader rest : Program Stmt Res Err Msg Env β}
  {start w : World ι Store Write Lock Stmt Res Err Msg Env α}

theorem Beside.lookAll {later : List Env} {next : Program Stmt Res Err Msg Env β}
    (beside : Beside E env passes reader start w times rest)
    (answered : lookAll E w.state.store later rest = some next) :
    Beside E env passes reader start w (times ++ later) next := by
  induction later generalizing times rest with
  | nil =>
      cases answered
      rwa [List.append_nil]
  | cons now later ih =>
      obtain ⟨middle, here, onward⟩ := Option.bind_eq_some_iff.mp answered
      rw [List.append_cons]
      exact ih (beside.look here) onward

theorem Beside.reaches (beside : Beside E env passes reader start w times rest) :
    Reaches E env passes start w := by
  induction beside with
  | start => exact .refl
  | look beside answered ih => exact ih
  | run beside reach ih => exact ih.trans reach

theorem Beside.looksAt (beside : Beside E env passes reader start w times rest) :
    LooksAt E (fun store => ∃ v, Reaches E env passes start v ∧ Reaches E env passes v w ∧
      v.state.store = store) reader times rest := by
  induction beside with
  | start => exact .start
  | look beside answered ih => exact .step ih ⟨_, beside.reaches, .refl, rfl⟩ answered
  | run beside reach ih =>
      exact ih.mono fun store ⟨v, before, after, same⟩ => ⟨v, before, after.trans reach, same⟩

theorem Reaches.log_prefix (reach : Reaches E env passes start w) :
    start.state.log <+: w.state.log := by
  refine reach.moves (motive := fun w => start.state.log <+: w.state.log) List.prefix_rfl ?_
  intro w i program next state _ earlier _ moved _
  cases moved with
  | performed | committed | published => exact earlier.trans (List.prefix_append _ _)
  | _ => exact earlier

end QueueFlow.Transactions
