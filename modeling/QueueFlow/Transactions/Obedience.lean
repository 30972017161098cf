import QueueFlow.Transactions.Log
import QueueFlow.Transactions.World

/-!
# What a program does by itself

`Obeys E env P Q program past pending`: along every answer the database could give, each action of
the program satisfies `P` in the light of the session's own past, and a returned value satisfies
`Q`. The context of a statement is arbitrary, so other sessions do not matter here.
-/

namespace QueueFlow.Transactions

variable {ι Store Write Lock Stmt Err Msg Env α β : Type} {Res : Stmt → Type} [DecidableEq ι]
  (E : Engine Store Write Lock Stmt Res Err Env) (env : Nat → Env)

def Obeys (P : List (Action Stmt Res Write Msg) → Action Stmt Res Write Msg → Prop)
    (Q : α → List (Action Stmt Res Write Msg) → List Write → Prop) :
    Program Stmt Res Err Msg Env α → List (Action Stmt Res Write Msg) → List Write → Prop
  | .ret value, past, pending => Q value past pending
  | .raise _, _, _ => True
  | .performs stmt next, past, pending => ∀ context value writes locks,
      E.exec stmt context = .done value writes locks →
        P past (.performed stmt value writes) ∧
          Obeys P Q (next value) (past ++ [.performed stmt value writes]) (pending ++ writes)
  | .observes next, past, pending => ∀ tick, Obeys P Q (next (env tick)) past pending
  | .commits next, past, pending =>
      P past (.committed pending) ∧ Obeys P Q next (past ++ [.committed pending]) []
  | .publishes msg next, past, pending =>
      P past (.published msg) ∧ Obeys P Q next (past ++ [.published msg]) pending

variable {E env} {P : List (Action Stmt Res Write Msg) → Action Stmt Res Write Msg → Prop}

theorem obeys_bind {Q : β → List (Action Stmt Res Write Msg) → List Write → Prop}
    {program : Program Stmt Res Err Msg Env α} {rest : α → Program Stmt Res Err Msg Env β}
    {past : List (Action Stmt Res Write Msg)} {pending : List Write} :
    Obeys E env P Q (program.bind rest) past pending ↔
      Obeys E env P (fun value => Obeys E env P Q (rest value)) program past pending := by
  induction program generalizing past pending with
  | ret value => rfl
  | raise error => exact Iff.rfl
  | performs stmt next ih => simp only [Program.bind, Obeys, ih]
  | observes next ih => simp only [Program.bind, Obeys, ih]
  | commits next ih => simp only [Program.bind, Obeys, ih]
  | publishes msg next ih => simp only [Program.bind, Obeys, ih]

theorem obeys_mono {Q Q' : α → List (Action Stmt Res Write Msg) → List Write → Prop}
    {program : Program Stmt Res Err Msg Env α} {past : List (Action Stmt Res Write Msg)}
    {pending : List Write} (obeys : Obeys E env P Q program past pending)
    (implies : ∀ value past pending, Q value past pending → Q' value past pending) :
    Obeys E env P Q' program past pending := by
  induction program generalizing past pending with
  | ret value => exact implies _ _ _ obeys
  | raise error => trivial
  | performs stmt next ih =>
      intro context value writes locks exec
      exact ⟨(obeys context value writes locks exec).1,
        ih _ (obeys context value writes locks exec).2⟩
  | observes next ih => exact fun tick => ih _ (obeys tick)
  | commits next ih => exact ⟨obeys.1, ih obeys.2⟩
  | publishes msg next ih => exact ⟨obeys.1, ih obeys.2⟩

theorem obeys_weaken {P' : List (Action Stmt Res Write Msg) → Action Stmt Res Write Msg → Prop}
    {Q : α → List (Action Stmt Res Write Msg) → List Write → Prop}
    {program : Program Stmt Res Err Msg Env α} {past : List (Action Stmt Res Write Msg)}
    {pending : List Write} (obeys : Obeys E env P Q program past pending)
    (implies : ∀ past action, P past action → P' past action) :
    Obeys E env P' Q program past pending := by
  induction program generalizing past pending with
  | ret value => exact obeys
  | raise error => trivial
  | performs stmt next ih =>
      intro context value writes locks exec
      obtain ⟨allowed, onward⟩ := obeys context value writes locks exec
      exact ⟨implies _ _ allowed, ih _ onward⟩
  | observes next ih => exact fun tick => ih _ (obeys tick)
  | commits next ih => exact ⟨implies _ _ obeys.1, ih obeys.2⟩
  | publishes msg next ih => exact ⟨implies _ _ obeys.1, ih obeys.2⟩

theorem obeys_mapRaise {Q : α → List (Action Stmt Res Write Msg) → List Write → Prop}
    {f : Err → Err} {program : Program Stmt Res Err Msg Env α}
    {past : List (Action Stmt Res Write Msg)} {pending : List Write} :
    Obeys E env P Q (program.mapRaise f) past pending ↔ Obeys E env P Q program past pending := by
  induction program generalizing past pending with
  | ret value => rfl
  | raise error => exact Iff.rfl
  | performs stmt next ih => simp only [Program.mapRaise, Obeys, ih]
  | observes next ih => simp only [Program.mapRaise, Obeys, ih]
  | commits next ih => simp only [Program.mapRaise, Obeys, ih]
  | publishes msg next ih => simp only [Program.mapRaise, Obeys, ih]

theorem obeys_of_forall (all : ∀ past action, P past action)
    (program : Program Stmt Res Err Msg Env α) (past : List (Action Stmt Res Write Msg))
    (pending : List Write) : Obeys E env P (fun _ _ _ => True) program past pending := by
  induction program generalizing past pending with
  | ret value => trivial
  | raise error => trivial
  | performs stmt next ih => exact fun _ value writes _ _ => ⟨all _ _, ih value _ _⟩
  | observes next ih => exact fun tick => ih _ _ _
  | commits next ih => exact ⟨all _ _, ih _ _⟩
  | publishes msg next ih => exact ⟨all _ _, ih _ _⟩

theorem obeys_continues (program : Program Stmt Res Err Msg Env α)
    (past : List (Action Stmt Res Write Msg)) (pending : List Write) :
    Obeys E env (fun _ _ => True) (fun _ later _ => past <+: later) program past pending := by
  have further (past : List (Action Stmt Res Write Msg)) {action : Action Stmt Res Write Msg}
      {pending : List Write} {program : Program Stmt Res Err Msg Env α}
      (ih : Obeys E env (fun _ _ => True) (fun _ later _ => past ++ [action] <+: later) program
        (past ++ [action]) pending) :
      Obeys E env (fun _ _ => True) (fun _ later _ => past <+: later) program
        (past ++ [action]) pending :=
    obeys_mono ih fun _ _ _ more => (List.prefix_append _ _).trans more
  induction program generalizing past pending with
  | ret value => exact List.prefix_rfl
  | raise error => trivial
  | performs stmt next ih => exact fun _ value _ _ _ => ⟨trivial, further past (ih value _ _)⟩
  | observes next ih => exact fun tick => ih _ _ _
  | commits next ih => exact ⟨trivial, further past (ih _ _)⟩
  | publishes msg next ih => exact ⟨trivial, further past (ih _ _)⟩

theorem obeys_then {Q : β → List (Action Stmt Res Write Msg) → List Write → Prop}
    {program : Program Stmt Res Err Msg Env α} {rest : α → Program Stmt Res Err Msg Env β}
    {past : List (Action Stmt Res Write Msg)} {pending : List Write}
    (onward : ∀ value later pending', past <+: later →
      Obeys E env (fun _ _ => True) Q (rest value) later pending') :
    Obeys E env (fun _ _ => True) Q (program.bind rest) past pending :=
  obeys_bind.mpr (obeys_mono (obeys_continues program past pending) onward)

/-! ## What a program can send -/

section
variable {ok : Stmt → Prop}

def Program.Sends (ok : Stmt → Prop) : Program Stmt Res Err Msg Env α → Prop
  | .ret _ => True
  | .raise _ => True
  | .performs stmt next => ok stmt ∧ ∀ answer, (next answer).Sends ok
  | .observes next => ∀ env, (next env).Sends ok
  | .commits next => next.Sends ok
  | .publishes _ next => next.Sends ok

theorem sends_bind {program : Program Stmt Res Err Msg Env α}
    {rest : α → Program Stmt Res Err Msg Env β} (first : program.Sends ok)
    (last : ∀ value, (rest value).Sends ok) : (program.bind rest).Sends ok := by
  induction program with
  | ret value => exact last value
  | raise error => trivial
  | performs stmt next ih => exact ⟨first.1, fun answer => ih answer (first.2 answer)⟩
  | observes next ih => exact fun env => ih env (first env)
  | commits next ih => exact ih first
  | publishes msg next ih => exact ih first

theorem sends_mono {fine : Stmt → Prop} {program : Program Stmt Res Err Msg Env α}
    (implies : ∀ stmt, ok stmt → fine stmt) (sends : program.Sends ok) : program.Sends fine := by
  induction program with
  | ret value => trivial
  | raise error => trivial
  | performs stmt next ih => exact ⟨implies _ sends.1, fun answer => ih answer (sends.2 answer)⟩
  | observes next ih => exact fun env => ih env (sends env)
  | commits next ih => exact ih sends
  | publishes msg next ih => exact ih sends

theorem sends_mapRaise {program : Program Stmt Res Err Msg Env α} {f : Err → Err}
    (sends : program.Sends ok) : (program.mapRaise f).Sends ok := by
  induction program with
  | ret value => trivial
  | raise error => trivial
  | performs stmt next ih => exact ⟨sends.1, fun answer => ih answer (sends.2 answer)⟩
  | observes next ih => exact fun env => ih env (sends env)
  | commits next ih => exact ih sends
  | publishes msg next ih => exact ih sends

theorem obeys_of_sends {program : Program Stmt Res Err Msg Env α}
    {past : List (Action Stmt Res Write Msg)} {pending : List Write}
    (performed : ∀ past stmt value writes, ok stmt → P past (.performed stmt value writes))
    (committed : ∀ past writes, P past (.committed writes))
    (published : ∀ past msg, P past (.published msg)) (sends : program.Sends ok) :
    Obeys E env P (fun _ _ _ => True) program past pending := by
  induction program generalizing past pending with
  | ret value => trivial
  | raise error => trivial
  | performs stmt next ih =>
      exact fun _ value _ _ _ => ⟨performed _ _ _ _ sends.1, ih value (sends.2 value)⟩
  | observes next ih => exact fun tick => ih _ (sends _)
  | commits next ih => exact ⟨committed _ _, ih sends⟩
  | publishes msg next ih => exact ⟨published _ _, ih sends⟩

def Program.PublishesNothing : Program Stmt Res Err Msg Env α → Prop
  | .ret _ => True
  | .raise _ => True
  | .performs _ next => ∀ answer, (next answer).PublishesNothing
  | .observes next => ∀ env, (next env).PublishesNothing
  | .commits next => next.PublishesNothing
  | .publishes _ _ => False

/-- If the program publishes, it returns then. -/
def Program.PublishesLast : Program Stmt Res Err Msg Env α → Prop
  | .ret _ => True
  | .raise _ => True
  | .performs _ next => ∀ answer, (next answer).PublishesLast
  | .observes next => ∀ env, (next env).PublishesLast
  | .commits next => next.PublishesLast
  | .publishes _ next => ∃ value, next = .ret value

theorem publishesNothing_bind {program : Program Stmt Res Err Msg Env α}
    {rest : α → Program Stmt Res Err Msg Env β} (first : program.PublishesNothing)
    (last : ∀ value, (rest value).PublishesNothing) : (program.bind rest).PublishesNothing := by
  induction program with
  | ret value => exact last value
  | raise error => trivial
  | performs stmt next ih => exact fun answer => ih answer (first answer)
  | observes next ih => exact fun env => ih env (first env)
  | commits next ih => exact ih first
  | publishes msg next ih => exact first.elim

theorem publishesLast_bind {program : Program Stmt Res Err Msg Env α}
    {rest : α → Program Stmt Res Err Msg Env β} (first : program.PublishesNothing)
    (last : ∀ value, (rest value).PublishesLast) : (program.bind rest).PublishesLast := by
  induction program with
  | ret value => exact last value
  | raise error => trivial
  | performs stmt next ih => exact fun answer => ih answer (first answer)
  | observes next ih => exact fun env => ih env (first env)
  | commits next ih => exact ih first
  | publishes msg next ih => exact first.elim

theorem publishesNothing_mapRaise {program : Program Stmt Res Err Msg Env α} {f : Err → Err}
    (nothing : program.PublishesNothing) : (program.mapRaise f).PublishesNothing := by
  induction program with
  | ret value => trivial
  | raise error => trivial
  | performs stmt next ih => exact fun answer => ih answer (nothing answer)
  | observes next ih => exact fun env => ih env (nothing env)
  | commits next ih => exact ih nothing
  | publishes msg next ih => exact nothing.elim

theorem publishesLast_map {program : Program Stmt Res Err Msg Env α} {f : α → β}
    (last : program.PublishesLast) : (f <$> program).PublishesLast := by
  induction program with
  | ret value => trivial
  | raise error => trivial
  | performs stmt next ih => exact fun answer => ih answer (last answer)
  | observes next ih => exact fun env => ih env (last env)
  | commits next ih => exact ih last
  | publishes msg next ih =>
      obtain ⟨value, rfl⟩ := last
      exact ⟨f value, rfl⟩

/-- There is no commit after a message. -/
def CommitsUnannounced (past : List (Action Stmt Res Write Msg)) :
    Action Stmt Res Write Msg → Prop
  | .committed _ => ∀ msg, .published msg ∉ past
  | _ => True

theorem obeys_of_publishesLast {program : Program Stmt Res Err Msg Env α}
    {past : List (Action Stmt Res Write Msg)} {pending : List Write}
    (silent : ∀ msg, .published msg ∉ past) (last : program.PublishesLast) :
    Obeys E env CommitsUnannounced (fun _ _ _ => True) program past pending := by
  induction program generalizing past pending with
  | ret value => trivial
  | raise error => trivial
  | performs stmt next ih =>
      intro context value writes locks exec
      exact ⟨trivial, ih value (fun msg => by simpa using silent msg) (last value)⟩
  | observes next ih => exact fun tick => ih _ silent (last _)
  | commits next ih => exact ⟨silent, ih (fun msg => by simpa using silent msg) last⟩
  | publishes msg next ih =>
      obtain ⟨value, rfl⟩ := last
      exact ⟨trivial, trivial⟩

end

/-- Every event of the log satisfies its owner's `P` over the owner's past at that point. -/
def Justified (P : ι → List (Action Stmt Res Write Msg) → Action Stmt Res Write Msg → Prop)
    (log : List (Event ι Stmt Res Write Msg)) : Prop :=
  Throughout (fun before event => P event.owner (pastOf event.owner before) event.action) log

variable {ok : World ι Store Write Lock Stmt Res Err Msg Env α → ι → Prop}
  {start : Store} {session : ι → Session Stmt Res Err Msg Env α}
  {w : World ι Store Write Lock Stmt Res Err Msg Env α}

def Session.Follows (E : Engine Store Write Lock Stmt Res Err Env) (env : Nat → Env)
    (P : List (Action Stmt Res Write Msg) → Action Stmt Res Write Msg → Prop)
    (Q : α → List (Action Stmt Res Write Msg) → List Write → Prop)
    (past : List (Action Stmt Res Write Msg)) (pending : List Write) :
    Session Stmt Res Err Msg Env α → Prop
  | .running program => Obeys E env P Q program past pending
  | .returned value => ∃ pending, Q value past pending
  | _ => True

private theorem follows_update {i : ι} (next : Session Stmt Res Err Msg Env α)
    {sessions : ι → Session Stmt Res Err Msg Env α} {tx : ι → Tx Write Env}
    (tx' : ι → Tx Write Env) {log : List (Event ι Stmt Res Write Msg)}
    (extra : List (Event ι Stmt Res Write Msg))
    {P : ι → List (Action Stmt Res Write Msg) → Action Stmt Res Write Msg → Prop}
    {Q : ι → α → List (Action Stmt Res Write Msg) → List Write → Prop}
    (others : ∀ j, j ≠ i → (sessions j).Follows E env (P j) (Q j) (pastOf j log) (tx j).writes)
    (mine : next.Follows E env (P i) (Q i) (pastOf i (log ++ extra)) (tx' i).writes)
    (owned : ∀ j, j ≠ i → pastOf j extra = []) (kept : ∀ j, j ≠ i → tx' j = tx j) (j : ι) :
    (Function.update sessions i next j).Follows E env (P j) (Q j) (pastOf j (log ++ extra))
      (tx' j).writes := by
  by_cases same : j = i
  · subst same
    simpa using mine
  · simpa [same, owned j same, kept j same] using others j same

variable [DecidableEq Lock]

/-- Programs that obey `P` by themselves obey it in every interleaving. -/
theorem Reaches.obeys
    {P : ι → List (Action Stmt Res Write Msg) → Action Stmt Res Write Msg → Prop}
    {Q : ι → α → List (Action Stmt Res Write Msg) → List Write → Prop}
    (reach : Reaches E env ok ⟨.start start, session⟩ w)
    (obeys : ∀ i, (session i).Follows E env (P i) (Q i) [] []) :
    Justified P w.state.log ∧ ∀ i, (w.session i).Follows E env (P i) (Q i)
      (pastOf i w.state.log) (w.state.tx i).writes := by
  refine reach.moves (motive := fun w => Justified P w.state.log ∧ ∀ i,
    (w.session i).Follows E env (P i) (Q i) (pastOf i w.state.log) (w.state.tx i).writes)
    ⟨throughout_nil, obeys⟩ ?_
  intro w i program next state _ ⟨justified, follows⟩ running moved _
  have current : Obeys E env (P i) (Q i) program (pastOf i w.state.log) (w.state.tx i).writes := by
    simpa [running, Session.Follows] using follows i
  have others : ∀ j, j ≠ i → (w.session j).Follows E env (P j) (Q j) (pastOf j w.state.log)
      (w.state.tx j).writes := fun j _ => follows j
  have closes (next : Session Stmt Res Err Msg Env α)
      (mine : ∀ pending, next.Follows E env (P i) (Q i) (pastOf i w.state.log) pending) (j : ι) :
      (Function.update w.session i next j).Follows E env (P j) (Q j)
        (pastOf j (w.state.rolledBack i).log) ((w.state.rolledBack i).tx j).writes := by
    have := follows_update next (w.state.rolledBack i).tx [] others (by simpa using mine _)
      (fun _ _ => rfl) (fun j other => by simp [State.rolledBack, State.closed, other]) j
    simpa [State.rolledBack, State.closed] using this
  cases moved with
  | returned value => exact ⟨justified, closes _ fun pending => ⟨_, current⟩⟩
  | raised => exact ⟨justified, closes _ fun _ => trivial⟩
  | failed => exact ⟨justified, closes _ fun _ => trivial⟩
  | crashed => exact ⟨justified, closes _ fun _ => trivial⟩
  | observed next =>
      refine ⟨justified, fun j => ?_⟩
      have := follows_update (.running (next (env w.state.tick))) w.state.tx [] others
        (by simpa [Session.Follows] using current w.state.tick) (fun _ _ => rfl)
        (fun _ _ => rfl) j
      simpa [State.ticked] using this
  | performed ready exec =>
      obtain ⟨allowed, rest⟩ := current _ _ _ _ exec
      refine ⟨throughout_concat justified allowed, fun j => ?_⟩
      exact follows_update _ _ _ others (by simpa [State.performed, Session.Follows] using rest)
        (fun j other => pastOf_other (Ne.symm other) _)
        (fun j other => by simp [State.performed, other]) j
  | committed next =>
      refine ⟨throughout_concat justified current.1, fun j => ?_⟩
      exact follows_update _ _ _ others
        (by simpa [State.committed, State.closed, Tx.closed, Session.Follows] using current.2)
        (fun j other => pastOf_other (Ne.symm other) _)
        (fun j other => by simp [State.committed, State.closed, other]) j
  | published msg next =>
      refine ⟨throughout_concat justified current.1, fun j => ?_⟩
      exact follows_update _ _ _ others (by simpa [Session.Follows] using current.2)
        (fun j other => pastOf_other (Ne.symm other) _) (fun _ _ => rfl) j

theorem Reaches.sent {fine : ι → Stmt → Prop} (reach : Reaches E env ok ⟨.start start, session⟩ w)
    (sends : ∀ i program, session i = .running program → program.Sends (fine i)) {n : Nat} {i : ι}
    {stmt : Stmt} {value : Res stmt} {writes : List Write}
    (located : w.state.log[n]? = some ⟨i, .performed stmt value writes⟩) : fine i stmt := by
  let onlySends (i : ι) (_ : List (Action Stmt Res Write Msg)) : Action Stmt Res Write Msg → Prop
    | .performed stmt _ _ => fine i stmt
    | _ => True
  have follows (i : ι) : (session i).Follows E env (onlySends i) (fun _ _ _ => True) [] [] := by
    cases state : session i with
    | running program =>
        exact obeys_of_sends (fun _ _ _ _ fine => fine) (fun _ _ => trivial)
          (fun _ _ => trivial) (sends i program state)
    | returned value => exact ⟨[], trivial⟩
    | raised error => trivial
    | crashed => trivial
  exact (reach.obeys follows).1 n _ located

end QueueFlow.Transactions
