import QueueFlow.Transactions.RowHistory

/-!
# Refinement

An abstract machine that knows no sessions. When each commit is some steps of the machine, a run is
a run of the machine, in the order of the commits.
-/

namespace QueueFlow.Transactions

/-- What a step makes of a state that allows it. -/
structure Machine (S Step : Type) where
  perform : Step → S → Option S

namespace Machine

variable {S Step : Type} {machine : Machine S Step} {state : S} {step : Step}
  {steps later : List Step}

def run (machine : Machine S Step) (state : S) (steps : List Step) : Option S :=
  steps.foldlM (fun state step => machine.perform step state) state

@[simp] theorem run_nil : machine.run state [] = some state := rfl

@[simp] theorem run_cons :
    machine.run state (step :: steps) = (machine.perform step state).bind (machine.run · steps) :=
  rfl

theorem run_append :
    machine.run state (steps ++ later) = (machine.run state steps).bind (machine.run · later) :=
  List.foldlM_append

end Machine

variable {ι Store Write Lock Stmt Err Msg Env S Step : Type} {Res : Stmt → Type}

def committers (log : List (Event ι Stmt Res Write Msg)) : List ι :=
  log.filterMap fun event => match event.action with
    | .committed _ => some event.owner
    | _ => none

/-- The turns of the sessions are a run of the machine, and the steps of a turn are what its session
was asked for. Only the first turn of a session has any. -/
structure Explains (machine : Machine S Step) (asks : ι → Step → Prop) (before after : S)
    (committed : List ι) (turns : List (ι × List Step)) : Prop where
  order : turns.map Prod.fst = committed
  runs : machine.run before (turns.flatMap Prod.snd) = some after
  asked : ∀ turn ∈ turns, ∀ step ∈ turn.2, asks turn.1 step
  first : turns.Pairwise fun earlier later => earlier.1 = later.1 → later.2 = []

variable {machine : Machine S Step} {asks : ι → Step → Prop} {before after final : S}
  {committed : List ι} {turns : List (ι × List Step)} {i : ι} {steps : List Step}
  {log : List (Event ι Stmt Res Write Msg)}

theorem Explains.start : Explains machine asks before before [] [] :=
  ⟨rfl, rfl, by simp, .nil⟩

theorem Explains.turn (explains : Explains machine asks before after committed turns)
    (runs : machine.run after steps = some final) (asked : ∀ step ∈ steps, asks i step)
    (first : steps ≠ [] → i ∉ committed) :
    Explains machine asks before final (committed ++ [i]) (turns ++ [(i, steps)]) where
  order := by simp [explains.order]
  runs := by simp [Machine.run_append, explains.runs, runs]
  asked := by
    intro turn member
    rcases List.mem_append.mp member with earlier | last
    · exact explains.asked turn earlier
    · cases List.mem_singleton.mp last
      exact asked
  first := by
    rw [List.pairwise_append]
    refine ⟨explains.first, List.pairwise_singleton _ _, ?_⟩
    intro earlier member last here same
    cases List.mem_singleton.mp here
    by_contra acts
    apply first acts
    rw [← explains.order]
    exact List.mem_map.mpr ⟨earlier, member, same⟩

@[simp] theorem committers_append {rest : List (Event ι Stmt Res Write Msg)} :
    committers (log ++ rest) = committers log ++ committers rest := List.filterMap_append

theorem mem_committers : i ∈ committers log ↔ ∃ writes, ⟨i, .committed writes⟩ ∈ log := by
  constructor
  · intro member
    obtain ⟨⟨owner, action⟩, inLog, same⟩ := List.mem_filterMap.mp member
    cases action with
    | committed writes =>
        cases same
        exact ⟨writes, inLog⟩
    | _ => cases same
  · rintro ⟨writes, inLog⟩
    exact List.mem_filterMap.mpr ⟨_, inLog, rfl⟩

variable [DecidableEq ι] [DecidableEq Lock] {E : Engine Store Write Lock Stmt Res Err Env}
  {start : Store}

omit [DecidableEq ι] [DecidableEq Lock] in
theorem explains_log (view : Store → S)
    (simulates : ∀ n i writes, log[n]? = some ⟨i, .committed writes⟩ → ∃ steps,
      machine.run (view (storeAt E start (log.take n))) steps =
        some (view (E.applyAll (storeAt E start (log.take n)) writes)) ∧
      (∀ step ∈ steps, asks i step) ∧ (steps ≠ [] → i ∉ committers (log.take n)))
    (n : Nat) : ∃ turns, Explains machine asks (view start) (view (storeAt E start (log.take n)))
      (committers (log.take n)) turns := by
  induction n with
  | zero => exact ⟨[], .start⟩
  | succ n ih =>
      obtain ⟨turns, explains⟩ := ih
      cases located : log[n]? with
      | none =>
          have past : log.length ≤ n := List.getElem?_eq_none_iff.mp located
          rw [List.take_of_length_le (Nat.le_succ_of_le past)]
          rw [List.take_of_length_le past] at explains
          exact ⟨turns, explains⟩
      | some event =>
          obtain ⟨i, action⟩ := event
          cases action with
          | committed writes =>
              obtain ⟨steps, runs, asked, first⟩ := simulates n i writes located
              refine ⟨turns ++ [(i, steps)], ?_⟩
              rw [storeAt_commit located, List.take_add_one, located, Option.toList_some,
                committers_append]
              exact explains.turn runs asked first
          | performed stmt value writes =>
              refine ⟨turns, ?_⟩
              rw [List.take_add_one, located, storeAt_append, committers_append]
              simpa [committers] using explains
          | published msg =>
              refine ⟨turns, ?_⟩
              rw [List.take_add_one, located, storeAt_append, committers_append]
              simpa [committers] using explains

end QueueFlow.Transactions
