import QueueFlow.Data.Execution
import QueueFlow.Transactions.Alike

/-!
# Databases without expired keys

`Trimmed` relates a database to one from which cleanups have dropped more keys. A statement that
keeps to keys that both have does the same over both.
-/

namespace QueueFlow.Data
open QueueFlow.Tables QueueFlow.Transactions

/-! ## Statements and keys -/

def Stmt.KeepsTo (K : UUID × String → Prop) : Stmt → Prop
  | .read (.idempotencyKey tenantId key _) => K (tenantId, key)
  | .write (.insertIdempotencyKey new) => K (new.tenantId, new.key)
  | .write (.deleteExpiredKeys _) => False
  | _ => True

def Database.unkeyed (db : Database) : Database := { db with idempotencyKeys := .empty }

section
variable {db db' : Database} {K : UUID × String → Prop}

theorem eval_unkeyed {q : Query} {order : UUID → Nat}
    (plain : (Stmt.read q).KeepsTo fun _ => False) :
    q.eval db.unkeyed order = q.eval db order := by
  cases q with
  | idempotencyKey tenantId key now => exact plain.elim
  | _ => rfl

theorem run_unkeyed {command : Command} {id : UUID} {now : Time}
    (plain : (Stmt.write command).KeepsTo fun _ => False) :
    command.run db.unkeyed id now = command.run db id now := by
  cases command with
  | insertIdempotencyKey new => exact plain.elim
  | deleteExpiredKeys now => exact plain.elim
  | insertRecord new => cases new <;> rfl
  | updateRecord update => cases update <;> rfl
  | _ => rfl

theorem exec_unkeyed {stmt : Stmt} (plain : stmt.KeepsTo fun _ => False)
    (context : Context Database Lock Env) :
    stmt.exec { context with view := context.view.unkeyed } = stmt.exec context := by
  cases stmt with
  | read q => simp only [Stmt.exec, eval_unkeyed plain]
  | callTicket id locationId serviceId counterId => rfl
  | write command => simp only [Stmt.exec, run_unkeyed plain]

theorem exec_keepsTo {stmt : Stmt} (keeps : stmt.KeepsTo K)
    {context context' : Context Database Lock Env}
    (unkeyed : context.view.unkeyed = context'.view.unkeyed)
    (keys : ∀ entry, K entry → context.view.idempotencyKeys.get? entry =
      context'.view.idempotencyKeys.get? entry)
    (busy : context.busy = context'.busy) (began : context.began = context'.began)
    (env : context.env = context'.env) : stmt.exec context = stmt.exec context' := by
  have plainly (plain : stmt.KeepsTo fun _ => False) : stmt.exec context = stmt.exec context' := by
    rw [← exec_unkeyed plain context, ← exec_unkeyed plain context', unkeyed, busy, began, env]
  cases stmt with
  | read q =>
      cases q with
      | idempotencyKey tenantId key now =>
          simp only [Stmt.exec, Query.eval, Database.findIdempotencyKey, keys _ keeps]
      | _ => exact plainly trivial
  | callTicket id locationId serviceId counterId => exact plainly trivial
  | write command =>
      cases command with
      | insertIdempotencyKey new =>
          have tenant :
            context.view.hasTenant new.tenantId = context'.view.hasTenant new.tenantId :=
            congrArg (fun db => db.hasTenant new.tenantId) unkeyed
          simp only [Stmt.exec, Command.run, NewIdempotencyKey.checks, keys _ keeps, tenant]
      | deleteExpiredKeys now => exact keeps.elim
      | _ => exact plainly trivial

end

/-! ## Writes and keys -/

section
variable {db db' : Database} {K : UUID × String → Prop} {times : List Time} {now : Time}

private theorem apply_unkeyed (db : Database) (write : Write) :
    (db.unkeyed.apply write).unkeyed = (db.apply write).unkeyed := by
  cases write with
  | insert row => cases row <;> rfl
  | update row => cases row <;> rfl
  | dropKey tenantId key => rfl

private theorem getKey_put (row : Row) (entry : UUID × String) :
    (∃ value, ∀ db : Database, (db.put row).idempotencyKeys.get? entry = value) ∨
      ∀ db : Database, (db.put row).idempotencyKeys.get? entry = db.idempotencyKeys.get? entry := by
  cases row with
  | idempotencyKey row =>
      by_cases same : Keyed.key row = entry
      · exact .inl ⟨some row, fun db => (Table.get?_put _ _ _).trans (if_pos same)⟩
      · exact .inr fun db => (Table.get?_put _ _ _).trans (if_neg same)
  | _ => exact .inr fun db => rfl

theorem getKey_apply (write : Write) (entry : UUID × String) :
    (∃ value, ∀ db : Database, (db.apply write).idempotencyKeys.get? entry = value) ∨
      ∀ db : Database, (db.apply write).idempotencyKeys.get? entry =
        db.idempotencyKeys.get? entry := by
  cases write with
  | insert row => exact getKey_put row entry
  | update row => exact getKey_put row entry
  | dropKey tenantId key =>
      by_cases same : (tenantId, key) = entry
      · exact .inl ⟨none, fun db => (Table.get?_drop _ _ _).trans (if_pos same)⟩
      · exact .inr fun db => (Table.get?_drop _ _ _).trans (if_neg same)

/-- `db'` is `db` without some records that were expired at one of these times. -/
structure Trimmed (times : List Time) (db db' : Database) : Prop where
  unkeyed : db.unkeyed = db'.unkeyed
  keys : ∀ entry, db'.idempotencyKeys.get? entry = db.idempotencyKeys.get? entry ∨
    db'.idempotencyKeys.get? entry = none ∧ ∃ record ∈ db.idempotencyKeys.get? entry,
      ∃ time ∈ times, record.expiresAt < time

theorem Trimmed.refl : Trimmed times db db := ⟨rfl, fun _ => .inl rfl⟩

theorem Trimmed.apply (trimmed : Trimmed times db db') (write : Write) :
    Trimmed times (db.apply write) (db'.apply write) where
  unkeyed := by rw [← apply_unkeyed, trimmed.unkeyed, apply_unkeyed]
  keys entry := by
    rcases getKey_apply write entry with ⟨value, sets⟩ | leaves
    · exact .inl ((sets db').trans (sets db).symm)
    · rw [leaves, leaves]
      exact trimmed.keys entry

structure AlikeOn (times : List Time) (K : UUID × String → Prop) (db db' : Database) : Prop
    extends Trimmed times db db' where
  agrees : ∀ entry, K entry → db.idempotencyKeys.get? entry = db'.idempotencyKeys.get? entry

theorem blind_alikeOn : Blind engine (AlikeOn times K) (Stmt.KeepsTo K) where
  apply write db db' alike := by
    refine ⟨alike.toTrimmed.apply write, fun entry keeps => ?_⟩
    rcases getKey_apply write entry with ⟨value, sets⟩ | leaves
    · exact (sets db).trans (sets db').symm
    · exact (leaves db).trans ((alike.agrees entry keeps).trans (leaves db').symm)
  exec keeps _ _ alike := exec_keepsTo keeps alike.unkeyed alike.agrees

/-! ## The cleanup -/

/-- `after` is `db` after a cleanup at `now`. -/
structure Cleaned (now : Time) (db after : Database) : Prop where
  unkeyed : after.unkeyed = db.unkeyed
  keys : ∀ entry, after.idempotencyKeys.get? entry =
    (db.idempotencyKeys.get? entry).filter fun record => now ≤ record.expiresAt

private theorem unkeyed_drops (db : Database) (rows : List IdempotencyKey) :
    (engine.applyAll db (rows.map fun row => .dropKey row.tenantId row.key)).unkeyed =
      db.unkeyed := by
  induction rows generalizing db with
  | nil => rfl
  | cons row rows ih => exact ih _

private theorem getKey_drops (db : Database) (rows : List IdempotencyKey) (entry : UUID × String) :
    (engine.applyAll db (rows.map fun row => .dropKey row.tenantId row.key)).idempotencyKeys.get?
      entry = if entry ∈ rows.map Keyed.key then none else db.idempotencyKeys.get? entry := by
  induction rows generalizing db with
  | nil => simp
  | cons row rows ih =>
      rw [List.map_cons, Engine.applyAll_cons, ih]
      change (if _ then none else (db.idempotencyKeys.drop (row.tenantId, row.key)).get? entry) = _
      rw [Table.get?_drop]
      by_cases here : (row.tenantId, row.key) = entry
      · simp only [here, List.map_cons, List.mem_cons, if_true, ite_self]
        exact (if_pos (.inl here.symm)).symm
      · have same : entry ∈ (row :: rows).map Keyed.key ↔ entry ∈ rows.map Keyed.key := by
          simpa using fun first => (here first.symm).elim
        simp only [here, same, if_false]

theorem cleaned_expiredKeys (now : Time) (db : Database) : Cleaned now db
    (engine.applyAll db ((db.expiredKeys now).map fun row => .dropKey row.tenantId row.key)) where
  unkeyed := unkeyed_drops db _
  keys entry := by
    rw [getKey_drops]
    cases found : db.idempotencyKeys.get? entry with
    | none => simp
    | some record =>
        obtain ⟨member, named⟩ := Table.get?_eq_some.mp found
        have expired : entry ∈ (db.expiredKeys now).map Keyed.key ↔ record.expiresAt < now := by
          constructor
          · intro listed
            obtain ⟨other, dropped, same⟩ := List.mem_map.mp listed
            obtain ⟨there, late⟩ := List.mem_filter.mp dropped
            rw [← same, Table.get?_of_mem there] at found
            cases found
            simpa using late
          · intro late
            exact List.mem_map.mpr ⟨record, List.mem_filter.mpr ⟨member, by simpa using late⟩, named⟩
        simp only [expired, Option.filter_some]
        by_cases late : record.expiresAt < now
        · simp [late]
        · simp [late, Nat.le_of_not_lt late]

theorem Trimmed.cleanedMore {after' : Database} (trimmed : Trimmed times db db')
    (cleaned : Cleaned now db' after') : Trimmed (now :: times) db after' where
  unkeyed := trimmed.unkeyed.trans cleaned.unkeyed.symm
  keys entry := by
    rw [cleaned.keys]
    rcases trimmed.keys entry with same | ⟨gone, record, found, time, member, late⟩
    · rw [same]
      cases found : db.idempotencyKeys.get? entry with
      | none => exact .inl rfl
      | some record =>
          by_cases kept : now ≤ record.expiresAt
          · exact .inl (by simp [kept])
          · exact .inr ⟨by simp [Nat.lt_of_not_le kept], record, rfl, now, List.mem_cons_self,
              Nat.lt_of_not_le kept⟩
    · refine .inr ⟨by simp [gone], record, found, time, List.mem_cons_of_mem _ member, late⟩

theorem Trimmed.cleaned {after after' : Database} (trimmed : Trimmed times db db')
    (cleaned : Cleaned now db after) (cleaned' : Cleaned now db' after') :
    Trimmed times after after' where
  unkeyed := cleaned.unkeyed.trans (trimmed.unkeyed.trans cleaned'.unkeyed.symm)
  keys entry := by
    rw [cleaned.keys, cleaned'.keys]
    rcases trimmed.keys entry with same | ⟨gone, record, found, time, member, late⟩
    · exact .inl (by rw [same])
    · rw [gone, Option.mem_def.mp found]
      by_cases kept : now ≤ record.expiresAt
      · exact .inr ⟨rfl, record, by simp [kept], time, member, late⟩
      · refine .inl ?_
        rw [Option.filter_none, Option.filter_some, if_neg (by simpa using kept)]

theorem Trimmed.getKey (trimmed : Trimmed times db db') {entry : UUID × String}
    (outlasts : ∀ record ∈ db.idempotencyKeys.get? entry, ∀ time ∈ times,
      time ≤ record.expiresAt) :
    db.idempotencyKeys.get? entry = db'.idempotencyKeys.get? entry := by
  rcases trimmed.keys entry with same | ⟨_, record, found, time, member, late⟩
  · exact same.symm
  · exact (Nat.not_lt_of_le (outlasts record found time member) late).elim

end

end QueueFlow.Data
