import Foc.Credit.Invariants
import Mathlib

/-!
The ledger audit (`LedgerAuditService.run`) in any number of processes, beside the Credit Service's
own transactions. A run is one transaction under REPEATABLE READ: the statement that tries the
advisory lock fixes the snapshot that the whole run reads, and the lock is tried after that. A row
committed later is not seen, and an insert that meets one fails.
-/
namespace Foc.Credit.Audit
open Invariants Library.EventLoop
open Library.Calendar (Day ofDays)
open Foc.Order (Micros)

/-! ## Rows -/

inductive AuditOrigin where
  | scheduled | manual | cli
  deriving DecidableEq, Repr

inductive AuditStatus where
  | pass | mismatch | error
  deriving DecidableEq, Repr

structure Finding where
  name : String
  violations : List String
  deriving DecidableEq, Repr

/-- A row of `ledger_audit_runs`. A run is known by its place among the calls of `run`, and its
day by the date. -/
structure AuditRow where
  runId : Nat
  origin : AuditOrigin
  requestedBy : Option UserId
  scheduledDay : Option Day
  status : AuditStatus
  mismatchCount : Option Nat
  results : List Finding
  error : Option String
  startedAt : Micros
  completedAt : Micros
  deriving DecidableEq, Repr

/-- `ledger_audit_result_consistent`. -/
def AuditRow.consistent (row : AuditRow) : Bool :=
  match row.status with
  | .pass => decide (row.mismatchCount = some 0)
  | .mismatch => row.mismatchCount.any fun count => decide (0 < count)
  | .error => row.mismatchCount.isNone

/-! ## Runs -/

/-- What a run's statements read. -/
structure Snapshot where
  tables : Tables
  runs : List AuditRow

inductive Stage where
  | begun
  /-- The statement that tries the lock has its snapshot. -/
  | locking (snapshot : Snapshot)
  | locked (snapshot : Snapshot)
  /-- The checks made so far, on the day it is of. -/
  | checking (snapshot : Snapshot) (day : Option Day) (results : List Finding)
  | inserted (row : AuditRow)
  /-- It commits what it has, if anything; once that shows, the lock is still held. -/
  | ending (row : Option AuditRow)
  /-- It was rolled back, and is to leave an ERROR attempt. -/
  | failed
  | returned (row : Option AuditRow)
  | threw

structure AuditRun where
  origin : AuditOrigin
  requestedBy : Option UserId
  startedAt : Micros
  /-- `now()` of its transaction. -/
  beganAt : Micros
  stage : Stage
  /-- The database or the connection failed it. -/
  broke : Bool

structure State where
  credit : Interleaving.State
  /-- The rows committed, in the order of the commits. -/
  runs : List AuditRow
  /-- The run that holds `LEDGER_AUDIT_LOCK`. -/
  lock : Option Nat
  calls : List AuditRun

def begun (clock : Micros) : State :=
  { credit := Interleaving.initial clock, runs := [], lock := none, calls := [] }

/-- `to_char(now() AT TIME ZONE 'UTC', 'YYYY-MM-DD')`. -/
def utcDay (now : Micros) : Day := ofDays (now / 86400000000)

def AuditRun.day (call : AuditRun) : Option Day :=
  if call.origin = .scheduled then some (utcDay call.beganAt) else none

/-- The next check of the audit, on what the run reads. -/
def findingOf (tables : Tables) (check : String × CreditInvariant) : Finding :=
  { name := check.1, violations := check.2 tables }

def findings (tables : Tables) : List Finding := auditChecks.map (findingOf tables)

def countFindings (results : List Finding) : Nat :=
  (results.map fun finding => finding.violations.length).sum

/-- The row that a run which went through inserts. -/
def completed (state : State) (index : Nat) (call : AuditRun) (day : Option Day)
    (results : List Finding) : AuditRow :=
  { runId := index
    origin := call.origin
    requestedBy := call.requestedBy
    scheduledDay := day
    status := if countFindings results ≠ 0 then .mismatch else .pass
    mismatchCount := some (countFindings results)
    results
    error := none
    startedAt := call.startedAt
    completedAt := state.credit.clock }

/-- The ERROR attempt: it has no day. -/
def attempt (state : State) (index : Nat) (call : AuditRun) : AuditRow :=
  { runId := index
    origin := call.origin
    requestedBy := call.requestedBy
    scheduledDay := none
    status := .error
    mismatchCount := none
    results := []
    error := some "Audit could not complete; inspect the service logs using the run ID."
    startedAt := call.startedAt
    completedAt := state.credit.clock }

def State.put (state : State) (index : Nat) (call : AuditRun) (stage : Stage) : State :=
  { state with calls := state.calls.set index { call with stage } }

/-- The end of a transaction that held the lock, or did not. -/
def State.unlock (state : State) (index : Nat) : State :=
  { state with lock := if state.lock = some index then none else state.lock }

def hasDay (rows : List AuditRow) (day : Day) : Bool :=
  rows.any fun row => decide (row.scheduledDay = some day)

/-- Another run has inserted a row of the day and not ended. -/
def insertedDay (calls : List AuditRun) (day : Day) : Bool :=
  calls.any fun call =>
    match call.stage with
    | .inserted row => decide (row.scheduledDay = some day)
    | _ => false

inductive Event where
  | credit (event : Interleaving.Event)
  | start (origin : AuditOrigin) (requestedBy : Option UserId) (startedAt : Micros)
  /-- The next statement of a run, or what follows its last one. -/
  | run (index : Nat)
  | breaks (index : Nat)
  /-- The ERROR attempt is stored, or is not. -/
  | attempt (index : Nat) (stored : Bool)

/-- The insert with `ON CONFLICT (scheduled_day) DO NOTHING`: a row of the day that the snapshot
shows is left, one that it does not show fails the transaction, and one not committed is waited
for. -/
def insert (state : State) (index : Nat) (call : AuditRun) (snapshot : Snapshot) (day : Option Day)
    (results : List Finding) : Option State :=
  let row := completed state index call day results
  match day with
  | none => some (state.put index call (.inserted row))
  | some day =>
      if hasDay state.runs day then
        if hasDay snapshot.runs day then some (state.put index call (.ending none))
        else some ((state.put index call .failed).unlock index)
      else if insertedDay state.calls day then none
      else some (state.put index call (.inserted row))

/-- The next step of a run by its stage. -/
def proceed (state : State) (index : Nat) (call : AuditRun) : Option State :=
  match call.stage with
  | .begun => some (state.put index call (.locking ⟨state.credit.tables, state.runs⟩))
  | .locking snapshot =>
      match state.lock with
      | some _ => some (state.put index call (.ending none))
      | none => some { state.put index call (.locked snapshot) with lock := some index }
  | .locked snapshot =>
      match call.day with
      | none => some (state.put index call (.checking snapshot none []))
      | some day =>
          if hasDay snapshot.runs day then some (state.put index call (.ending none))
          else some (state.put index call (.checking snapshot (some day) []))
  | .checking snapshot day results =>
      match auditChecks[results.length]? with
      | some check =>
          let next := results ++ [findingOf snapshot.tables check]
          some (state.put index call (.checking snapshot day next))
      | none => insert state index call snapshot day results
  | .inserted row =>
      some { state.put index call (.ending (some row)) with runs := state.runs ++ [row] }
  | .ending row => some ((state.put index call (.returned row)).unlock index)
  | .failed => none
  | .returned _ => none
  | .threw => none

/-- A run that a statement, its commit or the answer to its commit fails. -/
def breaks (state : State) (index : Nat) (call : AuditRun) : Option State :=
  match call.stage with
  | .failed => none
  | .returned _ => none
  | .threw => none
  | _ => some ((state.put index { call with broke := true } .failed).unlock index)

def turn : Turn State Event := fun state event =>
  match event with
  | .credit event =>
      (Interleaving.turn state.credit event).map fun credit => { state with credit }
  | .start origin requestedBy startedAt =>
      let call : AuditRun :=
        { origin, requestedBy, startedAt, beganAt := state.credit.clock, stage := .begun
          broke := false }
      some { state with calls := state.calls ++ [call] }
  | .run index => state.calls[index]?.bind (proceed state index)
  | .breaks index => state.calls[index]?.bind (breaks state index)
  | .attempt index stored =>
      state.calls[index]?.bind fun call =>
        match call.stage with
        | .failed =>
            let threw := state.put index call .threw
            -- The key is taken where the commit went through and its answer was lost.
            if stored = true ∧ (state.runs.all fun row => decide (row.runId ≠ index)) = true then
              some { threw with runs := state.runs ++ [attempt state index call] }
            else some threw
        | _ => none

/-! ## What every run keeps -/

/-- The tables as they were committed at some moment of the run. -/
def Seen (clock : Micros) (state : State) (tables : Tables) : Prop :=
  ∃ middle, Run turn (begun clock) middle ∧ Run turn middle state ∧ tables = middle.credit.tables

theorem Seen.later {clock : Micros} {state after : State} {tables : Tables}
    (seen : Seen clock state tables) (more : Run turn state after) : Seen clock after tables := by
  obtain ⟨middle, first, second, same⟩ := seen
  exact ⟨middle, first, run_append second more, same⟩

/-- The row of a run that went through: what the checks found at one moment. -/
structure Truthful (clock : Micros) (state : State) (row : AuditRow) : Prop where
  results : ∃ tables, Seen clock state tables ∧ row.results = findings tables
  count : row.mismatchCount = some (countFindings row.results)
  status : row.status = if countFindings row.results ≠ 0 then .mismatch else .pass

theorem Truthful.later {clock : Micros} {state after : State} {row : AuditRow}
    (truthful : Truthful clock state row) (more : Run turn state after) :
    Truthful clock after row := by
  obtain ⟨tables, seen, results⟩ := truthful.results
  exact ⟨⟨tables, seen.later more, results⟩, truthful.count, truthful.status⟩

def Stage.holds : Stage → Bool
  | .locked _ | .checking _ _ _ | .inserted _ => true
  | _ => false

/-- No row of the run can have been stored. -/
def Stage.silent : Stage → Bool
  | .begun | .locking _ | .locked _ | .checking _ _ _ | .inserted _ => true
  | .ending row | .returned row => row.isNone
  | .failed | .threw => false

/-- What a run has read, and what it makes of it. -/
def Reads (clock : Micros) (state : State) (index : Nat) (call : AuditRun) : Prop :=
  match call.stage with
  | .locking snapshot | .locked snapshot => Seen clock state snapshot.tables
  | .checking snapshot day results => Seen clock state snapshot.tables ∧ day = call.day ∧
      results = (auditChecks.take results.length).map (findingOf snapshot.tables)
  | .inserted row => row.runId = index ∧ Truthful clock state row
  | _ => True

theorem Reads.later {clock : Micros} {state after : State} {index : Nat} {call : AuditRun}
    (reads : Reads clock state index call) (more : Run turn state after) :
    Reads clock after index call := by
  unfold Reads at reads ⊢
  split at reads
  · exact reads.later more
  · exact reads.later more
  · exact ⟨reads.1.later more, reads.2⟩
  · exact ⟨reads.1, reads.2.later more⟩
  · trivial

/-- A stored row is an ERROR attempt or what a run that went through found. -/
structure Stored (clock : Micros) (state : State) (row : AuditRow) : Prop where
  known : row.runId < state.calls.length
  truthful : row.status ≠ .error → Truthful clock state row
  attempt : row.status = .error → row.mismatchCount = none ∧ row.scheduledDay = none

structure Audited (clock : Micros) (state : State) : Prop where
  reached : Run turn (begun clock) state
  consistent : Consistent state.credit
  holds : ∀ index call, state.calls[index]? = some call → call.stage.holds = true →
    state.lock = some index
  reads : ∀ index call, state.calls[index]? = some call → Reads clock state index call
  silent : ∀ index call, state.calls[index]? = some call → call.stage.silent = true →
    ∀ row ∈ state.runs, row.runId ≠ index
  stored : ∀ row ∈ state.runs, Stored clock state row
  days : (state.runs.filterMap AuditRow.scheduledDay).Nodup
  pending : ∀ (index : Nat) (call : AuditRun) (row : AuditRow), state.calls[index]? = some call →
    call.stage = .inserted row → ∀ day, row.scheduledDay = some day → hasDay state.runs day = false

theorem begun_kept (clock : Micros) : Audited clock (begun clock) where
  reached := .refl
  consistent := initial_consistent clock
  holds index call found := by cases found
  reads index call found := by cases found
  silent index call found := by cases found
  stored row there := by cases there
  days := List.nodup_nil
  pending index call row found := by cases found

section Steps

variable {clock : Micros} {state after : State} {index : Nat} {call moved : AuditRun}

theorem has_day {rows : List AuditRow} {day : Day} :
    hasDay rows day = true ↔ ∃ row ∈ rows, row.scheduledDay = some day := by
  simp only [hasDay, List.any_eq_true, decide_eq_true_eq]

theorem has_day_append (rows added : List AuditRow) (day : Day) :
    hasDay (rows ++ added) day = (hasDay rows day || hasDay added day) :=
  List.any_append

/-- A run goes on, and may add a row of its own. -/
theorem step_kept (added : List AuditRow) (kept : Audited clock state)
    (found : state.calls[index]? = some call) (step : Run turn state after)
    (credit : after.credit = state.credit) (calls : after.calls = state.calls.set index moved)
    (runs : after.runs = state.runs ++ added)
    (lock : moved.stage.holds = true → after.lock = some index)
    (others : ∀ other, other ≠ index → state.lock = some other → after.lock = some other)
    (reads : Reads clock after index moved)
    (silent : moved.stage.silent = true → call.stage.silent = true ∧ added = [])
    (stored : ∀ row ∈ added, row.runId = index ∧ Stored clock after row)
    (days : (added.filterMap AuditRow.scheduledDay).Nodup)
    (fresh : ∀ day, hasDay added day = true → hasDay state.runs day = false)
    (pending : ∀ row, moved.stage = .inserted row → ∀ day, row.scheduledDay = some day →
      hasDay after.runs day = false)
    (apart : ∀ other held row, other ≠ index → state.calls[other]? = some held →
      held.stage = .inserted row → ∀ day, row.scheduledDay = some day →
        hasDay added day = false) : Audited clock after := by
  have there : ∀ other holder, after.calls[other]? = some holder →
      other = index ∧ holder = moved ∨ other ≠ index ∧ state.calls[other]? = some holder := by
    intro other holder there
    rw [calls] at there
    rcases (Library.LockTable.get_set found).mp there with ⟨rfl, rfl⟩ | ⟨differs, there⟩
    · exact .inl ⟨rfl, rfl⟩
    · exact .inr ⟨differs.symm, there⟩
  have length : after.calls.length = state.calls.length := by rw [calls, List.length_set]
  refine ⟨run_append kept.reached step, credit ▸ kept.consistent, ?_, ?_, ?_, ?_, ?_, ?_⟩
  · intro other holder listed holds
    rcases there other holder listed with ⟨rfl, rfl⟩ | ⟨differs, listed⟩
    · exact lock holds
    · exact others other differs (kept.holds other holder listed holds)
  · intro other holder listed
    rcases there other holder listed with ⟨rfl, rfl⟩ | ⟨_, listed⟩
    · exact reads
    · exact (kept.reads other holder listed).later step
  · intro other holder listed quiet row stores
    rw [runs] at stores
    rcases there other holder listed with ⟨rfl, rfl⟩ | ⟨differs, listed⟩
    · obtain ⟨was, none_⟩ := silent quiet
      rw [none_, List.append_nil] at stores
      exact kept.silent other call found was row stores
    · rcases List.mem_append.mp stores with old | new
      · exact kept.silent other holder listed quiet row old
      · rw [(stored row new).1]
        exact differs.symm
  · intro row stores
    rw [runs] at stores
    rcases List.mem_append.mp stores with old | new
    · have was := kept.stored row old
      exact ⟨length ▸ was.known, fun went => (was.truthful went).later step, was.attempt⟩
    · exact (stored row new).2
  · rw [runs, List.filterMap_append, List.nodup_append']
    refine ⟨kept.days, days, ?_⟩
    intro day old new
    obtain ⟨row, stores, named⟩ := List.mem_filterMap.mp old
    obtain ⟨row', stores', named'⟩ := List.mem_filterMap.mp new
    have before := fresh day (has_day.mpr ⟨row', stores', named'⟩)
    rw [has_day.mpr ⟨row, stores, named⟩] at before
    cases before
  · intro other holder row listed inserted day named
    rcases there other holder listed with ⟨rfl, rfl⟩ | ⟨differs, listed⟩
    · exact pending row inserted day named
    · rw [runs, has_day_append, kept.pending other holder row listed inserted day named,
        apart other holder row differs listed inserted day named, Bool.or_self]

/-- A run goes on and adds nothing. -/
theorem quiet_kept (kept : Audited clock state)
    (found : state.calls[index]? = some call) (step : Run turn state after)
    (credit : after.credit = state.credit) (calls : after.calls = state.calls.set index moved)
    (runs : after.runs = state.runs) (lock : moved.stage.holds = true → after.lock = some index)
    (others : ∀ other, other ≠ index → state.lock = some other → after.lock = some other)
    (reads : Reads clock after index moved)
    (silent : moved.stage.silent = true → call.stage.silent = true)
    (pending : ∀ row, moved.stage = .inserted row → ∀ day, row.scheduledDay = some day →
      hasDay state.runs day = false) : Audited clock after := by
  refine step_kept [] kept found step credit calls (by rw [runs, List.append_nil]) lock others
    reads (fun quiet => ⟨silent quiet, rfl⟩) (fun row there => absurd there List.not_mem_nil)
    List.nodup_nil (fun day there => Bool.noConfusion there) ?_ (fun _ _ _ _ _ _ _ _ => rfl)
  rw [runs]
  exact pending

theorem unlock_other {other : Nat} (differs : other ≠ index) (locked : state.lock = some other) :
    (state.unlock index).lock = some other := by
  rw [State.unlock, locked, if_neg]
  intro same
  exact differs (Option.some.inj same)

/-- The insert, where no row of the day is there. -/
theorem insert_kept {snapshot : Snapshot} {day : Option Day} {results : List Finding}
    (kept : Audited clock state) (found : state.calls[index]? = some call)
    (stage : call.stage = .checking snapshot day results)
    (done : auditChecks[results.length]? = none) (step : Run turn state after)
    (inserted : insert state index call snapshot day results = some after) :
    Audited clock after := by
  have locked : state.lock = some index := kept.holds index call found (by rw [stage]; rfl)
  have quiet : call.stage.silent = true := by rw [stage]; rfl
  have reads := kept.reads index call found
  rw [Reads, stage] at reads
  obtain ⟨seen, -, made⟩ := reads
  -- Every check was made, so the results are the findings.
  rw [List.take_of_length_le (List.getElem?_eq_none_iff.mp done)] at made
  have truthful : ∀ next : State, Run turn state next →
      Truthful clock next (completed state index call day results) := by
    intro next more
    exact ⟨⟨snapshot.tables, seen.later more, made⟩, rfl, rfl⟩
  unfold insert at inserted
  split at inserted
  · cases inserted
    refine quiet_kept kept found step rfl rfl rfl (fun _ => locked) (fun _ _ held => held)
      ⟨rfl, truthful _ step⟩ (fun _ => quiet) ?_
    intro row same day named
    cases same
    cases named
  · split at inserted
    · split at inserted
      · cases inserted
        exact quiet_kept kept found step rfl rfl rfl (fun holds => Bool.noConfusion holds)
          (fun _ _ held => held) trivial (fun _ => quiet) (fun row same => Stage.noConfusion same)
      · cases inserted
        exact quiet_kept kept found step rfl rfl rfl (fun holds => Bool.noConfusion holds)
          (fun _ differs held => unlock_other differs held) trivial
          (fun silent => Bool.noConfusion silent) (fun row same => Stage.noConfusion same)
    · rename_i fresh
      split at inserted
      · cases inserted
      · cases inserted
        refine quiet_kept kept found step rfl rfl rfl (fun _ => locked) (fun _ _ held => held)
          ⟨rfl, truthful _ step⟩ (fun _ => quiet) ?_
        intro row same day named
        cases same
        cases named
        exact Bool.eq_false_iff.mpr fresh

theorem one_day (row : AuditRow) : ([row].filterMap AuditRow.scheduledDay).Nodup := by
  cases day : row.scheduledDay with
  | none =>
      rw [List.filterMap_cons_none day]
      exact List.nodup_nil
  | some day' =>
      rw [List.filterMap_cons_some day]
      exact List.nodup_singleton day'

/-- The row of a run is committed. -/
theorem committed_kept {row : AuditRow} (kept : Audited clock state)
    (found : state.calls[index]? = some call) (stage : call.stage = .inserted row)
    (is : after = { state.put index call (.ending (some row)) with runs := state.runs ++ [row] })
    (step : Run turn state after) : Audited clock after := by
  subst is
  have locked : state.lock = some index := kept.holds index call found (by rw [stage]; rfl)
  have reads := kept.reads index call found
  rw [Reads, stage] at reads
  obtain ⟨own, truthful⟩ := reads
  have within : row.runId <
      (state.calls.set index { call with stage := .ending (some row) }).length := by
    rw [List.length_set, own]
    exact (List.getElem?_eq_some_iff.mp found).1
  refine step_kept [row] kept found step rfl rfl rfl (fun holds => Bool.noConfusion holds)
    (fun _ _ held => held) trivial (fun silent => Bool.noConfusion silent) ?_ (one_day row) ?_
    (fun row same => Stage.noConfusion same) ?_
  · intro stored there
    cases List.mem_singleton.mp there
    refine ⟨own, within, fun _ => truthful.later step, ?_⟩
    intro error
    have status := truthful.status
    rw [error] at status
    split at status
    · cases status
    · cases status
  · intro day there
    obtain ⟨stored, there, named⟩ := has_day.mp there
    cases List.mem_singleton.mp there
    exact kept.pending index call row found stage day named
  · intro other holder inserted differs listed holding day named
    -- Only one run holds the lock.
    have held := kept.holds other holder listed (by rw [holding]; rfl)
    exact absurd (Option.some.inj (held.symm.trans locked)) differs

theorem proceed_kept (kept : Audited clock state) (found : state.calls[index]? = some call)
    (step : Run turn state after) (moves : proceed state index call = some after) :
    Audited clock after := by
  have reads := kept.reads index call found
  unfold proceed at moves
  split at moves
  · rename_i stage
    cases moves
    have quiet : call.stage.silent = true := by rw [stage]; rfl
    exact quiet_kept kept found step rfl rfl rfl (fun holds => Bool.noConfusion holds)
      (fun _ _ held => held) ⟨state, kept.reached, step, rfl⟩ (fun _ => quiet)
      (fun row same => Stage.noConfusion same)
  · rename_i snapshot stage
    have quiet : call.stage.silent = true := by rw [stage]; rfl
    rw [Reads, stage] at reads
    split at moves
    · cases moves
      exact quiet_kept kept found step rfl rfl rfl (fun holds => Bool.noConfusion holds)
        (fun _ _ held => held) trivial (fun _ => quiet) (fun row same => Stage.noConfusion same)
    · rename_i free
      cases moves
      refine quiet_kept kept found step rfl rfl rfl (fun _ => rfl) ?_ (reads.later step)
        (fun _ => quiet) (fun row same => Stage.noConfusion same)
      intro other _ held
      rw [free] at held
      cases held
  · rename_i snapshot stage
    have quiet : call.stage.silent = true := by rw [stage]; rfl
    have locked : state.lock = some index := kept.holds index call found (by rw [stage]; rfl)
    rw [Reads, stage] at reads
    split at moves
    · rename_i unscheduled
      cases moves
      exact quiet_kept kept found step rfl rfl rfl (fun _ => locked) (fun _ _ held => held)
        ⟨reads.later step, unscheduled.symm, rfl⟩ (fun _ => quiet)
        (fun row same => Stage.noConfusion same)
    · rename_i day scheduled
      split at moves
      · cases moves
        exact quiet_kept kept found step rfl rfl rfl (fun holds => Bool.noConfusion holds)
          (fun _ _ held => held) trivial (fun _ => quiet) (fun row same => Stage.noConfusion same)
      · cases moves
        exact quiet_kept kept found step rfl rfl rfl (fun _ => locked) (fun _ _ held => held)
          ⟨reads.later step, scheduled.symm, rfl⟩ (fun _ => quiet)
          (fun row same => Stage.noConfusion same)
  · rename_i snapshot day results stage
    have quiet : call.stage.silent = true := by rw [stage]; rfl
    have locked : state.lock = some index := kept.holds index call found (by rw [stage]; rfl)
    split at moves
    · rename_i check next
      cases moves
      rw [Reads, stage] at reads
      obtain ⟨seen, own, made⟩ := reads
      refine quiet_kept kept found step rfl rfl rfl (fun _ => locked) (fun _ _ held => held)
        ⟨seen.later step, own, ?_⟩ (fun _ => quiet) (fun row same => Stage.noConfusion same)
      rw [List.length_append, List.length_singleton, List.take_add_one, next, List.map_append,
        ← made]
      rfl
    · rename_i done
      exact insert_kept kept found stage done step moves
  · rename_i row stage
    exact committed_kept kept found stage (Option.some.inj moves).symm step
  · rename_i row stage
    cases moves
    refine quiet_kept kept found step rfl rfl rfl (fun holds => Bool.noConfusion holds)
      (fun _ differs held => unlock_other differs held) trivial ?_
      (fun row same => Stage.noConfusion same)
    rw [stage]
    exact id
  · cases moves
  · cases moves
  · cases moves

theorem breaks_kept (kept : Audited clock state) (found : state.calls[index]? = some call)
    (step : Run turn state after) (broke : breaks state index call = some after) :
    Audited clock after := by
  unfold breaks at broke
  split at broke
  · cases broke
  · cases broke
  · cases broke
  · cases broke
    exact quiet_kept kept found step rfl rfl rfl (fun holds => Bool.noConfusion holds)
      (fun _ differs held => unlock_other differs held) trivial
      (fun silent => Bool.noConfusion silent) (fun row same => Stage.noConfusion same)

theorem attempt_kept {stored : Bool} (kept : Audited clock state)
    (step : Run turn state after) (attempts : turn state (.attempt index stored) = some after) :
    Audited clock after := by
  obtain ⟨call, found, attempts⟩ := Option.bind_eq_some_iff.mp attempts
  simp only at attempts
  split at attempts
  · rename_i stage
    split at attempts
    · cases attempts
      have within : index < (state.calls.set index { call with stage := .threw }).length := by
        rw [List.length_set]
        exact (List.getElem?_eq_some_iff.mp found).1
      refine step_kept [attempt state index call] kept found step rfl rfl rfl
        (fun holds => Bool.noConfusion holds) (fun _ _ held => held) trivial
        (fun silent => Bool.noConfusion silent) ?_ (one_day _) (fun day there => ?_)
        (fun row same => Stage.noConfusion same) (fun _ _ _ _ _ _ _ _ => rfl)
      · intro row there
        cases List.mem_singleton.mp there
        exact ⟨rfl, within, fun went => absurd rfl went, fun _ => ⟨rfl, rfl⟩⟩
      · cases there
    · cases attempts
      exact quiet_kept kept found step rfl rfl rfl (fun holds => Bool.noConfusion holds)
        (fun _ _ held => held) trivial (fun silent => Bool.noConfusion silent)
        (fun row same => Stage.noConfusion same)
  · cases attempts

theorem start_kept (call : AuditRun) (stage : call.stage = .begun) (kept : Audited clock state)
    (step : Run turn state { state with calls := state.calls ++ [call] }) :
    Audited clock { state with calls := state.calls ++ [call] } := by
  have there : ∀ {other holder}, (state.calls ++ [call])[other]? = some holder →
      state.calls[other]? = some holder ∨ other = state.calls.length ∧ holder = call :=
    fun listed => Library.LockTable.get_append listed
  refine ⟨run_append kept.reached step, kept.consistent, ?_, ?_, ?_, ?_, kept.days, ?_⟩
  · intro other holder listed holds
    rcases there listed with old | ⟨-, rfl⟩
    · exact kept.holds other holder old holds
    · rw [stage] at holds
      cases holds
  · intro other holder listed
    rcases there listed with old | ⟨-, rfl⟩
    · exact (kept.reads other holder old).later step
    · rw [Reads, stage]
      trivial
  · intro other holder listed silent row stores
    rcases there listed with old | ⟨rfl, -⟩
    · exact kept.silent other holder old silent row stores
    · exact Nat.ne_of_lt (kept.stored row stores).known
  · intro row stores
    have was := kept.stored row stores
    refine ⟨?_, fun went => (was.truthful went).later step, was.attempt⟩
    rw [List.length_append]
    exact Nat.lt_of_lt_of_le was.known (Nat.le_add_right _ _)
  · intro other holder row listed inserted
    rcases there listed with old | ⟨-, rfl⟩
    · exact kept.pending other holder row old inserted
    · rw [stage] at inserted
      cases inserted

theorem credit_kept {credit : Interleaving.State} (kept : Audited clock state)
    (consistent : Consistent credit) (step : Run turn state { state with credit }) :
    Audited clock { state with credit } := by
  refine ⟨run_append kept.reached step, consistent, kept.holds, ?_, kept.silent, ?_, kept.days,
    kept.pending⟩
  · intro other holder listed
    exact (kept.reads other holder listed).later step
  · intro row stores
    have was := kept.stored row stores
    exact ⟨was.known, fun went => (was.truthful went).later step, was.attempt⟩

theorem turn_kept {event : Event} (kept : Audited clock state)
    (turned : turn state event = some after) : Audited clock after := by
  have step : Run turn state after := .next event .refl turned
  cases event with
  | credit event =>
      obtain ⟨credit, moved, is⟩ := Option.map_eq_some_iff.mp turned
      subst is
      exact credit_kept kept (turn_consistent kept.consistent moved) step
  | start origin requestedBy startedAt =>
      cases turned
      exact start_kept _ rfl kept step
  | run index =>
      obtain ⟨call, found, moves⟩ := Option.bind_eq_some_iff.mp turned
      exact proceed_kept kept found step moves
  | breaks index =>
      obtain ⟨call, found, broke⟩ := Option.bind_eq_some_iff.mp turned
      exact breaks_kept kept found step broke
  | attempt index stored => exact attempt_kept kept step turned

end Steps

/-! ## Runs that lock on what shows every run of their day -/

/-- The snapshot shows a run of the day, if one is stored. -/
def shows (state : State) (call : AuditRun) (snapshot : Snapshot) : Bool :=
  call.day.all fun day => !hasDay state.runs day || hasDay snapshot.runs day

/-- Where a run relies on the days stored, or owes an ERROR attempt. -/
def Stage.claims : Stage → Bool
  | .locked _ | .checking _ (some _) _ | .failed | .threw => true
  | _ => false

/-- A run does not get the lock on a snapshot that is behind on its day. -/
def careful (state : State) : Event → Bool
  | .run index =>
      match state.calls[index]? with
      | some call =>
          match call.stage with
          | .locking snapshot => state.lock.isSome || shows state call snapshot
          | _ => true
      | none => true
  | _ => true

def carefulTurn : Turn State Event := fun state event =>
  if careful state event = true then turn state event else none

structure Current (state : State) : Prop where
  shown : ∀ (index : Nat) (call : AuditRun) (snapshot : Snapshot),
    state.calls[index]? = some call → call.stage = .locked snapshot →
    ∀ day, call.day = some day → hasDay state.runs day = true → hasDay snapshot.runs day = true
  free : ∀ (index : Nat) (call : AuditRun) (snapshot : Snapshot) (day : Day)
    (results : List Finding), state.calls[index]? = some call →
    call.stage = .checking snapshot (some day) results → hasDay state.runs day = false
  failed : ∀ (index : Nat) (call : AuditRun), state.calls[index]? = some call →
    call.stage = .failed ∨ call.stage = .threw → call.broke = true
  errors : ∀ row ∈ state.runs, row.status = .error →
    ∃ call, state.calls[row.runId]? = some call ∧ call.broke = true

theorem begun_current (clock : Micros) : Current (begun clock) where
  shown index call snapshot found := by cases found
  free index call snapshot day results found := by cases found
  failed index call found := by cases found
  errors row there := by cases there

section Careful

variable {clock : Micros} {state after : State} {index : Nat} {call moved : AuditRun}

/-- A run goes on, and may add a row of its own. -/
theorem step_current (added : List AuditRow) (current : Current state)
    (found : state.calls[index]? = some call) (calls : after.calls = state.calls.set index moved)
    (runs : after.runs = state.runs ++ added)
    (quiet : ∀ (other : Nat) (holder : AuditRun), other ≠ index →
      state.calls[other]? = some holder → holder.stage.holds = true → ∀ day,
        hasDay added day = false)
    (shown : ∀ snapshot, moved.stage = .locked snapshot → ∀ day, moved.day = some day →
      hasDay after.runs day = true → hasDay snapshot.runs day = true)
    (free : ∀ snapshot day results, moved.stage = .checking snapshot (some day) results →
      hasDay after.runs day = false)
    (failed : moved.stage = .failed ∨ moved.stage = .threw → moved.broke = true)
    (broke : call.broke = true → moved.broke = true)
    (errors : ∀ row ∈ added, row.status = .error → row.runId = index ∧ moved.broke = true) :
    Current after := by
  have there : ∀ other holder, after.calls[other]? = some holder →
      other = index ∧ holder = moved ∨ other ≠ index ∧ state.calls[other]? = some holder := by
    intro other holder there
    rw [calls] at there
    rcases (Library.LockTable.get_set found).mp there with ⟨rfl, rfl⟩ | ⟨differs, there⟩
    · exact .inl ⟨rfl, rfl⟩
    · exact .inr ⟨differs.symm, there⟩
  have own : after.calls[index]? = some moved := by
    rw [calls]
    exact (Library.LockTable.get_set found).mpr (.inl ⟨rfl, rfl⟩)
  refine ⟨?_, ?_, ?_, ?_⟩
  · intro other holder snapshot listed stage day named stored
    rcases there other holder listed with ⟨rfl, rfl⟩ | ⟨differs, listed⟩
    · exact shown snapshot stage day named stored
    · rw [runs, has_day_append, quiet other holder differs listed (by rw [stage]; rfl),
        Bool.or_false] at stored
      exact current.shown other holder snapshot listed stage day named stored
  · intro other holder snapshot day results listed stage
    rcases there other holder listed with ⟨rfl, rfl⟩ | ⟨differs, listed⟩
    · exact free snapshot day results stage
    · rw [runs, has_day_append, quiet other holder differs listed (by rw [stage]; rfl),
        Bool.or_false]
      exact current.free other holder snapshot day results listed stage
  · intro other holder listed ended
    rcases there other holder listed with ⟨rfl, rfl⟩ | ⟨_, listed⟩
    · exact failed ended
    · exact current.failed other holder listed ended
  · intro row stored error
    rw [runs] at stored
    rcases List.mem_append.mp stored with old | new
    · obtain ⟨holder, listed, because⟩ := current.errors row old error
      by_cases same : row.runId = index
      · rw [same] at listed ⊢
        cases listed.symm.trans found
        exact ⟨moved, own, broke because⟩
      · refine ⟨holder, ?_, because⟩
        rw [calls, List.getElem?_set_ne (Ne.symm same)]
        exact listed
    · obtain ⟨same, because⟩ := errors row new error
      rw [same]
      exact ⟨moved, own, because⟩

/-- A run goes on to a stage that claims nothing, and adds nothing. -/
theorem plain_current (current : Current state) (found : state.calls[index]? = some call)
    (calls : after.calls = state.calls.set index moved) (runs : after.runs = state.runs)
    (plain : moved.stage.claims = false) (broke : call.broke = true → moved.broke = true) :
    Current after := by
  refine step_current [] current found calls (by rw [runs, List.append_nil])
    (fun _ _ _ _ _ _ => rfl) ?_ ?_ ?_ broke (fun _ there => absurd there List.not_mem_nil)
  · intro snapshot stage
    rw [stage] at plain
    cases plain
  · intro snapshot day results stage
    rw [stage] at plain
    cases plain
  · rintro (stage | stage)
    · rw [stage] at plain
      cases plain
    · rw [stage] at plain
      cases plain

/-- A run ends that the database failed. -/
theorem ended_current (added : List AuditRow) (current : Current state)
    (found : state.calls[index]? = some call) (calls : after.calls = state.calls.set index moved)
    (runs : after.runs = state.runs ++ added) (ended : moved.stage = .failed ∨ moved.stage = .threw)
    (broke : moved.broke = true) (undated : ∀ day, hasDay added day = false)
    (own : ∀ row ∈ added, row.runId = index) : Current after := by
  refine step_current added current found calls runs (fun _ _ _ _ _ day => undated day) ?_ ?_
    (fun _ => broke) (fun _ => broke) (fun row there _ => ⟨own row there, broke⟩)
  · intro snapshot stage
    rw [stage] at ended
    rcases ended with same | same
    · cases same
    · cases same
  · intro snapshot day results stage
    rw [stage] at ended
    rcases ended with same | same
    · cases same
    · cases same

theorem insert_current {snapshot : Snapshot} {day : Option Day} {results : List Finding}
    (current : Current state) (found : state.calls[index]? = some call)
    (stage : call.stage = .checking snapshot day results)
    (inserted : insert state index call snapshot day results = some after) : Current after := by
  unfold insert at inserted
  split at inserted
  · cases inserted
    exact plain_current current found rfl rfl rfl id
  · rename_i day
    -- No row of the day was stored since the lock was taken.
    have free := current.free index call snapshot day results found stage
    rw [free] at inserted
    simp only [Bool.false_eq_true, if_false] at inserted
    split at inserted
    · cases inserted
    · cases inserted
      exact plain_current current found rfl rfl rfl id

theorem committed_current {row : AuditRow} (kept : Audited clock state) (current : Current state)
    (found : state.calls[index]? = some call) (stage : call.stage = .inserted row)
    (is : after = { state.put index call (.ending (some row)) with runs := state.runs ++ [row] }) :
    Current after := by
  subst is
  have locked : state.lock = some index := kept.holds index call found (by rw [stage]; rfl)
  have reads := kept.reads index call found
  rw [Reads, stage] at reads
  obtain ⟨own, truthful⟩ := reads
  refine step_current [row] current found rfl rfl ?_ (fun _ same => Stage.noConfusion same)
    (fun _ _ _ same => Stage.noConfusion same)
    (fun ended => ended.elim (fun same => Stage.noConfusion same)
      fun same => Stage.noConfusion same) id ?_
  · intro other holder differs listed holds
    have held := kept.holds other holder listed holds
    exact absurd (Option.some.inj (held.symm.trans locked)) differs
  · intro stored there error
    cases List.mem_singleton.mp there
    have status := truthful.status
    rw [error] at status
    split at status
    · cases status
    · cases status

theorem proceed_current (kept : Audited clock state) (current : Current state)
    (found : state.calls[index]? = some call) (shows_ : careful state (.run index) = true)
    (moves : proceed state index call = some after) : Current after := by
  unfold proceed at moves
  split at moves
  · cases moves
    exact plain_current current found rfl rfl rfl id
  · rename_i snapshot stage
    split at moves
    · cases moves
      exact plain_current current found rfl rfl rfl id
    · rename_i free
      cases moves
      refine step_current [] current found rfl (List.append_nil _).symm (fun _ _ _ _ _ _ => rfl) ?_
        (fun _ _ _ same => Stage.noConfusion same)
        (fun ended => ended.elim (fun same => Stage.noConfusion same)
          fun same => Stage.noConfusion same) id (fun _ there => absurd there List.not_mem_nil)
      intro snapshot same day named stored
      cases same
      rw [careful, found] at shows_
      simp only [stage, free, Option.isSome_none, Bool.false_or, shows] at shows_
      have named : call.day = some day := named
      rw [named, Option.all_some] at shows_
      have stored : hasDay state.runs day = true := stored
      rw [stored, Bool.not_true, Bool.false_or] at shows_
      exact shows_
  · rename_i snapshot stage
    split at moves
    · cases moves
      exact plain_current current found rfl rfl rfl id
    · rename_i day named
      split at moves
      · cases moves
        exact plain_current current found rfl rfl rfl id
      · rename_i unseen
        cases moves
        refine step_current [] current found rfl (List.append_nil _).symm
          (fun _ _ _ _ _ _ => rfl) (fun _ same => Stage.noConfusion same) ?_
          (fun ended => ended.elim (fun same => Stage.noConfusion same)
            fun same => Stage.noConfusion same) id (fun _ there => absurd there List.not_mem_nil)
        intro other day' results same
        cases same
        refine Bool.eq_false_iff.mpr fun stored => unseen ?_
        exact current.shown index call snapshot found stage day named stored
  · rename_i snapshot day results stage
    split at moves
    · rename_i check next
      cases moves
      refine step_current [] current found rfl (List.append_nil _).symm
        (fun _ _ _ _ _ _ => rfl) (fun _ same => Stage.noConfusion same) ?_
        (fun ended => ended.elim (fun same => Stage.noConfusion same)
          fun same => Stage.noConfusion same) id (fun _ there => absurd there List.not_mem_nil)
      intro other day' results' same
      cases same
      exact current.free index call snapshot day' results found stage
    · exact insert_current current found stage moves
  · rename_i row stage
    exact committed_current kept current found stage (Option.some.inj moves).symm
  · cases moves
    exact plain_current current found rfl rfl rfl id
  · cases moves
  · cases moves
  · cases moves

theorem breaks_current (current : Current state) (found : state.calls[index]? = some call)
    (broke : breaks state index call = some after) : Current after := by
  unfold breaks at broke
  split at broke
  · cases broke
  · cases broke
  · cases broke
  · cases broke
    exact ended_current [] current found rfl (List.append_nil _).symm (.inl rfl) rfl
      (fun _ => rfl) (fun _ there => absurd there List.not_mem_nil)

theorem attempt_current {stored : Bool} (current : Current state)
    (attempts : turn state (.attempt index stored) = some after) : Current after := by
  obtain ⟨call, found, attempts⟩ := Option.bind_eq_some_iff.mp attempts
  simp only at attempts
  split at attempts
  · rename_i stage
    have broke := current.failed index call found (.inl stage)
    split at attempts
    · cases attempts
      refine ended_current [attempt state index call] current found rfl rfl (.inr rfl) broke
        (fun _ => rfl) ?_
      intro row there
      cases List.mem_singleton.mp there
      rfl
    · cases attempts
      exact ended_current [] current found rfl (List.append_nil _).symm (.inr rfl) broke
        (fun _ => rfl) (fun _ there => absurd there List.not_mem_nil)
  · cases attempts

theorem start_current (call : AuditRun) (stage : call.stage = .begun) (current : Current state) :
    Current { state with calls := state.calls ++ [call] } := by
  have there : ∀ {other holder}, (state.calls ++ [call])[other]? = some holder →
      state.calls[other]? = some holder ∨ other = state.calls.length ∧ holder = call :=
    fun listed => Library.LockTable.get_append listed
  refine ⟨?_, ?_, ?_, ?_⟩
  · intro other holder snapshot listed locked
    rcases there listed with old | ⟨-, rfl⟩
    · exact current.shown other holder snapshot old locked
    · rw [stage] at locked
      cases locked
  · intro other holder snapshot day results listed checking
    rcases there listed with old | ⟨-, rfl⟩
    · exact current.free other holder snapshot day results old checking
    · rw [stage] at checking
      cases checking
  · intro other holder listed ended
    rcases there listed with old | ⟨-, rfl⟩
    · exact current.failed other holder old ended
    · rw [stage] at ended
      rcases ended with ended | ended
      · cases ended
      · cases ended
  · intro row stored error
    obtain ⟨holder, listed, because⟩ := current.errors row stored error
    refine ⟨holder, ?_, because⟩
    exact (List.getElem?_append_left (List.getElem?_eq_some_iff.mp listed).1).trans listed

theorem turn_current {event : Event} (kept : Audited clock state) (current : Current state)
    (shows_ : careful state event = true) (turned : turn state event = some after) :
    Current after := by
  cases event with
  | credit event =>
      obtain ⟨credit, moved, is⟩ := Option.map_eq_some_iff.mp turned
      subst is
      exact ⟨current.shown, current.free, current.failed, current.errors⟩
  | start origin requestedBy startedAt =>
      cases turned
      exact start_current _ rfl current
  | run index =>
      obtain ⟨call, found, moves⟩ := Option.bind_eq_some_iff.mp turned
      exact proceed_current kept current found shows_ moves
  | breaks index =>
      obtain ⟨call, found, broke⟩ := Option.bind_eq_some_iff.mp turned
      exact breaks_current current found broke
  | attempt index stored => exact attempt_current current turned

end Careful

/-! ## Whole runs -/

section Runs

variable {clock : Micros} {state : State}

theorem run_kept (run : Run turn (begun clock) state) : Audited clock state :=
  run_keeps (fun _ _ _ kept turned => turn_kept kept turned) (begun_kept clock) run

structure Undisturbed (clock : Micros) (state : State) : Prop where
  kept : Audited clock state
  current : Current state

theorem careful_kept (run : Run carefulTurn (begun clock) state) : Undisturbed clock state := by
  refine run_keeps ?_ ⟨begun_kept clock, begun_current clock⟩ run
  intro before event after was turned
  obtain ⟨shows_, turned⟩ := Option.ite_none_right_eq_some.mp turned
  exact ⟨turn_kept was.kept turned, turn_current was.kept was.current shows_ turned⟩

/-- A closed economy has no findings. -/
theorem findings_quiet {credit : Interleaving.State} (consistent : Consistent credit) :
    countFindings (findings credit.tables) = 0 := by
  have quiet := consistent.quiet
  unfold countFindings findings
  rw [List.map_map]
  refine List.sum_eq_zero ?_
  intro length listed
  obtain ⟨check, there, rfl⟩ := List.mem_map.mp listed
  simp only [Function.comp_apply, findingOf, quiet check there, List.length_nil]

/-- A run that went through is a PASS. -/
theorem Truthful.pass {row : AuditRow} (truthful : Truthful clock state row) :
    row.status = .pass := by
  obtain ⟨tables, ⟨middle, reached, -, same⟩, results⟩ := truthful.results
  have none_ : countFindings row.results = 0 := by
    rw [results, same]
    exact findings_quiet (run_kept reached).consistent
  rw [truthful.status, none_]
  rfl

theorem one_of_day (kept : Audited clock state) (day : Day) :
    (state.runs.filter fun row => decide (row.scheduledDay = some day)).length ≤ 1 := by
  have counted : (state.runs.filter fun row => decide (row.scheduledDay = some day)).length =
      (state.runs.filterMap AuditRow.scheduledDay).count day := by
    rw [← List.countP_eq_length_filter, List.count, List.countP_filterMap]
    refine List.countP_congr fun row _ => ?_
    cases row.scheduledDay with
    | none => simp
    | some other => simp
  rw [counted]
  exact List.nodup_iff_count_le_one.mp kept.days day

/-- What every stored row satisfies that its table checks. -/
theorem stored_consistent (run : Run turn (begun clock) state) :
    ∀ row ∈ state.runs, row.consistent = true := by
  intro row there
  have stored := (run_kept run).stored row there
  cases status : row.status with
  | error =>
      obtain ⟨uncounted, -⟩ := stored.attempt status
      rw [AuditRow.consistent, status]
      simp only [uncounted, Option.isNone_none]
  | pass =>
      have truthful := stored.truthful (by rw [status]; exact AuditStatus.noConfusion)
      have none_ : countFindings row.results = 0 := by
        have is := truthful.status
        rw [status] at is
        by_contra some_
        rw [if_pos some_] at is
        cases is
      rw [AuditRow.consistent, status]
      simp only [truthful.count, none_, decide_true]
  | mismatch =>
      have truthful := stored.truthful (by rw [status]; exact AuditStatus.noConfusion)
      rw [truthful.pass] at status
      cases status

/-- A stored audit is of one committed state and finds nothing, a day has one at most, and a run
that finds the lock taken or its day done stores nothing; and no run leaves an ERROR attempt that
the database did not fail, if none gets the lock on a snapshot that is behind on its day. -/
theorem audits_true (clock : Micros) :
    (∀ state, Run turn (begun clock) state →
      (∀ row ∈ state.runs, row.status ≠ .error →
        (∃ tables, Seen clock state tables ∧ row.results = findings tables) ∧
          row.status = .pass) ∧
      (∀ day,
        (state.runs.filter fun row => decide (row.scheduledDay = some day)).length ≤ 1) ∧
      ∀ index call, state.calls[index]? = some call → call.stage = .returned none →
        ∀ row ∈ state.runs, row.runId ≠ index) ∧
      ∀ state, Run carefulTurn (begun clock) state →
        ∀ row ∈ state.runs, row.status = .error →
          ∃ call, state.calls[row.runId]? = some call ∧ call.broke = true := by
  constructor
  · intro state run
    have kept := run_kept run
    refine ⟨?_, one_of_day kept, ?_⟩
    · intro row there went
      have truthful := (kept.stored row there).truthful went
      exact ⟨truthful.results, truthful.pass⟩
    · intro index call found stage
      exact kept.silent index call found (by rw [stage]; rfl)
  · intro state run
    exact (careful_kept run).current.errors

/-- A run goes through all its checks and stores its row. -/
def through (index : Nat) : List Event := List.replicate 10 (.run index)

/-- Two processes audit a day, one after the other. -/
def oneAfterAnother : List Event :=
  [.start .scheduled none 0, .start .scheduled none 0, .run 0, .run 0] ++ through 0 ++
    [.run 1, .run 1, .run 1, .run 1]

/-- The second has its snapshot before the first commits, and the lock after it. -/
def behind : List Event :=
  [.start .scheduled none 0, .start .scheduled none 0, .run 0, .run 0, .run 1] ++ through 0 ++
    List.replicate 9 (.run 1) ++ [.attempt 1 true]

/-- Whether `run` returned null. -/
def Stage.nothing : Stage → Bool
  | .returned row => row.isNone
  | _ => false

theorem returned_nothing {stage : Stage} (nothing : stage.nothing = true) :
    stage = .returned none := by
  cases stage with
  | returned row => exact congrArg Stage.returned (Option.isNone_iff_eq_none.mp nothing)
  | _ => cases nothing

theorem second_stores_nothing : ∃ state, Run turn (begun 0) state ∧
    (∀ row ∈ state.runs, row.status ≠ .error → row.status = .pass) ∧
    ∃ call, state.calls[1]? = some call ∧ call.day.any (hasDay state.runs) = true ∧
      ∀ row ∈ state.runs, row.runId ≠ 1 := by
  have ran : ((turns turn (begun 0) oneAfterAnother).any fun state =>
      state.calls[1]?.any fun call =>
        call.stage.nothing && call.day.any (hasDay state.runs)) = true := by
    decide +kernel
  obtain ⟨state, reached, all⟩ := (Option.any_eq_true _ _).mp ran
  obtain ⟨call, found, all⟩ := (Option.any_eq_true _ _).mp all
  obtain ⟨nothing, day⟩ := Bool.and_eq_true_iff.mp all
  have run := run_turns .refl oneAfterAnother reached
  obtain ⟨passes, -, silent⟩ := (audits_true 0).1 state run
  exact ⟨state, run, fun row there went => (passes row there went).2, call, found, day,
    silent 1 call found (returned_nothing nothing)⟩

/-- A run whose day was done before it had the lock leaves an ERROR attempt, with nothing failed. -/
theorem behind_leaves_error : ∃ state, Run turn (begun 0) state ∧
    ∃ row ∈ state.runs, row.status = .error ∧
      ∃ call, state.calls[row.runId]? = some call ∧ call.broke = false ∧
        call.day.any (hasDay state.runs) = true := by
  have ran : ((turns turn (begun 0) behind).any fun state =>
      state.runs.any fun row => decide (row.status = .error) &&
        state.calls[row.runId]?.any fun call =>
          !call.broke && call.day.any (hasDay state.runs)) = true := by
    decide +kernel
  obtain ⟨state, reached, all⟩ := (Option.any_eq_true _ _).mp ran
  obtain ⟨row, there, all⟩ := List.any_eq_true.mp all
  obtain ⟨error, all⟩ := Bool.and_eq_true_iff.mp all
  obtain ⟨call, found, all⟩ := (Option.any_eq_true _ _).mp all
  obtain ⟨whole, day⟩ := Bool.and_eq_true_iff.mp all
  exact ⟨state, run_turns .refl behind reached, row, there, of_decide_eq_true error, call, found,
    Bool.not_eq_true' _ ▸ whole, day⟩

end Runs

end Foc.Credit.Audit
