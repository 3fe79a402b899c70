import Mathlib.Data.List.AList

/-!
Transactions under READ COMMITTED. A transaction runs a program of statements;
each statement sees a snapshot of the committed rows, overlaid with its own
writes, taken when the statement starts. A statement that writes or locks takes
its rows one at a time: a row another transaction has written or locked is
waited for (or skipped), and the row is read and tested again once it is free.
Writes stay in the transaction until it commits; every row in them is locked.
Nothing here knows what the rows are.
-/
namespace Foc.Library.ReadCommitted

variable {Key : Type} {Row : Key → Type} {Pc Answer Env Stimulus : Type} [DecidableEq Key]

abbrev Store (Row : Key → Type) := AList Row

/-- Rows written or locked by one transaction; `none` is a deleted row. -/
abbrev Writes (Row : Key → Type) := AList fun key : Key => Option (Row key)

/-- A statement that locks the rows it finds, and what it writes to each. -/
structure Scan (Row : Key → Type) (Pc : Type) where
  wanted : Store Row → (key : Key) → Row key → Bool
  write : (key : Key) → Row key → Option (Row key)
  skipLocked : Bool
  limit : Option Nat
  next : Store Row → List (Sigma Row) → Pc

inductive Request (Row : Key → Type) (Pc Answer : Type) where
  | select (next : Store Row → Pc)
  | scan (statement : Scan Row Pc)
  | insert (key : Key) (row : Row key) (next : Bool → Pc)
  | await (next : Answer → Pc)
  | commit
  | stop

structure Machine (Row : Key → Type) (Pc Answer Env Stimulus : Type) where
  request : Pc → Request Row Pc Answer
  starts : Env → Pc → Bool
  answered : Env → Pc → Answer → Option Env
  finished : Env → Pc → Env
  aborted : Env → Pc → Env := fun env _ => env
  stimulus : Env → Stimulus → Option Env

/-- A locking statement under way: its snapshot, the rows still to take and the
rows taken, as they were found. -/
structure Progress (Row : Key → Type) where
  snapshot : Store Row
  remaining : List Key
  hits : List (Sigma Row)

structure Tx (Row : Key → Type) (Pc : Type) where
  pc : Pc
  own : Writes Row
  progress : Option (Progress Row)

structure World (Row : Key → Type) (Pc Env : Type) where
  committed : Store Row
  active : AList fun _ : Nat => Tx Row Pc
  env : Env

inductive Event (Key Pc Answer Stimulus : Type) where
  | begin (id : Nat) (pc : Pc)
  | run (id : Nat) (pick : Option Key)
  | answer (id : Nat) (value : Answer)
  | commit (id : Nat)
  | abort (id : Nat)
  | stimulus (value : Stimulus)

/-! ## Stores -/

def writeRow (row : Sigma fun key => Option (Row key)) (store : Store Row) : Store Row :=
  match row.2 with
  | some value => store.insert row.1 value
  | none => store.erase row.1

def overlay (store : Store Row) (own : Writes Row) : Store Row :=
  own.entries.foldr writeRow store

theorem lookup_write_row (row : Sigma fun key => Option (Row key)) (store : Store Row)
    (key : Key) : (writeRow row store).lookup key =
      match List.dlookup key [row] with
      | some value => value
      | none => store.lookup key := by
  obtain ⟨written, value⟩ := row
  by_cases same : key = written
  · subst same
    cases value <;> simp [writeRow]
  · cases value <;> simp [writeRow, same, AList.lookup_insert_ne, AList.lookup_erase_ne]

/-- A row is what the transaction wrote there, and the committed row elsewhere. -/
theorem lookup_overlay (store : Store Row) (own : Writes Row) (key : Key) :
    (overlay store own).lookup key = (own.lookup key).getD (store.lookup key) := by
  unfold overlay AList.lookup
  generalize own.entries = rows
  induction rows with
  | nil => rfl
  | cons row rest ih =>
      have written := lookup_write_row row (rest.foldr writeRow store) key
      unfold AList.lookup at written
      rw [List.foldr_cons, written]
      obtain ⟨name, value⟩ := row
      by_cases same : key = name
      · subst same
        simp
      · simp [same, ih]

section Tables

variable {α : Type} {table : AList fun _ : Nat => α} {id other : Nat} {value found : α}

theorem lookup_insert_cases (present : (table.insert id value).lookup other = some found) :
    other = id ∧ found = value ∨ other ≠ id ∧ table.lookup other = some found := by
  by_cases same : other = id
  · subst same
    rw [AList.lookup_insert, Option.some.injEq] at present
    exact .inl ⟨rfl, present.symm⟩
  · rw [AList.lookup_insert_ne same] at present
    exact .inr ⟨same, present⟩

theorem lookup_erase_some (present : (table.erase id).lookup other = some found) :
    other ≠ id ∧ table.lookup other = some found := by
  by_cases same : other = id
  · subst same
    simp at present
  · exact ⟨same, by rwa [AList.lookup_erase_ne same] at present⟩

end Tables

/-! ## One statement -/

def ownedByOther (world : World Row Pc Env) (id : Nat) (key : Key) : Bool :=
  world.active.entries.any fun entry =>
    decide (entry.1 ≠ id) && (entry.2.own.lookup key).isSome

def Scan.full (statement : Scan Row Pc) (progress : Progress Row) : Bool :=
  statement.limit.any fun limit => decide (limit ≤ progress.hits.length)

def Scan.candidates (statement : Scan Row Pc) (snapshot : Store Row) : List Key :=
  (snapshot.entries.filter fun entry => statement.wanted snapshot entry.1 entry.2).map Sigma.fst

def Scan.begin (statement : Scan Row Pc) (snapshot : Store Row) : Progress Row :=
  { snapshot, remaining := statement.candidates snapshot, hits := [] }

def Progress.drop (progress : Progress Row) (key : Key) : Progress Row :=
  { progress with remaining := progress.remaining.filter (· ≠ key) }

def Progress.take (progress : Progress Row) (key : Key) (row : Row key) : Progress Row :=
  { progress.drop key with hits := progress.hits ++ [⟨key, row⟩] }

/-- Taking one row of a statement under way. -/
def takeRow (statement : Scan Row Pc) (committed : Store Row) (taken : Key → Bool)
    (tx : Tx Row Pc) (progress : Progress Row) (key : Key) : Option (Tx Row Pc) :=
  if key ∈ progress.remaining ∧ statement.full progress = false then
    if taken key then
      if statement.skipLocked then some { tx with progress := some (progress.drop key) } else none
    else match (overlay committed tx.own).lookup key with
      | none => some { tx with progress := some (progress.drop key) }
      | some row =>
          if statement.wanted progress.snapshot key row then
            some { tx with own := tx.own.insert key (statement.write key row)
                           progress := some (progress.take key row) }
          else some { tx with progress := some (progress.drop key) }
  else none

/-- One step of a transaction that reads nothing from outside the database. -/
def localStep (machine : Machine Row Pc Answer Env Stimulus) (committed : Store Row)
    (taken : Key → Bool) (tx : Tx Row Pc) (pick : Option Key) : Option (Tx Row Pc) :=
  match machine.request tx.pc with
  | .select next => some { tx with pc := next (overlay committed tx.own), progress := none }
  | .scan statement =>
      match tx.progress with
      | none =>
          some { tx with progress := some (statement.begin (overlay committed tx.own)) }
      | some progress =>
          match pick with
          | some key => takeRow statement committed taken tx progress key
          | none =>
              if progress.remaining = [] ∨ statement.full progress = true then
                some { tx with
                  pc := statement.next progress.snapshot progress.hits, progress := none }
              else none
  | .insert key row next =>
      if taken key then none
      else match (overlay committed tx.own).lookup key with
        | some _ => some { tx with pc := next false, progress := none }
        | none => some { pc := next true, own := tx.own.insert key (some row), progress := none }
  | .await _ | .commit | .stop => none

def step (machine : Machine Row Pc Answer Env Stimulus) (world : World Row Pc Env) :
    Event Key Pc Answer Stimulus → Option (World Row Pc Env)
  | .begin id pc =>
      if (world.active.lookup id).isNone ∧ machine.starts world.env pc = true then
        some { world with
          active := world.active.insert id { pc, own := ∅, progress := none } }
      else none
  | .run id pick => do
      let tx ← world.active.lookup id
      let moved ← localStep machine world.committed (ownedByOther world id) tx pick
      some { world with active := world.active.insert id moved }
  | .answer id value => do
      let tx ← world.active.lookup id
      match machine.request tx.pc with
      | .await next => do
          let env ← machine.answered world.env tx.pc value
          some { world with
            env, active := world.active.insert id { tx with pc := next value } }
      | _ => none
  | .commit id => do
      let tx ← world.active.lookup id
      match machine.request tx.pc with
      | .commit =>
          some
            { committed := overlay world.committed tx.own
              active := world.active.erase id
              env := machine.finished world.env tx.pc }
      | _ => none
  | .abort id => do
      let tx ← world.active.lookup id
      some { world with
        active := world.active.erase id, env := machine.aborted world.env tx.pc }
  | .stimulus value => do
      let env ← machine.stimulus world.env value
      some { world with env }

/-! ## What a step can do -/

section Moves

variable (machine : Machine Row Pc Answer Env Stimulus)

/-- The local steps of a transaction, with what each found. -/
inductive LocalMove (committed : Store Row) (taken : Key → Bool) (tx : Tx Row Pc)
    (pick : Option Key) : Tx Row Pc → Prop where
  | select (next : Store Row → Pc) (asked : machine.request tx.pc = .select next) :
      LocalMove committed taken tx pick
        { tx with pc := next (overlay committed tx.own), progress := none }
  | start (statement : Scan Row Pc) (asked : machine.request tx.pc = .scan statement)
      (idle : tx.progress = none) :
      LocalMove committed taken tx pick
        { tx with progress := some (statement.begin (overlay committed tx.own)) }
  | drop (statement : Scan Row Pc) (progress : Progress Row) (key : Key)
      (asked : machine.request tx.pc = .scan statement) (underway : tx.progress = some progress)
      (picked : pick = some key) (member : key ∈ progress.remaining)
      (cause : taken key = true ∧ statement.skipLocked = true ∨
        ∀ row, (overlay committed tx.own).lookup key = some row →
          statement.wanted progress.snapshot key row = false) :
      LocalMove committed taken tx pick { tx with progress := some (progress.drop key) }
  | take (statement : Scan Row Pc) (progress : Progress Row) (key : Key) (row : Row key)
      (asked : machine.request tx.pc = .scan statement) (underway : tx.progress = some progress)
      (picked : pick = some key) (member : key ∈ progress.remaining) (free : taken key = false)
      (found : (overlay committed tx.own).lookup key = some row)
      (wanted : statement.wanted progress.snapshot key row = true) :
      LocalMove committed taken tx pick
        { tx with own := tx.own.insert key (statement.write key row)
                  progress := some (progress.take key row) }
  | finish (statement : Scan Row Pc) (progress : Progress Row)
      (asked : machine.request tx.pc = .scan statement) (underway : tx.progress = some progress)
      (done : progress.remaining = [] ∨ statement.full progress = true) :
      LocalMove committed taken tx pick
        { tx with pc := statement.next progress.snapshot progress.hits, progress := none }
  | insert (key : Key) (row : Row key) (next : Bool → Pc)
      (asked : machine.request tx.pc = .insert key row next) (free : taken key = false)
      (absent : (overlay committed tx.own).lookup key = none) :
      LocalMove committed taken tx pick
        { pc := next true, own := tx.own.insert key (some row), progress := none }
  | conflict (key : Key) (row old : Row key) (next : Bool → Pc)
      (asked : machine.request tx.pc = .insert key row next) (free : taken key = false)
      (present : (overlay committed tx.own).lookup key = some old) :
      LocalMove committed taken tx pick { tx with pc := next false, progress := none }

variable {machine}

theorem take_row_moves {statement : Scan Row Pc} {committed : Store Row} {taken : Key → Bool}
    {tx moved : Tx Row Pc} {progress : Progress Row} {key : Key}
    (asked : machine.request tx.pc = .scan statement) (underway : tx.progress = some progress)
    (took : takeRow statement committed taken tx progress key = some moved) :
    LocalMove machine committed taken tx (some key) moved := by
  unfold takeRow at took
  split at took
  · rename_i pending
    split at took
    · rename_i locked
      split at took
      · rename_i skips
        simp only [Option.some.injEq] at took
        subst took
        exact .drop statement progress key asked underway rfl pending.1 (.inl ⟨locked, skips⟩)
      · simp at took
    · rename_i free
      split at took
      · rename_i absent
        simp only [Option.some.injEq] at took
        subst took
        exact .drop statement progress key asked underway rfl pending.1
          (.inr (by simp [absent]))
      · rename_i row found
        split at took
        · rename_i wanted
          simp only [Option.some.injEq] at took
          subst took
          exact .take statement progress key row asked underway rfl pending.1 (by simpa using free)
            found wanted
        · rename_i unwanted
          simp only [Option.some.injEq] at took
          subst took
          exact .drop statement progress key asked underway rfl pending.1
            (.inr (by simpa [found] using unwanted))
  · simp at took

theorem local_step_moves {committed : Store Row} {taken : Key → Bool} {tx moved : Tx Row Pc}
    {pick : Option Key} (stepped : localStep machine committed taken tx pick = some moved) :
    LocalMove machine committed taken tx pick moved := by
  unfold localStep at stepped
  split at stepped
  · rename_i next asked
    simp only [Option.some.injEq] at stepped
    subst stepped
    exact .select next asked
  · rename_i statement asked
    split at stepped
    · rename_i idle
      simp only [Option.some.injEq] at stepped
      subst stepped
      exact .start statement asked idle
    · rename_i progress underway
      split at stepped
      · exact take_row_moves asked underway stepped
      · split at stepped
        · rename_i done
          simp only [Option.some.injEq] at stepped
          subst stepped
          exact .finish statement progress asked underway done
        · simp at stepped
  · rename_i key row next asked
    split at stepped
    · simp at stepped
    · rename_i free
      split at stepped
      · rename_i old present
        simp only [Option.some.injEq] at stepped
        subst stepped
        exact .conflict key row old next asked (by simpa using free) present
      · rename_i absent
        simp only [Option.some.injEq] at stepped
        subst stepped
        exact .insert key row next asked (by simpa using free) absent
  · simp at stepped
  · simp at stepped
  · simp at stepped

/-- The local steps of a transaction whose next request is a locking statement. -/
inductive ScanMove (statement : Scan Row Pc) (committed : Store Row) (taken : Key → Bool)
    (tx : Tx Row Pc) (pick : Option Key) : Tx Row Pc → Prop where
  | start (idle : tx.progress = none) :
      ScanMove statement committed taken tx pick
        { tx with progress := some (statement.begin (overlay committed tx.own)) }
  | drop (progress : Progress Row) (key : Key) (underway : tx.progress = some progress)
      (picked : pick = some key) (member : key ∈ progress.remaining)
      (cause : taken key = true ∧ statement.skipLocked = true ∨
        ∀ row, (overlay committed tx.own).lookup key = some row →
          statement.wanted progress.snapshot key row = false) :
      ScanMove statement committed taken tx pick { tx with progress := some (progress.drop key) }
  | take (progress : Progress Row) (key : Key) (row : Row key)
      (underway : tx.progress = some progress) (picked : pick = some key)
      (member : key ∈ progress.remaining) (free : taken key = false)
      (found : (overlay committed tx.own).lookup key = some row)
      (wanted : statement.wanted progress.snapshot key row = true) :
      ScanMove statement committed taken tx pick
        { tx with own := tx.own.insert key (statement.write key row)
                  progress := some (progress.take key row) }
  | finish (progress : Progress Row) (underway : tx.progress = some progress)
      (done : progress.remaining = [] ∨ statement.full progress = true) :
      ScanMove statement committed taken tx pick
        { tx with pc := statement.next progress.snapshot progress.hits, progress := none }

theorem scan_moves {committed : Store Row} {taken : Key → Bool} {tx moved : Tx Row Pc}
    {pick : Option Key}
    {statement : Scan Row Pc} (request : machine.request tx.pc = .scan statement)
    (move : LocalMove machine committed taken tx pick moved) :
    ScanMove statement committed taken tx pick moved := by
  cases move with
  | select next asked => exact nomatch request.symm.trans asked
  | start other asked idle =>
      cases request.symm.trans asked
      exact .start idle
  | drop other progress key asked underway picked member cause =>
      cases request.symm.trans asked
      exact .drop progress key underway picked member cause
  | take other progress key row asked underway picked member free found wanted =>
      cases request.symm.trans asked
      exact .take progress key row underway picked member free found wanted
  | finish other progress asked underway done =>
      cases request.symm.trans asked
      exact .finish progress underway done
  | insert key row next asked => exact nomatch request.symm.trans asked
  | conflict key row old next asked => exact nomatch request.symm.trans asked

/-- What holds of the writes before a locking statement and is kept by each row
it takes holds after each of its steps. -/
theorem scan_keeps (fact : Writes Row → Prop) {statement : Scan Row Pc}
    {committed : Store Row} {taken : Key → Bool} {tx moved : Tx Row Pc} {pick : Option Key}
    (move : ScanMove statement committed taken tx pick moved) (before : fact tx.own)
    (takes : ∀ progress key row, tx.progress = some progress →
      (overlay committed tx.own).lookup key = some row →
      statement.wanted progress.snapshot key row = true →
      fact (tx.own.insert key (statement.write key row))) :
    fact moved.own ∧ (moved.pc = tx.pc ∨ moved.progress = none ∧
      ∃ progress, tx.progress = some progress ∧
        moved.pc = statement.next progress.snapshot progress.hits) := by
  cases move with
  | start idle => exact ⟨before, .inl rfl⟩
  | drop progress key underway picked member cause => exact ⟨before, .inl rfl⟩
  | take progress key row underway picked member free found wanted =>
      exact ⟨takes progress key row underway found wanted, .inl rfl⟩
  | finish progress underway done => exact ⟨before, .inr ⟨rfl, progress, underway, rfl⟩⟩

/-- Every place a request may lead to satisfies a condition. -/
def Request.All (holds : Pc → Prop) : Request Row Pc Answer → Prop
  | .select next => ∀ view, holds (next view)
  | .scan statement => ∀ snapshot hits, holds (statement.next snapshot hits)
  | .insert _ _ next => ∀ inserted, holds (next inserted)
  | .await next => ∀ value, holds (next value)
  | .commit => True
  | .stop => True

theorem local_pc (holds : Pc → Prop) {committed : Store Row} {taken : Key → Bool}
    {tx moved : Tx Row Pc} {pick : Option Key} (here : holds tx.pc)
    (next : (machine.request tx.pc).All holds)
    (move : LocalMove machine committed taken tx pick moved) : holds moved.pc := by
  cases move with
  | select following asked =>
      rw [asked] at next
      exact next _
  | finish statement progress asked =>
      rw [asked] at next
      exact next _ _
  | insert key row following asked =>
      rw [asked] at next
      exact next _
  | conflict key row old following asked =>
      rw [asked] at next
      exact next _
  | start => exact here
  | drop => exact here
  | take => exact here

theorem select_moves {committed : Store Row} {taken : Key → Bool} {tx moved : Tx Row Pc}
    {pick : Option Key}
    {next : Store Row → Pc} (request : machine.request tx.pc = .select next)
    (move : LocalMove machine committed taken tx pick moved) :
    moved = { tx with pc := next (overlay committed tx.own), progress := none } := by
  cases move with
  | select other asked =>
      cases request.symm.trans asked
      rfl
  | start other asked => exact nomatch request.symm.trans asked
  | drop other progress key asked => exact nomatch request.symm.trans asked
  | take other progress key row asked => exact nomatch request.symm.trans asked
  | finish other progress asked => exact nomatch request.symm.trans asked
  | insert key row next asked => exact nomatch request.symm.trans asked
  | conflict key row old next asked => exact nomatch request.symm.trans asked

theorem insert_moves {committed : Store Row} {taken : Key → Bool} {tx moved : Tx Row Pc}
    {pick : Option Key}
    {key : Key} {row : Row key} {next : Bool → Pc}
    (request : machine.request tx.pc = .insert key row next)
    (move : LocalMove machine committed taken tx pick moved) :
    taken key = false ∧
      ((overlay committed tx.own).lookup key = none ∧
          moved = { pc := next true, own := tx.own.insert key (some row), progress := none } ∨
        ∃ old, (overlay committed tx.own).lookup key = some old ∧
          moved = { tx with pc := next false, progress := none }) := by
  cases move with
  | select next asked => exact nomatch request.symm.trans asked
  | start other asked => exact nomatch request.symm.trans asked
  | drop other progress key asked => exact nomatch request.symm.trans asked
  | take other progress key row asked => exact nomatch request.symm.trans asked
  | finish other progress asked => exact nomatch request.symm.trans asked
  | insert _ _ _ asked free absent =>
      cases request.symm.trans asked
      exact ⟨free, .inl ⟨absent, rfl⟩⟩
  | conflict _ _ old _ asked free present =>
      cases request.symm.trans asked
      exact ⟨free, .inr ⟨old, present, rfl⟩⟩

/-- A transaction takes no local step where it waits, commits or has failed. -/
theorem no_local_move {committed : Store Row} {taken : Key → Bool} {tx moved : Tx Row Pc}
    {pick : Option Key}
    (request : machine.request tx.pc = .commit ∨ machine.request tx.pc = .stop ∨
      ∃ next, machine.request tx.pc = .await next) :
    ¬ LocalMove machine committed taken tx pick moved := by
  intro move
  rcases request with request | request | ⟨next, request⟩ <;>
    cases move <;> rename_i asked _ <;> simp_all

theorem mem_candidates {statement : Scan Row Pc} {snapshot : Store Row} {key : Key} :
    key ∈ statement.candidates snapshot ↔
      ∃ row, snapshot.lookup key = some row ∧ statement.wanted snapshot key row = true := by
  simp only [Scan.candidates, List.mem_map, List.mem_filter]
  constructor
  · rintro ⟨entry, ⟨member, wanted⟩, rfl⟩
    exact ⟨entry.2, AList.mem_lookup_iff.mpr member, wanted⟩
  · rintro ⟨row, found, wanted⟩
    exact ⟨⟨key, row⟩, ⟨AList.mem_lookup_iff.mp found, wanted⟩, rfl⟩

theorem mem_drop {progress : Progress Row} {key other : Key} :
    other ∈ (progress.drop key).remaining ↔ other ∈ progress.remaining ∧ other ≠ key := by
  simp [Progress.drop]

variable (machine) in
/-- The steps of the whole system, with the tests each passed. -/
inductive Moves (world : World Row Pc Env) :
    Event Key Pc Answer Stimulus → World Row Pc Env → Prop where
  | begin (id : Nat) (pc : Pc) (fresh : world.active.lookup id = none)
      (starts : machine.starts world.env pc = true) :
      Moves world (.begin id pc)
        { world with active := world.active.insert id { pc, own := ∅, progress := none } }
  | run (id : Nat) (pick : Option Key) (tx moved : Tx Row Pc)
      (found : world.active.lookup id = some tx)
      (move : LocalMove machine world.committed (ownedByOther world id) tx pick moved) :
      Moves world (.run id pick) { world with active := world.active.insert id moved }
  | answer (id : Nat) (value : Answer) (tx : Tx Row Pc) (next : Answer → Pc) (env : Env)
      (found : world.active.lookup id = some tx) (asked : machine.request tx.pc = .await next)
      (answered : machine.answered world.env tx.pc value = some env) :
      Moves world (.answer id value)
        { world with env, active := world.active.insert id { tx with pc := next value } }
  | commit (id : Nat) (tx : Tx Row Pc) (found : world.active.lookup id = some tx)
      (asked : machine.request tx.pc = .commit) :
      Moves world (.commit id)
        { committed := overlay world.committed tx.own
          active := world.active.erase id
          env := machine.finished world.env tx.pc }
  | abort (id : Nat) (tx : Tx Row Pc) (found : world.active.lookup id = some tx) :
      Moves world (.abort id)
        { world with active := world.active.erase id, env := machine.aborted world.env tx.pc }
  | stimulus (value : Stimulus) (env : Env)
      (accepted : machine.stimulus world.env value = some env) :
      Moves world (.stimulus value) { world with env }

theorem step_moves {world after : World Row Pc Env} {event : Event Key Pc Answer Stimulus}
    (stepped : step machine world event = some after) : Moves machine world event after := by
  cases event with
  | begin id pc =>
      simp only [step] at stepped
      split at stepped
      · rename_i allowed
        simp only [Option.some.injEq] at stepped
        subst stepped
        exact .begin id pc (by simpa using allowed.1) allowed.2
      · simp at stepped
  | run id pick =>
      simp only [step, Option.bind_eq_bind, Option.bind_eq_some_iff, Option.some.injEq] at stepped
      obtain ⟨tx, found, moved, move, rfl⟩ := stepped
      exact .run id pick tx moved found (local_step_moves move)
  | answer id value =>
      simp only [step, Option.bind_eq_bind, Option.bind_eq_some_iff] at stepped
      obtain ⟨tx, found, stepped⟩ := stepped
      split at stepped
      · rename_i next asked
        simp only [Option.bind_eq_some_iff, Option.some.injEq] at stepped
        obtain ⟨env, answered, rfl⟩ := stepped
        exact .answer id value tx next env found asked answered
      · simp at stepped
  | commit id =>
      simp only [step, Option.bind_eq_bind, Option.bind_eq_some_iff] at stepped
      obtain ⟨tx, found, stepped⟩ := stepped
      split at stepped
      · rename_i asked
        simp only [Option.some.injEq] at stepped
        subst stepped
        exact .commit id tx found asked
      · simp at stepped
  | abort id =>
      simp only [step, Option.bind_eq_bind, Option.bind_eq_some_iff, Option.some.injEq] at stepped
      obtain ⟨tx, found, rfl⟩ := stepped
      exact .abort id tx found
  | stimulus value =>
      simp only [step, Option.bind_eq_bind, Option.bind_eq_some_iff, Option.some.injEq] at stepped
      obtain ⟨env, accepted, rfl⟩ := stepped
      exact .stimulus value env accepted

end Moves

/-! ## Row locks -/

section Locks

variable {machine : Machine Row Pc Answer Env Stimulus} {committed : Store Row}
  {taken : Key → Bool} {tx moved : Tx Row Pc} {world : World Row Pc Env}

theorem owned_by_other_false (id : Nat) (key : Key) :
    ownedByOther world id key = false ↔ ∀ other tx, other ≠ id →
      world.active.lookup other = some tx → tx.own.lookup key = none := by
  simp only [ownedByOther, List.any_eq_false, Bool.and_eq_true, decide_eq_true_eq, not_and]
  constructor
  · intro free other tx different found
    have member : (⟨other, tx⟩ : Sigma fun _ : Nat => Tx Row Pc) ∈ world.active.entries :=
      AList.mem_lookup_iff.mp found
    simpa using free ⟨other, tx⟩ member different
  · rintro free ⟨other, tx⟩ member different
    simp [free other tx different (AList.mem_lookup_iff.mpr member)]

/-- A local step locks only rows no other transaction holds. -/
theorem local_own (move : LocalMove machine committed taken tx pick moved) (key : Key) :
    moved.own.lookup key = tx.own.lookup key ∨ taken key = false := by
  cases move with
  | take statement progress locked row asked underway picked member free =>
      by_cases same : key = locked
      · exact .inr (same ▸ free)
      · exact .inl (AList.lookup_insert_ne same)
  | insert locked row next asked free =>
      by_cases same : key = locked
      · exact .inr (same ▸ free)
      · exact .inl (AList.lookup_insert_ne same)
  | select => exact .inl rfl
  | start => exact .inl rfl
  | drop => exact .inl rfl
  | finish => exact .inl rfl
  | conflict => exact .inl rfl

/-- A transaction lets go of no row. -/
theorem local_own_mono {pick : Option Key} {key : Key}
    (move : LocalMove machine committed taken tx pick moved)
    (held : tx.own.lookup key ≠ none) : moved.own.lookup key ≠ none := by
  have grown : ∀ locked (value : Option (Row locked)),
      (tx.own.insert locked value).lookup key ≠ none := by
    intro locked value
    by_cases same : key = locked
    · subst same
      rw [AList.lookup_insert]
      exact Option.some_ne_none value
    · rwa [AList.lookup_insert_ne same]
  cases move with
  | take => exact grown _ _
  | insert => exact grown _ _
  | select => exact held
  | start => exact held
  | drop => exact held
  | finish => exact held
  | conflict => exact held

/-- No row is held by two transactions. -/
def Exclusive (world : World Row Pc Env) : Prop :=
  ∀ id other tx otherTx, id ≠ other → world.active.lookup id = some tx →
    world.active.lookup other = some otherTx → ∀ key, tx.own.lookup key ≠ none →
      otherTx.own.lookup key = none

/-- Replacing one transaction by one that holds no more, or only free rows. -/
theorem exclusive_insert (exclusive : Exclusive world) (id : Nat) (env : Env)
    (held : ∀ key, moved.own.lookup key ≠ none → ∀ other otherTx, other ≠ id →
      world.active.lookup other = some otherTx → otherTx.own.lookup key = none) :
    Exclusive { world with env, active := world.active.insert id moved } := by
  intro first second firstTx secondTx different foundFirst foundSecond key holds
  by_cases isFirst : first = id
  · subst isFirst
    rw [AList.lookup_insert, Option.some.injEq] at foundFirst
    subst foundFirst
    rw [AList.lookup_insert_ne (Ne.symm different)] at foundSecond
    exact held key holds second secondTx (Ne.symm different) foundSecond
  · rw [AList.lookup_insert_ne isFirst] at foundFirst
    by_cases isSecond : second = id
    · subst isSecond
      rw [AList.lookup_insert, Option.some.injEq] at foundSecond
      subst foundSecond
      by_contra held'
      exact holds (held key held' first firstTx different foundFirst)
    · rw [AList.lookup_insert_ne isSecond] at foundSecond
      exact exclusive first second firstTx secondTx different foundFirst foundSecond key holds

theorem exclusive_erase (exclusive : Exclusive world) (id : Nat) (committed : Store Row)
    (env : Env) : Exclusive { committed, active := world.active.erase id, env } := by
  intro first second firstTx secondTx different foundFirst foundSecond
  exact exclusive first second firstTx secondTx different (lookup_erase_some foundFirst).2
    (lookup_erase_some foundSecond).2

theorem exclusive_moves {after : World Row Pc Env} {event : Event Key Pc Answer Stimulus}
    (exclusive : Exclusive world) (moves : Moves machine world event after) :
    Exclusive after := by
  cases moves with
  | begin id pc fresh =>
      exact exclusive_insert exclusive id world.env fun key holds => by simp at holds
  | run id pick tx moved found move =>
      refine exclusive_insert exclusive id world.env fun key holds other otherTx different
        present => ?_
      rcases local_own move key with same | free
      · rw [same] at holds
        exact exclusive id other tx otherTx (Ne.symm different) found present key holds
      · exact (owned_by_other_false id key).mp free other otherTx different present
  | answer id value tx next env found =>
      exact exclusive_insert exclusive id env fun key holds other otherTx different present =>
        exclusive id other tx otherTx (Ne.symm different) found present key holds
  | commit id tx => exact exclusive_erase exclusive id _ _
  | abort id => exact exclusive_erase exclusive id _ _
  | stimulus value env => exact exclusive

end Locks

/-! ## Runs and assertions -/

section Runs

variable (machine : Machine Row Pc Answer Env Stimulus)
  (allowed : World Row Pc Env → Event Key Pc Answer Stimulus → Prop)

/-- Runs whose every step meets a condition on the state before it. -/
inductive Run (start : World Row Pc Env) : World Row Pc Env → Prop where
  | refl : Run start start
  | next {world after : World Row Pc Env} (event : Event Key Pc Answer Stimulus)
      (run : Run start world) (permitted : allowed world event)
      (stepped : step machine world event = some after) : Run start after

variable {machine allowed} in
theorem run_append {start middle world : World Row Pc Env} (first : Run machine allowed start middle)
    (second : Run machine allowed middle world) : Run machine allowed start world := by
  induction second with
  | refl => exact first
  | next event run permitted stepped ih => exact ih.next event permitted stepped

variable {machine allowed} in
/-- What came to hold came with one of the steps. -/
theorem run_first {start world : World Row Pc Env} (holds : World Row Pc Env → Prop)
    (run : Run machine allowed start world) (initially : ¬ holds start) (eventually : holds world) :
    ∃ before event after, Run machine allowed start before ∧
      step machine before event = some after ∧ Run machine allowed after world ∧
      ¬ holds before ∧ holds after := by
  induction run with
  | refl => exact absurd eventually initially
  | next event run permitted stepped ih =>
      rename_i middle last
      by_cases already : holds middle
      · obtain ⟨before, first, after, start, here, onward, unheld, held⟩ := ih already
        exact ⟨before, first, after, start, here, onward.next event permitted stepped, unheld, held⟩
      · exact ⟨middle, event, last, run, stepped, .refl, already, eventually⟩

theorem run_weaken {start world : World Row Pc Env}
    {strict : World Row Pc Env → Event Key Pc Answer Stimulus → Prop}
    (weaken : ∀ world event, strict world event → allowed world event)
    (run : Run machine strict start world) : Run machine allowed start world := by
  induction run with
  | refl => exact .refl
  | next event run permitted stepped ih => exact ih.next event (weaken _ _ permitted) stepped

/-- An assertion on what is committed, and one on each transaction under way. -/
structure Assertions (Row : Key → Type) (Pc Env : Type) where
  global : Store Row → Env → Prop
  localAt : Store Row → Env → Tx Row Pc → Prop

structure Assertions.Hold (asserted : Assertions Row Pc Env) (world : World Row Pc Env) :
    Prop where
  global : asserted.global world.committed world.env
  localAt : ∀ id tx, world.active.lookup id = some tx →
    asserted.localAt world.committed world.env tx
  exclusive : Exclusive world

/-- What each kind of step has to keep. A local step is checked against its own
transaction only; a commit also against every other one, whose rows it does not
touch. -/
structure Assertions.Kept (asserted : Assertions Row Pc Env) : Prop where
  begins : ∀ world id pc, asserted.Hold world → allowed world (.begin id pc) →
    machine.starts world.env pc = true →
    asserted.localAt world.committed world.env { pc, own := ∅, progress := none }
  runs : ∀ world id pick tx moved, asserted.Hold world → allowed world (.run id pick) →
    world.active.lookup id = some tx →
    LocalMove machine world.committed (ownedByOther world id) tx pick moved →
    asserted.localAt world.committed world.env moved
  answers : ∀ world id value tx next env, asserted.Hold world →
    allowed world (.answer id value) → world.active.lookup id = some tx →
    machine.request tx.pc = .await next → machine.answered world.env tx.pc value = some env →
    asserted.global world.committed env ∧
      asserted.localAt world.committed env { tx with pc := next value } ∧
      ∀ other otherTx, other ≠ id → world.active.lookup other = some otherTx →
        asserted.localAt world.committed env otherTx
  commits : ∀ world id tx, asserted.Hold world → allowed world (.commit id) →
    world.active.lookup id = some tx → machine.request tx.pc = .commit →
    asserted.global (overlay world.committed tx.own) (machine.finished world.env tx.pc) ∧
      ∀ other otherTx, other ≠ id → world.active.lookup other = some otherTx →
        asserted.localAt (overlay world.committed tx.own) (machine.finished world.env tx.pc)
          otherTx
  aborts : ∀ world id tx, asserted.Hold world → allowed world (.abort id) →
    world.active.lookup id = some tx →
    asserted.global world.committed (machine.aborted world.env tx.pc) ∧
      ∀ other otherTx, other ≠ id → world.active.lookup other = some otherTx →
        asserted.localAt world.committed (machine.aborted world.env tx.pc) otherTx
  stimuli : ∀ world value env, asserted.Hold world → allowed world (.stimulus value) →
    machine.stimulus world.env value = some env →
    asserted.global world.committed env ∧
      ∀ id tx, world.active.lookup id = some tx → asserted.localAt world.committed env tx

variable {machine allowed}

theorem assertions_step {asserted : Assertions Row Pc Env}
    (kept : asserted.Kept machine allowed) {world after : World Row Pc Env}
    {event : Event Key Pc Answer Stimulus} (hold : asserted.Hold world)
    (permitted : allowed world event) (stepped : step machine world event = some after) :
    asserted.Hold after := by
  have moves := step_moves stepped
  have exclusive := exclusive_moves hold.exclusive moves
  cases moves with
  | begin id pc fresh starts =>
      refine ⟨hold.global, fun other tx present => ?_, exclusive⟩
      rcases lookup_insert_cases present with ⟨_, rfl⟩ | ⟨_, found⟩
      · exact kept.begins world id pc hold permitted starts
      · exact hold.localAt other tx found
  | run id pick tx moved found move =>
      refine ⟨hold.global, fun other otherTx present => ?_, exclusive⟩
      rcases lookup_insert_cases present with ⟨_, rfl⟩ | ⟨_, found'⟩
      · exact kept.runs world id pick tx otherTx hold permitted found move
      · exact hold.localAt other otherTx found'
  | answer id value tx next env found asked answered =>
      obtain ⟨global, own, others⟩ :=
        kept.answers world id value tx next env hold permitted found asked answered
      refine ⟨global, fun other otherTx present => ?_, exclusive⟩
      rcases lookup_insert_cases present with ⟨_, rfl⟩ | ⟨different, found'⟩
      · exact own
      · exact others other otherTx different found'
  | commit id tx found asked =>
      obtain ⟨global, others⟩ := kept.commits world id tx hold permitted found asked
      refine ⟨global, fun other otherTx present => ?_, exclusive⟩
      obtain ⟨different, found'⟩ := lookup_erase_some present
      exact others other otherTx different found'
  | abort id tx found =>
      obtain ⟨global, others⟩ := kept.aborts world id tx hold permitted found
      refine ⟨global, fun other otherTx present => ?_, exclusive⟩
      obtain ⟨different, found'⟩ := lookup_erase_some present
      exact others other otherTx different found'
  | stimulus value env accepted =>
      obtain ⟨global, others⟩ := kept.stimuli world value env hold permitted accepted
      exact ⟨global, others, exclusive⟩

/-- Assertions that every permitted step keeps hold in every state a run reaches. -/
theorem assertions_run {asserted : Assertions Row Pc Env}
    (kept : asserted.Kept machine allowed) {start world : World Row Pc Env}
    (hold : asserted.Hold start) (run : Run machine allowed start world) :
    asserted.Hold world := by
  induction run with
  | refl => exact hold
  | next event run permitted stepped ih => exact assertions_step kept ih permitted stepped

/-- An assertion on what is committed that only commits could break. -/
def Assertions.strengthen (asserted : Assertions Row Pc Env) (extra : Store Row → Prop) :
    Assertions Row Pc Env :=
  { asserted with global := fun committed env => asserted.global committed env ∧ extra committed }

theorem hold_weaken {asserted : Assertions Row Pc Env} {extra : Store Row → Prop}
    {world : World Row Pc Env} (hold : (asserted.strengthen extra).Hold world) :
    asserted.Hold world :=
  ⟨hold.global.1, hold.localAt, hold.exclusive⟩

theorem strengthen_kept {asserted : Assertions Row Pc Env} {extra : Store Row → Prop}
    (kept : asserted.Kept machine allowed)
    (commits : ∀ world id tx, asserted.Hold world → extra world.committed →
      world.active.lookup id = some tx → machine.request tx.pc = .commit →
      extra (overlay world.committed tx.own)) :
    (asserted.strengthen extra).Kept machine allowed := by
  constructor
  · intro world id pc hold
    exact kept.begins world id pc (hold_weaken hold)
  · intro world id pick tx moved hold
    exact kept.runs world id pick tx moved (hold_weaken hold)
  · intro world id value tx next env hold permitted found asked answered
    obtain ⟨global, own, others⟩ :=
      kept.answers world id value tx next env (hold_weaken hold) permitted found asked answered
    exact ⟨⟨global, hold.global.2⟩, own, others⟩
  · intro world id tx hold permitted found asked
    obtain ⟨global, others⟩ := kept.commits world id tx (hold_weaken hold) permitted found asked
    exact ⟨⟨global, commits world id tx (hold_weaken hold) hold.global.2 found asked⟩, others⟩
  · intro world id tx hold permitted found
    obtain ⟨global, others⟩ := kept.aborts world id tx (hold_weaken hold) permitted found
    exact ⟨⟨global, hold.global.2⟩, others⟩
  · intro world value env hold permitted accepted
    obtain ⟨global, others⟩ := kept.stimuli world value env (hold_weaken hold) permitted accepted
    exact ⟨⟨global, hold.global.2⟩, others⟩

/-- A commit leaves every row another transaction holds as it was. -/
theorem commit_frame {world : World Row Pc Env} (exclusive : Exclusive world) {id other : Nat}
    {tx otherTx : Tx Row Pc} (different : other ≠ id)
    (found : world.active.lookup id = some tx)
    (foundOther : world.active.lookup other = some otherTx) {key : Key}
    (held : otherTx.own.lookup key ≠ none) :
    (overlay world.committed tx.own).lookup key = world.committed.lookup key := by
  have free := exclusive other id otherTx tx different foundOther found key held
  rw [lookup_overlay, free, Option.getD_none]

/-- An invariant of the whole system that every permitted step keeps. -/
theorem invariant_run {invariant : World Row Pc Env → Prop}
    (kept : ∀ world event after, invariant world → Exclusive world → allowed world event →
      Moves machine world event after → invariant after)
    {start world : World Row Pc Env} (initially : invariant start) (exclusive : Exclusive start)
    (run : Run machine allowed start world) : invariant world ∧ Exclusive world := by
  induction run with
  | refl => exact ⟨initially, exclusive⟩
  | next event run permitted stepped ih =>
      have moves := step_moves stepped
      exact ⟨kept _ event _ ih.1 ih.2 permitted moves, exclusive_moves ih.2 moves⟩

/-- The state of a database nobody is using. -/
def idle (committed : Store Row) (env : Env) : World Row Pc Env :=
  { committed, active := ∅, env }

theorem exclusive_idle (committed : Store Row) (env : Env) :
    Exclusive (idle committed env : World Row Pc Env) := by
  intro id other tx otherTx different found
  simp [idle] at found

theorem hold_idle (asserted : Assertions Row Pc Env) {committed : Store Row} {env : Env}
    (global : asserted.global committed env) : asserted.Hold (idle committed env) := by
  refine ⟨global, ?_, ?_⟩
  · intro id tx found
    simp [idle] at found
  · intro id other tx otherTx different found
    simp [idle] at found

variable (machine allowed) in
/-- The state a list of events leads to, when each is permitted and can happen. -/
def steps [∀ world event, Decidable (allowed world event)] (world : World Row Pc Env) :
    List (Event Key Pc Answer Stimulus) → Option (World Row Pc Env)
  | [] => some world
  | event :: rest =>
      if allowed world event then
        (step machine world event).bind fun after => steps after rest
      else none

theorem run_steps [∀ world event, Decidable (allowed world event)]
    {start world after : World Row Pc Env} (run : Run machine allowed start world)
    (events : List (Event Key Pc Answer Stimulus))
    (reached : steps machine allowed world events = some after) :
    Run machine allowed start after := by
  induction events generalizing world with
  | nil =>
      simp only [steps, Option.some.injEq] at reached
      exact reached ▸ run
  | cons event rest ih =>
      unfold steps at reached
      split at reached
      · rename_i permitted
        simp only [Option.bind_eq_some_iff] at reached
        obtain ⟨middle, stepped, reached⟩ := reached
        exact ih (run.next event permitted stepped) reached
      · simp at reached

end Runs

end Foc.Library.ReadCommitted
