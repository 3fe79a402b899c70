import Foc.Library.ReadCommitted

/-!
Transactions written as programs, and what a program ensures whatever other
transactions commit between its statements. A protocol names an invariant of the
committed rows and how others may change them while some rows are kept from
them; `ensures` closes every statement under changes that keep the rows the
transaction holds. Nothing here knows what the rows are.
-/
namespace Foc.Library.Transaction
open ReadCommitted

/-- A locking statement without what follows it. -/
structure Locking {Key : Type} (Row : Key → Type) where
  wanted : Store Row → (key : Key) → Row key → Bool
  write : (key : Key) → Row key → Option (Row key)
  skipLocked : Bool
  limit : Option Nat

/-- A transaction as a tree of statements: `done` commits, `fail` throws. -/
inductive Program {Key Ask : Type} (Row : Key → Type) (Answer : Ask → Type) (Error α : Type) where
  | done (result : α)
  | fail (error : Error)
  | select (next : Store Row → Program Row Answer Error α)
  | scan (statement : Locking Row)
      (next : Store Row → List (Sigma Row) → Program Row Answer Error α)
  | insert (key : Key) (row : Row key) (next : Bool → Program Row Answer Error α)
  | await (ask : Ask) (next : Answer ask → Program Row Answer Error α)

variable {Key Ask : Type} {Row : Key → Type} {Answer : Ask → Type}
  {Error Call Env Stimulus α β : Type}

def Program.bind : Program Row Answer Error α → (α → Program Row Answer Error β) →
    Program Row Answer Error β
  | .done result, rest => rest result
  | .fail error, _ => .fail error
  | .select next, rest => .select fun view => (next view).bind rest
  | .scan statement next, rest =>
      .scan statement fun snapshot hits => (next snapshot hits).bind rest
  | .insert key row next, rest => .insert key row fun inserted => (next inserted).bind rest
  | .await ask next, rest => .await ask fun value => (next value).bind rest

instance : Monad (Program Row Answer Error) where
  pure := .done
  bind := Program.bind

@[simp] theorem pure_eq (result : α) :
    (pure result : Program Row Answer Error α) = .done result := rfl

@[simp] theorem bind_eq (program : Program Row Answer Error α)
    (rest : α → Program Row Answer Error β) : (program >>= rest) = program.bind rest := rfl

@[simp] theorem done_bind (result : α) (rest : α → Program Row Answer Error β) :
    (Program.done result : Program Row Answer Error α).bind rest = rest result := rfl

@[simp] theorem fail_bind (error : Error) (rest : α → Program Row Answer Error β) :
    (Program.fail error : Program Row Answer Error α).bind rest = .fail error := rfl

@[simp] theorem bind_bind {γ : Type} (program : Program Row Answer Error α)
    (next : α → Program Row Answer Error β) (rest : β → Program Row Answer Error γ) :
    (program.bind next).bind rest = program.bind fun result => (next result).bind rest := by
  induction program with
  | done result => rfl
  | fail error => rfl
  | select later ih => simp only [Program.bind, ih]
  | scan statement later ih => simp only [Program.bind, ih]
  | insert key row later ih => simp only [Program.bind, ih]
  | await ask later ih => simp only [Program.bind, ih]

variable [DecidableEq Key]

/-! ## Running programs -/

/-- One run of a call: the program is the call's own until its first step. -/
structure Session (Row : Key → Type) (Answer : Ask → Type) (Error Call α : Type) where
  call : Call
  program : Option (Program Row Answer Error α)

/-- The calls a service can run, and the world they ask and report to. -/
structure Service (Row : Key → Type) (Answer : Ask → Type) (Error Call α Env Stimulus : Type) where
  main : Call → Program Row Answer Error α
  starts : Env → Call → Bool
  respond : Env → Call → (ask : Ask) → Answer ask → Option Env
  finished : Env → Call → α → Env
  refused : Env → Call → Error → Env
  stimulus : Env → Stimulus → Option Env

section Running

variable [DecidableEq Ask] (service : Service Row Answer Error Call α Env Stimulus)

def Service.current (session : Session Row Answer Error Call α) : Program Row Answer Error α :=
  session.program.getD (service.main session.call)

def Session.goOn (session : Session Row Answer Error Call α)
    (program : Program Row Answer Error α) : Session Row Answer Error Call α :=
  { session with program := some program }

def Locking.scan {Pc : Type} (statement : Locking Row)
    (next : Store Row → List (Sigma Row) → Pc) : Scan Row Pc :=
  { wanted := statement.wanted
    write := statement.write
    skipLocked := statement.skipLocked
    limit := statement.limit
    next := next }

def Service.request (session : Session Row Answer Error Call α) :
    Request Row (Session Row Answer Error Call α) (Sigma Answer) :=
  match service.current session with
  | .done _ => .commit
  | .fail _ => .stop
  | .select next => .select fun view => session.goOn (next view)
  | .scan statement next =>
      .scan (statement.scan fun snapshot hits => session.goOn (next snapshot hits))
  | .insert key row next => .insert key row fun inserted => session.goOn (next inserted)
  | .await ask next =>
      .await fun reply =>
        if same : reply.1 = ask then session.goOn (next (same ▸ reply.2)) else session

def Service.answered (env : Env) (session : Session Row Answer Error Call α)
    (reply : Sigma Answer) : Option Env :=
  match service.current session with
  | .await ask _ =>
      if same : reply.1 = ask then service.respond env session.call ask (same ▸ reply.2) else none
  | _ => none

def Service.settle (env : Env) (session : Session Row Answer Error Call α) : Env :=
  match service.current session with
  | .done result => service.finished env session.call result
  | _ => env

def Service.giveUp (env : Env) (session : Session Row Answer Error Call α) : Env :=
  match service.current session with
  | .fail error => service.refused env session.call error
  | _ => env

def Service.machine : Machine Row (Session Row Answer Error Call α) (Sigma Answer) Env Stimulus :=
  { request := service.request
    starts := fun env session => session.program.isNone && service.starts env session.call
    answered := service.answered
    finished := service.settle
    aborted := service.giveUp
    stimulus := service.stimulus }

end Running

/-! ## What a program ensures -/

/-- What holds of the committed rows, and how commits may change them without
taking the rows kept. -/
structure Protocol (Row : Key → Type) (Env : Type) where
  holds : Store Row → Env → Prop
  change : (kept : Key → Prop) → Store Row → Env → Store Row → Env → Prop
  refl : ∀ kept store env, change kept store env store env
  trans : ∀ {kept first firstEnv second secondEnv third thirdEnv},
    change kept first firstEnv second secondEnv →
      change kept second secondEnv third thirdEnv → change kept first firstEnv third thirdEnv

section Ensures

variable (protocol : Protocol Row Env)

/-- The rows a transaction holds. -/
def Held (own : Writes Row) (key : Key) : Prop := own.lookup key ≠ none

/-- What other transactions may have done to a transaction that holds `own`. -/
structure Protocol.Rely (own : Writes Row) (store : Store Row) (env : Env)
    (store' : Store Row) (env' : Env) : Prop where
  holds : protocol.holds store' env'
  change : protocol.change (Held own) store env store' env'
  same : ∀ key, Held own key → store'.lookup key = store.lookup key

abbrev Assertion (Row : Key → Type) (Env : Type) := Store Row → Env → Writes Row → Prop

def Locking.wants (statement : Locking Row) (progress : Progress Row) (key : Key)
    (row : Row key) : Prop :=
  statement.wanted progress.snapshot key row = true

def Locking.full (statement : Locking Row) (progress : Progress Row) : Bool :=
  statement.limit.any fun limit => decide (limit ≤ progress.hits.length)

def Locking.begin (statement : Locking Row) (snapshot : Store Row) : Progress Row :=
  { snapshot
    remaining :=
      (snapshot.entries.filter fun entry =>
        statement.wanted snapshot entry.1 entry.2).map Sigma.fst
    hits := [] }

/-- An invariant of a locking statement under way. -/
structure Scanning (statement : Locking Row)
    (invariant : Progress Row → Assertion Row Env) : Prop where
  stable : ∀ progress store env own store' env', invariant progress store env own →
    protocol.Rely own store env store' env' → invariant progress store' env' own
  drop : ∀ progress store env own key, invariant progress store env own →
    key ∈ progress.remaining →
    (statement.skipLocked = true ∨ ∀ row, (overlay store own).lookup key = some row →
      ¬ statement.wants progress key row) →
    invariant (progress.drop key) store env own
  take : ∀ progress store env own key row, invariant progress store env own →
    key ∈ progress.remaining → (overlay store own).lookup key = some row →
    statement.wants progress key row →
    invariant (progress.take key row) store env (own.insert key (statement.write key row))

/-- From this state on the program can only end as `post` says. -/
def ensures {γ : Type} (respond : Env → (ask : Ask) → Answer ask → Option Env)
    (post : Except Error γ → Assertion Row Env) :
    Program Row Answer Error γ → Assertion Row Env
  | .done result, store, env, own =>
      ∀ store' env', protocol.Rely own store env store' env' → post (.ok result) store' env' own
  | .fail error, store, env, own =>
      ∀ store' env', protocol.Rely own store env store' env' → post (.error error) store' env' own
  | .select next, store, env, own =>
      ∀ store' env', protocol.Rely own store env store' env' →
        ensures respond post (next (overlay store' own)) store' env' own
  | .scan statement next, store, env, own =>
      ∃ invariant, Scanning protocol statement invariant ∧
        (∀ store' env', protocol.Rely own store env store' env' →
          invariant (statement.begin (overlay store' own)) store' env' own) ∧
        ∀ progress store' env' own', invariant progress store' env' own' →
          progress.remaining = [] ∨ statement.full progress = true →
          ensures respond post (next progress.snapshot progress.hits) store' env' own'
  | .insert key row next, store, env, own =>
      ∀ store' env', protocol.Rely own store env store' env' →
        ((overlay store' own).lookup key = none →
          ensures respond post (next true) store' env' (own.insert key (some row))) ∧
        ∀ old, (overlay store' own).lookup key = some old →
          ensures respond post (next false) store' env' own
  | .await ask next, store, env, own =>
      ∀ store' env', protocol.Rely own store env store' env' →
        ∀ value after, respond env' ask value = some after →
          protocol.holds store' after ∧
            (∀ kept, protocol.change kept store' env' store' after) ∧
            ensures respond post (next value) store' after own

variable {protocol}

theorem rely_trans {own : Writes Row} {first second third : Store Row}
    {firstEnv secondEnv thirdEnv : Env} (before : protocol.Rely own first firstEnv second secondEnv)
    (after : protocol.Rely own second secondEnv third thirdEnv) :
    protocol.Rely own first firstEnv third thirdEnv where
  holds := after.holds
  change := protocol.trans before.change after.change
  same := fun key held => (after.same key held).trans (before.same key held)

theorem rely_refl {own : Writes Row} {store : Store Row} {env : Env}
    (holds : protocol.holds store env) : protocol.Rely own store env store env where
  holds := holds
  change := protocol.refl _ store env
  same := fun _ _ => rfl

/-- The rows a transaction holds look the same to it after other commits. -/
theorem rely_overlay {own : Writes Row} {store store' : Store Row} {env env' : Env}
    (rely : protocol.Rely own store env store' env') {key : Key} (held : Held own key) :
    (overlay store' own).lookup key = (overlay store own).lookup key := by
  rw [lookup_overlay, lookup_overlay, rely.same key held]

variable {γ δ : Type} {respond : Env → (ask : Ask) → Answer ask → Option Env}
  {post other : Except Error γ → Assertion Row Env} {store store' : Store Row} {env env' : Env}
  {own : Writes Row}

/-- What a program ensures does not depend on what others commit meanwhile. -/
theorem ensures_rely {program : Program Row Answer Error γ}
    (rely : protocol.Rely own store env store' env')
    (known : ensures protocol respond post program store env own) :
    ensures protocol respond post program store' env' own := by
  cases program with
  | done result => exact fun later laterEnv next => known later laterEnv (rely_trans rely next)
  | fail error => exact fun later laterEnv next => known later laterEnv (rely_trans rely next)
  | select next => exact fun later laterEnv after => known later laterEnv (rely_trans rely after)
  | insert key row next =>
      exact fun later laterEnv after => known later laterEnv (rely_trans rely after)
  | await ask next => exact fun later laterEnv after => known later laterEnv (rely_trans rely after)
  | scan statement next =>
      obtain ⟨invariant, scanning, begins, ends⟩ := known
      exact ⟨invariant, scanning, fun later laterEnv after =>
        begins later laterEnv (rely_trans rely after), ends⟩

theorem ensures_mono {program : Program Row Answer Error γ}
    (weaker : ∀ result store env own, post result store env own → other result store env own)
    (known : ensures protocol respond post program store env own) :
    ensures protocol respond other program store env own := by
  induction program generalizing store env own with
  | done result =>
      intro later laterEnv rely
      exact weaker _ _ _ _ (known later laterEnv rely)
  | fail error =>
      intro later laterEnv rely
      exact weaker _ _ _ _ (known later laterEnv rely)
  | select next ih =>
      intro later laterEnv rely
      exact ih _ (known later laterEnv rely)
  | scan statement next ih =>
      obtain ⟨invariant, scanning, begins, ends⟩ := known
      refine ⟨invariant, scanning, begins, ?_⟩
      intro progress later laterEnv held reached finished
      exact ih _ _ (ends progress later laterEnv held reached finished)
  | insert key row next ih =>
      intro later laterEnv rely
      obtain ⟨fresh, conflict⟩ := known later laterEnv rely
      exact ⟨fun absent => ih _ (fresh absent), fun old present => ih _ (conflict old present)⟩
  | await ask next ih =>
      intro later laterEnv rely value after responded
      obtain ⟨holds, change, rest⟩ := known later laterEnv rely value after responded
      exact ⟨holds, change, ih _ rest⟩

/-- What follows a program starts from whatever the program ensures. -/
def followed (rest : γ → Program Row Answer Error δ)
    (post : Except Error δ → Assertion Row Env)
    (respond : Env → (ask : Ask) → Answer ask → Option Env)
    (protocol : Protocol Row Env) : Except Error γ → Assertion Row Env
  | .ok result, store, env, own =>
      protocol.holds store env → ensures protocol respond post (rest result) store env own
  | .error error, store, env, own => post (.error error) store env own

theorem ensures_bind {program : Program Row Answer Error γ}
    {rest : γ → Program Row Answer Error δ} {after : Except Error δ → Assertion Row Env}
    (holds : protocol.holds store env)
    (known : ensures protocol respond (followed rest after respond protocol)
      program store env own) :
    ensures protocol respond after (program.bind rest) store env own := by
  induction program generalizing store env own with
  | done result =>
      have here := known store env (rely_refl holds)
      exact here holds
  | fail error => exact known
  | select next ih =>
      intro later laterEnv rely
      exact ih _ rely.holds (known later laterEnv rely)
  | scan statement next ih =>
      obtain ⟨invariant, scanning, begins, ends⟩ := known
      refine ⟨fun progress later laterEnv held =>
        invariant progress later laterEnv held ∧ protocol.holds later laterEnv, ?_, ?_, ?_⟩
      · constructor
        · intro progress first firstEnv held second secondEnv reached rely
          exact ⟨scanning.stable progress first firstEnv held second secondEnv reached.1 rely,
            rely.holds⟩
        · intro progress first firstEnv held key reached member cause
          exact ⟨scanning.drop progress first firstEnv held key reached.1 member cause, reached.2⟩
        · intro progress first firstEnv held key row reached member found wants
          exact ⟨scanning.take progress first firstEnv held key row reached.1 member found wants,
            reached.2⟩
      · intro later laterEnv rely
        exact ⟨begins later laterEnv rely, rely.holds⟩
      · intro progress later laterEnv held reached finished
        exact ih _ _ reached.2 (ends progress later laterEnv held reached.1 finished)
  | insert key row next ih =>
      intro later laterEnv rely
      obtain ⟨fresh, conflict⟩ := known later laterEnv rely
      exact ⟨fun absent => ih _ rely.holds (fresh absent),
        fun old present => ih _ rely.holds (conflict old present)⟩
  | await ask next ih =>
      intro later laterEnv rely value next' responded
      obtain ⟨kept, change, rest⟩ := known later laterEnv rely value next' responded
      exact ⟨kept, change, ih _ kept rest⟩

/-! ## One row by its key -/

def rowLocking (target : Key) (skipLocked : Bool) (wanted : Row target → Bool)
    (write : Row target → Option (Row target)) : Locking Row :=
  { wanted := fun _ key row => if same : key = target then wanted (same ▸ row) else false
    write := fun key row => if same : key = target then same ▸ write (same ▸ row) else some row
    skipLocked
    limit := none }

def rowAmong (target : Key) (hits : List (Sigma Row)) : Option (Row target) :=
  hits.findSome? fun hit => if same : hit.1 = target then some (same ▸ hit.2) else none

/-- A statement that locks the row of one key, and perhaps writes it. -/
def lockRow (target : Key) (skipLocked : Bool) (wanted : Row target → Bool)
    (write : Row target → Option (Row target)) : Program Row Answer Error (Option (Row target)) :=
  .scan (rowLocking target skipLocked wanted write) fun _ hits => .done (rowAmong target hits)

theorem row_wants {target key : Key} {skipLocked : Bool} {wanted : Row target → Bool}
    {write : Row target → Option (Row target)} {progress : Progress Row} {row : Row key}
    (wants : (rowLocking target skipLocked wanted write).wants progress key row) :
    ∃ same : key = target, wanted (same ▸ row) = true := by
  unfold Locking.wants rowLocking at wants
  by_cases same : key = target
  · subst same
    exact ⟨rfl, by simpa using wants⟩
  · simp [same] at wants

theorem row_begin_member {target key : Key} {skipLocked : Bool} {wanted : Row target → Bool}
    {write : Row target → Option (Row target)} {snapshot : Store Row}
    (member : key ∈ ((rowLocking target skipLocked wanted write).begin snapshot).remaining) :
    ∃ row : Row target, key = target ∧ snapshot.lookup target = some row ∧ wanted row = true := by
  simp only [Locking.begin, List.mem_map, List.mem_filter] at member
  obtain ⟨⟨stored, row⟩, ⟨present, wants⟩, rfl⟩ := member
  by_cases same : stored = target
  · subst same
    exact ⟨row, rfl, AList.mem_lookup_iff.mpr present, by simpa [rowLocking] using wants⟩
  · simp [rowLocking, same] at wants

/-- Where a one-row statement stands: not begun to match, or done with its row. -/
def Taking (protocol : Protocol Row Env)
    (respond : Env → (ask : Ask) → Answer ask → Option Env)
    (post : Except Error δ → Assertion Row Env) (target : Key)
    (write : Row target → Option (Row target))
    (rest : Option (Row target) → Program Row Answer Error δ) (before : Store Row)
    (beforeEnv : Env) (held : Writes Row) (progress : Progress Row) : Assertion Row Env :=
  fun store env own =>
    own = held ∧ progress.hits = [] ∧ (∀ key ∈ progress.remaining, key = target) ∧
        protocol.Rely held before beforeEnv store env ∧
        (progress.remaining = [] → ensures protocol respond post (rest none) store env own) ∨
      ∃ row, own = held.insert target (write row) ∧ progress.hits = [⟨target, row⟩] ∧
        progress.remaining = [] ∧
        ensures protocol respond post (rest (some row)) store env own

/-- Locking one row: it is found as others left it, or it is not there to lock. -/
theorem ensures_lock {target : Key} {skipLocked : Bool} {wanted : Row target → Bool}
    {write : Row target → Option (Row target)}
    {rest : Option (Row target) → Program Row Answer Error δ}
    {after : Except Error δ → Assertion Row Env}
    (missing : ∀ store' env', protocol.Rely own store env store' env' →
      skipLocked = true ∨
        (∀ row, (overlay store' own).lookup target = some row → wanted row = false) →
      ensures protocol respond after (rest none) store' env' own)
    (locked : ∀ store' env' row, protocol.Rely own store env store' env' →
      (overlay store' own).lookup target = some row → wanted row = true →
      ensures protocol respond after (rest (some row)) store' env'
        (own.insert target (write row))) :
    ensures protocol respond after ((lockRow target skipLocked wanted write).bind rest) store env own := by
  refine ⟨Taking protocol respond after target write rest store env own, ?_, ?_, ?_⟩
  · constructor
    · intro progress first firstEnv held second secondEnv reached rely
      rcases reached with ⟨rfl, none, only, since, ends⟩ | ⟨row, rfl, hit, noted, ends⟩
      · exact .inl ⟨rfl, none, only, rely_trans since rely,
          fun empty => ensures_rely rely (ends empty)⟩
      · exact .inr ⟨row, rfl, hit, noted, ensures_rely rely ends⟩
    · intro progress first firstEnv held key reached member cause
      rcases reached with ⟨rfl, none, only, since, ends⟩ | ⟨row, rfl, hit, noted, ends⟩
      · refine .inl ⟨rfl, none, fun other present => only other (mem_drop.mp present).1, since, ?_⟩
        intro empty
        apply missing first firstEnv since
        have same := only key member
        subst same
        rcases cause with skips | unwanted
        · exact .inl skips
        · refine .inr fun row found => ?_
          have unwanted := unwanted row found
          simpa [Locking.wants, rowLocking] using unwanted
      · rw [noted] at member
        simp at member
    · intro progress first firstEnv held key row reached member found wants
      rcases reached with ⟨rfl, none, only, since, ends⟩ | ⟨taken, rfl, hit, noted, ends⟩
      · have same := only key member
        subst same
        obtain ⟨_, wanted⟩ := row_wants wants
        refine .inr ⟨row, ?_, ?_, ?_, ?_⟩
        · simp [rowLocking]
        · simp [Progress.take, Progress.drop, none]
        · simp only [Progress.take, Progress.drop, List.filter_eq_nil_iff]
          intro other present
          simp [only other present]
        · have reached := locked first firstEnv row since found wanted
          simpa [rowLocking] using reached
      · rw [noted] at member
        simp at member
  · intro first firstEnv rely
    refine .inl ⟨rfl, rfl, ?_, rely, ?_⟩
    · intro key member
      exact (row_begin_member member).choose_spec.1
    · intro empty
      apply missing first firstEnv rely
      refine .inr fun row found => ?_
      by_contra wants
      have member : target ∈ ((rowLocking target skipLocked wanted write).begin (overlay first own)).remaining
          := by
        simp only [Locking.begin, List.mem_map, List.mem_filter]
        exact ⟨⟨target, row⟩, ⟨AList.mem_lookup_iff.mp found, by simpa [rowLocking] using wants⟩,
          rfl⟩
      rw [empty] at member
      simp at member
  · intro progress first firstEnv held reached finished
    rcases reached with ⟨rfl, none, only, since, ends⟩ | ⟨row, rfl, hit, noted, ends⟩
    · have empty : progress.remaining = [] := by simpa [Locking.full, rowLocking] using finished
      simpa [Program.bind, rowAmong, none] using ends empty
    · simpa [Program.bind, rowAmong, hit] using ends

end Ensures

/-! ## Whole runs -/

section Runs

variable (service : Service Row Answer Error Call α Env Stimulus)
  (protocol : Protocol Row Env) (post : Call → Except Error α → Assertion Row Env)

/-- What a commit, or the end of a call that threw, has to leave behind. -/
def Service.settled (call : Call) : Except Error α → Assertion Row Env
  | .ok result, store, env, own =>
      protocol.holds (overlay store own) (service.finished env call result) ∧
        ∀ kept : Key → Prop, (∀ key, Held own key → ¬ kept key) →
          protocol.change kept store env (overlay store own) (service.finished env call result)
  | .error error, store, env, _ =>
      protocol.holds store (service.refused env call error) ∧
        ∀ kept, protocol.change kept store env store (service.refused env call error)

def Service.reply (call : Call) (env : Env) (ask : Ask) (value : Answer ask) : Option Env :=
  service.respond env call ask value

/-- Every call keeps the protocol, and so does whatever happens outside calls. -/
structure Service.Sound : Prop where
  calls : ∀ store env call, protocol.holds store env → service.starts env call = true →
    ensures protocol (service.reply call) (post call) (service.main call) store env ∅
  settles : ∀ call result store env own, protocol.holds store env →
    post call result store env own → service.settled protocol call result store env own
  stimuli : ∀ store env value after, protocol.holds store env →
    service.stimulus env value = some after →
    protocol.holds store after ∧ ∀ kept, protocol.change kept store env store after

/-- Where a session stands: before a statement, or inside a locking one. -/
def Service.underway (store : Store Row) (env : Env)
    (tx : Tx Row (Session Row Answer Error Call α)) : Prop :=
  match tx.progress with
  | none =>
      ensures protocol (service.reply tx.pc.call) (post tx.pc.call)
        (service.current tx.pc) store env tx.own
  | some progress =>
      ∃ statement next invariant, service.current tx.pc = .scan statement next ∧
        Scanning protocol statement invariant ∧
        invariant progress store env tx.own ∧
        ∀ progress store env own, invariant progress store env own →
          progress.remaining = [] ∨ statement.full progress = true →
          ensures protocol (service.reply tx.pc.call) (post tx.pc.call)
            (next progress.snapshot progress.hits) store env own

def Service.assertions : Assertions Row (Session Row Answer Error Call α) Env :=
  { global := protocol.holds
    localAt := service.underway protocol post }

variable {service protocol post}

theorem underway_rely {store store' : Store Row} {env env' : Env}
    {tx : Tx Row (Session Row Answer Error Call α)}
    (standing : service.underway protocol post store env tx)
    (rely : protocol.Rely tx.own store env store' env') :
    service.underway protocol post store' env' tx := by
  unfold Service.underway at standing ⊢
  split at standing
  · exact ensures_rely rely standing
  · rename_i progress underway
    obtain ⟨statement, next, invariant, current, scanning, reached, ends⟩ := standing
    exact ⟨statement, next, invariant, current, scanning,
      scanning.stable progress store env tx.own store' env' reached rely, ends⟩

theorem underway_scan {store : Store Row} {env : Env} {taken : Key → Bool} {pick : Option Key}
    {tx moved : Tx Row (Session Row Answer Error Call α)} {statement : Locking Row}
    {next : Store Row → List (Sigma Row) → Program Row Answer Error α}
    (holds : protocol.holds store env) (standing : service.underway protocol post store env tx)
    (current : service.current tx.pc = .scan statement next)
    (move : ScanMove (statement.scan fun snapshot hits => tx.pc.goOn (next snapshot hits))
      store taken tx pick moved) :
    service.underway protocol post store env moved := by
  cases move with
  | start idle =>
      simp only [Service.underway, idle, current] at standing
      obtain ⟨invariant, scanning, begins, ends⟩ := standing
      exact ⟨statement, next, invariant, current, scanning, begins store env (rely_refl holds), ends⟩
  | drop progress key underway picked member cause =>
      simp only [Service.underway, underway] at standing
      obtain ⟨_, _, invariant, same, scanning, reached, ends⟩ := standing
      cases current.symm.trans same
      refine ⟨statement, next, invariant, current, scanning, ?_, ends⟩
      apply scanning.drop progress store env tx.own key reached member
      rcases cause with ⟨_, skips⟩ | unwanted
      · exact .inl skips
      · refine .inr fun row found wants => ?_
        have refused := unwanted row found
        exact Bool.false_ne_true (refused.symm.trans wants)
  | take progress key row underway picked member free found wanted =>
      simp only [Service.underway, underway] at standing
      obtain ⟨_, _, invariant, same, scanning, reached, ends⟩ := standing
      cases current.symm.trans same
      exact ⟨statement, next, invariant, current, scanning,
        scanning.take progress store env tx.own key row reached member found wanted, ends⟩
  | finish progress underway done =>
      simp only [Service.underway, underway] at standing
      obtain ⟨_, _, invariant, same, scanning, reached, ends⟩ := standing
      cases current.symm.trans same
      exact ends progress store env tx.own reached done

variable [DecidableEq Ask]

theorem underway_moves {store : Store Row} {env : Env} {taken : Key → Bool} {pick : Option Key}
    {tx moved : Tx Row (Session Row Answer Error Call α)} (holds : protocol.holds store env)
    (standing : service.underway protocol post store env tx)
    (move : LocalMove service.machine store taken tx pick moved) :
    service.underway protocol post store env moved := by
  have asked : service.machine.request tx.pc = service.request tx.pc := rfl
  unfold Service.request at asked
  -- Only a locking statement can be half done.
  have idle : (∀ statement next, service.current tx.pc ≠ .scan statement next) →
      ensures protocol (service.reply tx.pc.call) (post tx.pc.call)
        (service.current tx.pc) store env tx.own := by
    intro other
    unfold Service.underway at standing
    split at standing
    · exact standing
    · obtain ⟨statement, next, _, current, _⟩ := standing
      exact absurd current (other statement next)
  cases current : service.current tx.pc with
  | done result =>
      rw [current] at asked
      exact absurd move (no_local_move (.inl asked))
  | fail error =>
      rw [current] at asked
      exact absurd move (no_local_move (.inr (.inl asked)))
  | await ask next =>
      rw [current] at asked
      exact absurd move (no_local_move (.inr (.inr ⟨_, asked⟩)))
  | select next =>
      rw [current] at asked idle
      have ready := idle (by simp)
      cases select_moves asked move
      exact ready store env (rely_refl holds)
  | insert key row next =>
      rw [current] at asked idle
      have ready := idle (by simp) store env (rely_refl holds)
      rcases insert_moves asked move with ⟨_, ⟨absent, rfl⟩ | ⟨old, present, rfl⟩⟩
      · exact ready.1 absent
      · exact ready.2 old present
  | scan statement next =>
      rw [current] at asked
      exact underway_scan holds standing current (scan_moves asked move)

theorem underway_answer {store : Store Row} {env after : Env}
    {tx : Tx Row (Session Row Answer Error Call α)} {reply : Sigma Answer}
    {next : Sigma Answer → Session Row Answer Error Call α} (holds : protocol.holds store env)
    (standing : service.underway protocol post store env tx)
    (asked : service.machine.request tx.pc = .await next)
    (answered : service.machine.answered env tx.pc reply = some after) :
    protocol.holds store after ∧ (∀ kept, protocol.change kept store env store after) ∧
      service.underway protocol post store after { tx with pc := next reply } := by
  obtain ⟨kind, value⟩ := reply
  have request : service.machine.request tx.pc = service.request tx.pc := rfl
  have accepted : service.machine.answered env tx.pc ⟨kind, value⟩ =
      service.answered env tx.pc ⟨kind, value⟩ := rfl
  rw [asked] at request
  rw [answered] at accepted
  unfold Service.request at request
  unfold Service.answered at accepted
  unfold Service.underway at standing ⊢
  cases current : service.current tx.pc with
  | await ask rest =>
      simp only [current] at request accepted standing
      cases request
      by_cases same : kind = ask
      · subst same
        simp only [dite_true] at accepted
        split at standing
        · rename_i idle
          have ready := standing store env (rely_refl holds) value after accepted.symm
          simp only [idle, dite_true]
          exact ready
        · obtain ⟨_, _, _, impossible, _⟩ := standing
          simp at impossible
      · simp [same] at accepted
  | done result => simp [current] at request
  | fail error => simp [current] at request
  | select rest => simp [current] at request
  | insert key row rest => simp [current] at request
  | scan statement rest => simp [current] at request

variable {allowed : World Row (Session Row Answer Error Call α) Env →
  Event Key (Session Row Answer Error Call α) (Sigma Answer) Stimulus → Prop}

omit [DecidableEq Ask] in
theorem underway_done {protocol : Protocol Row Env} {store : Store Row} {env : Env}
    {tx : Tx Row (Session Row Answer Error Call α)} {result : α}
    (holds : protocol.holds store env) (standing : service.underway protocol post store env tx)
    (current : service.current tx.pc = .done result) :
    post tx.pc.call (.ok result) store env tx.own := by
  unfold Service.underway at standing
  split at standing
  · rw [current] at standing
    exact standing _ _ (rely_refl holds)
  · obtain ⟨_, _, _, impossible, _⟩ := standing
    simp [current] at impossible

omit [DecidableEq Ask] in
theorem underway_thrown {protocol : Protocol Row Env} {store : Store Row} {env : Env}
    {tx : Tx Row (Session Row Answer Error Call α)} {error : Error}
    (holds : protocol.holds store env) (standing : service.underway protocol post store env tx)
    (current : service.current tx.pc = .fail error) :
    post tx.pc.call (.error error) store env tx.own := by
  unfold Service.underway at standing
  split at standing
  · rw [current] at standing
    exact standing _ _ (rely_refl holds)
  · obtain ⟨_, _, _, impossible, _⟩ := standing
    simp [current] at impossible

omit [DecidableEq Ask] in
theorem underway_commit {world : World Row (Session Row Answer Error Call α) Env} {id : Nat}
    {tx : Tx Row (Session Row Answer Error Call α)} {result : α}
    (hold : (service.assertions protocol post).Hold world)
    (found : world.active.lookup id = some tx) (current : service.current tx.pc = .done result) :
    post tx.pc.call (.ok result) world.committed world.env tx.own :=
  underway_done hold.global (hold.localAt id tx found) current

omit [DecidableEq Ask] in
theorem underway_fail {world : World Row (Session Row Answer Error Call α) Env} {id : Nat}
    {tx : Tx Row (Session Row Answer Error Call α)} {error : Error}
    (hold : (service.assertions protocol post).Hold world)
    (found : world.active.lookup id = some tx) (current : service.current tx.pc = .fail error) :
    post tx.pc.call (.error error) world.committed world.env tx.own :=
  underway_thrown hold.global (hold.localAt id tx found) current

omit [DecidableEq Key] in
theorem commit_current {tx : Tx Row (Session Row Answer Error Call α)}
    (asked : service.machine.request tx.pc = .commit) :
    ∃ result, service.current tx.pc = .done result := by
  have request : service.machine.request tx.pc = service.request tx.pc := rfl
  rw [asked] at request
  unfold Service.request at request
  cases current : service.current tx.pc with
  | done result => exact ⟨result, rfl⟩
  | _ => simp [current] at request

theorem commit_settles (sound : service.Sound protocol post)
    {world : World Row (Session Row Answer Error Call α) Env} {id : Nat}
    {tx : Tx Row (Session Row Answer Error Call α)}
    (hold : (service.assertions protocol post).Hold world)
    (found : world.active.lookup id = some tx) (asked : service.machine.request tx.pc = .commit) :
    protocol.holds (overlay world.committed tx.own) (service.machine.finished world.env tx.pc) ∧
      ∀ kept : Key → Prop, (∀ key, Held tx.own key → ¬ kept key) →
        protocol.change kept world.committed world.env (overlay world.committed tx.own)
          (service.machine.finished world.env tx.pc) := by
  obtain ⟨result, current⟩ := commit_current asked
  have settled := sound.settles tx.pc.call (.ok result) world.committed world.env tx.own
    hold.global (underway_commit hold found current)
  have same : service.machine.finished world.env tx.pc =
      service.finished world.env tx.pc.call result := by
    simp [Service.machine, Service.settle, current]
  rw [same]
  exact settled

theorem abort_settles (sound : service.Sound protocol post)
    {world : World Row (Session Row Answer Error Call α) Env} {id : Nat}
    {tx : Tx Row (Session Row Answer Error Call α)}
    (hold : (service.assertions protocol post).Hold world)
    (found : world.active.lookup id = some tx) :
    protocol.holds world.committed (service.machine.aborted world.env tx.pc) ∧
      ∀ kept, protocol.change kept world.committed world.env world.committed
        (service.machine.aborted world.env tx.pc) := by
  have aborted : service.machine.aborted world.env tx.pc = service.giveUp world.env tx.pc := rfl
  rw [aborted]
  unfold Service.giveUp
  split
  · rename_i error current
    exact sound.settles tx.pc.call (.error error) world.committed world.env tx.own hold.global
      (underway_fail hold found current)
  · exact ⟨hold.global, fun kept => protocol.refl kept _ _⟩

theorem service_kept (sound : service.Sound protocol post) :
    (service.assertions protocol post).Kept service.machine allowed := by
  constructor
  · intro world id session hold permitted starts
    have parts : session.program.isNone = true ∧ service.starts world.env session.call = true := by
      simpa [Service.machine] using starts
    have fresh : session.program = none := Option.isNone_iff_eq_none.mp parts.1
    have ready := sound.calls world.committed world.env session.call hold.global parts.2
    simpa [Service.assertions, Service.underway, Service.current, fresh] using ready
  · intro world id pick tx moved hold permitted found move
    exact underway_moves hold.global (hold.localAt id tx found) move
  · intro world id reply tx next env hold permitted found asked answered
    obtain ⟨holds, change, standing⟩ :=
      underway_answer hold.global (hold.localAt id tx found) asked answered
    refine ⟨holds, standing, ?_⟩
    intro other otherTx different present
    exact underway_rely (hold.localAt other otherTx present) ⟨holds, change _, fun _ _ => rfl⟩
  · intro world id tx hold permitted found asked
    obtain ⟨holds, change⟩ := commit_settles sound hold found asked
    refine ⟨holds, ?_⟩
    intro other otherTx different present
    have apart : ∀ key, Held tx.own key → ¬ Held otherTx.own key := by
      intro key held taken
      exact held (hold.exclusive other id otherTx tx different present found key taken)
    exact underway_rely (hold.localAt other otherTx present)
      ⟨holds, change _ apart, fun key held => commit_frame hold.exclusive different found present held⟩
  · intro world id tx hold permitted found
    obtain ⟨holds, change⟩ := abort_settles sound hold found
    refine ⟨holds, ?_⟩
    intro other otherTx different present
    exact underway_rely (hold.localAt other otherTx present) ⟨holds, change _, fun _ _ => rfl⟩
  · intro world value after hold permitted accepted
    obtain ⟨holds, change⟩ := sound.stimuli world.committed world.env value after hold.global accepted
    refine ⟨holds, ?_⟩
    intro id tx present
    exact underway_rely (hold.localAt id tx present) ⟨holds, change _, fun _ _ => rfl⟩

variable {start world : World Row (Session Row Answer Error Call α) Env}

/-- In every state a run reaches the protocol holds and every session is where
its program allows. -/
theorem service_run (sound : service.Sound protocol post)
    (hold : (service.assertions protocol post).Hold start)
    (run : Run service.machine allowed start world) :
    (service.assertions protocol post).Hold world :=
  assertions_run (service_kept sound) hold run

/-- Every step of a run changes what is committed only as the protocol says. -/
theorem step_change (sound : service.Sound protocol post)
    (hold : (service.assertions protocol post).Hold world)
    {event : Event Key (Session Row Answer Error Call α) (Sigma Answer) Stimulus}
    {after : World Row (Session Row Answer Error Call α) Env}
    (stepped : step service.machine world event = some after) :
    protocol.change (fun _ => False) world.committed world.env after.committed after.env := by
  cases step_moves stepped with
  | begin => exact protocol.refl _ _ _
  | run => exact protocol.refl _ _ _
  | answer id reply tx next env found asked answered =>
      exact (underway_answer hold.global (hold.localAt id tx found) asked answered).2.1 _
  | commit id tx found asked =>
      exact (commit_settles sound hold found asked).2 _ fun _ _ => not_false
  | abort id tx found => exact (abort_settles sound hold found).2 _
  | stimulus value env accepted =>
      exact (sound.stimuli world.committed world.env value env hold.global accepted).2 _

theorem run_change (sound : service.Sound protocol post)
    (hold : (service.assertions protocol post).Hold start)
    (run : Run service.machine allowed start world) :
    protocol.change (fun _ => False) start.committed start.env world.committed world.env := by
  induction run with
  | refl => exact protocol.refl _ _ _
  | next event run permitted stepped ih =>
      exact protocol.trans ih (step_change sound (service_run sound hold run) stepped)

end Runs


/-! ## Sessions begun later -/

section Later

variable [DecidableEq Ask] {service : Service Row Answer Error Call α Env Stimulus}
  {post : Call → Except Error α → Assertion Row Env}

omit [DecidableEq Key] [DecidableEq Ask] in
/-- Nothing is known of what others commit but that something stays true. -/
def watching (holds : Store Row → Env → Prop) : Protocol Row Env :=
  { holds
    change := fun _ _ _ _ _ => True
    refl := fun _ _ _ => trivial
    trans := fun _ _ => trivial }

/-- A session runs its own call to its end. -/
theorem local_call {store : Store Row} {taken : Key → Bool} {pick : Option Key}
    {tx moved : Tx Row (Session Row Answer Error Call α)}
    (move : LocalMove service.machine store taken tx pick moved) :
    moved.pc.call = tx.pc.call := by
  have asked : service.machine.request tx.pc = service.request tx.pc := rfl
  unfold Service.request at asked
  cases current : service.current tx.pc with
  | done result =>
      rw [current] at asked
      exact absurd move (no_local_move (.inl asked))
  | fail error =>
      rw [current] at asked
      exact absurd move (no_local_move (.inr (.inl asked)))
  | await ask next =>
      rw [current] at asked
      exact absurd move (no_local_move (.inr (.inr ⟨_, asked⟩)))
  | select next =>
      rw [current] at asked
      cases select_moves asked move
      rfl
  | insert key row next =>
      rw [current] at asked
      rcases insert_moves asked move with ⟨_, ⟨_, rfl⟩ | ⟨_, _, rfl⟩⟩ <;> rfl
  | scan statement next =>
      rw [current] at asked
      cases scan_moves asked move <;> rfl

omit [DecidableEq Key] in
theorem answered_call {tx : Tx Row (Session Row Answer Error Call α)} {reply : Sigma Answer}
    {next : Sigma Answer → Session Row Answer Error Call α}
    (asked : service.machine.request tx.pc = .await next) : (next reply).call = tx.pc.call := by
  have request : service.machine.request tx.pc = service.request tx.pc := rfl
  rw [asked] at request
  unfold Service.request at request
  cases current : service.current tx.pc with
  | await ask rest =>
      simp only [current] at request
      cases request
      by_cases same : reply.1 = ask
      · simp [same, Session.goOn]
      · simp [same]
  | _ => simp [current] at request

variable {allowed : World Row (Session Row Answer Error Call α) Env →
    Event Key (Session Row Answer Error Call α) (Sigma Answer) Stimulus → Prop}
  {base world : World Row (Session Row Answer Error Call α) Env}
  {holds : Store Row → Env → Prop}

/-- A call under way was under way before, or begins. -/
theorem step_calls {before after : World Row (Session Row Answer Error Call α) Env}
    {event : Event Key (Session Row Answer Error Call α) (Sigma Answer) Stimulus}
    (stepped : step service.machine before event = some after) {id : Nat}
    {tx : Tx Row (Session Row Answer Error Call α)} (found : after.active.lookup id = some tx) :
    (∃ old, before.active.lookup id = some old ∧ tx.pc.call = old.pc.call) ∨
      ∃ pc, event = .begin id pc ∧ tx.pc.call = pc.call := by
  cases step_moves stepped with
  | begin other pc fresh starts =>
      rcases lookup_insert_cases found with ⟨rfl, rfl⟩ | ⟨-, earlier⟩
      · exact .inr ⟨pc, rfl, rfl⟩
      · exact .inl ⟨tx, earlier, rfl⟩
  | run other pick old moved present move =>
      rcases lookup_insert_cases found with ⟨rfl, rfl⟩ | ⟨-, earlier⟩
      · exact .inl ⟨old, present, local_call move⟩
      · exact .inl ⟨tx, earlier, rfl⟩
  | answer other reply old next env present asked answered =>
      rcases lookup_insert_cases found with ⟨rfl, rfl⟩ | ⟨-, earlier⟩
      · exact .inl ⟨old, present, answered_call asked⟩
      · exact .inl ⟨tx, earlier, rfl⟩
  | commit other old present asked => exact .inl ⟨tx, (lookup_erase_some found).2, rfl⟩
  | abort other old present => exact .inl ⟨tx, (lookup_erase_some found).2, rfl⟩
  | stimulus value env accepted => exact .inl ⟨tx, found, rfl⟩

/-- What is true of a call when it begins, and stays true, is true of every session
begun since. -/
theorem begun_holds (holds : Env → Call → Prop) {id : Nat}
    (begins : ∀ world call, Run service.machine allowed base world →
      service.starts world.env call = true → holds world.env call)
    (stays : ∀ before event after call, Run service.machine allowed base before →
      step service.machine before event = some after → holds before.env call → holds after.env call)
    (initially : ∀ tx, base.active.lookup id = some tx → holds base.env tx.pc.call)
    (run : Run service.machine allowed base world) :
    ∀ tx, world.active.lookup id = some tx → holds world.env tx.pc.call := by
  induction run with
  | refl => exact initially
  | next event run permitted stepped ih =>
      rename_i before after
      intro tx found
      have onward := stays before event after
      cases step_moves stepped with
      | begin other pc fresh starts =>
          rcases lookup_insert_cases found with ⟨rfl, rfl⟩ | ⟨_, earlier⟩
          · have parts : pc.program.isNone = true ∧ service.starts before.env pc.call = true := by
              simpa [Service.machine] using starts
            exact begins before pc.call run parts.2
          · exact ih tx earlier
      | run other pick old moved present move =>
          rcases lookup_insert_cases found with ⟨rfl, rfl⟩ | ⟨_, earlier⟩
          · rw [local_call move]
            exact ih old present
          · exact ih tx earlier
      | answer other reply old next env present asked answered =>
          rcases lookup_insert_cases found with ⟨rfl, rfl⟩ | ⟨_, earlier⟩
          · simp only [answered_call asked]
            exact onward old.pc.call run stepped (ih old present)
          · exact onward tx.pc.call run stepped (ih tx earlier)
      | commit other old present asked =>
          exact onward tx.pc.call run stepped (ih tx (lookup_erase_some found).2)
      | abort other old present =>
          exact onward tx.pc.call run stepped (ih tx (lookup_erase_some found).2)
      | stimulus value env accepted => exact onward tx.pc.call run stepped (ih tx found)

/-- A session stays where its program allows, over any step that keeps what is watched. -/
theorem underway_step {before after : World Row (Session Row Answer Error Call α) Env}
    {event : Event Key (Session Row Answer Error Call α) (Sigma Answer) Stimulus}
    (watched : Call → Prop) (apart : Exclusive before) (here : holds before.committed before.env)
    (there : holds after.committed after.env)
    (stepped : step service.machine before event = some after)
    (ends : ∀ call, watched call → ensures (watching holds) (service.reply call) (post call)
      (service.main call) before.committed before.env ∅) {id : Nat}
    (standing : ∀ tx, before.active.lookup id = some tx → watched tx.pc.call →
      service.underway (watching holds) post before.committed before.env tx) :
    ∀ tx, after.active.lookup id = some tx → watched tx.pc.call →
      service.underway (watching holds) post after.committed after.env tx := by
  intro tx found watches
  cases step_moves stepped with
  | begin other pc fresh starts =>
      rcases lookup_insert_cases found with ⟨_, rfl⟩ | ⟨_, earlier⟩
      · have parts : pc.program.isNone = true ∧ service.starts before.env pc.call = true := by
          simpa [Service.machine] using starts
        have fresh : pc.program = none := Option.isNone_iff_eq_none.mp parts.1
        simpa [Service.underway, Service.current, fresh] using ends pc.call watches
      · exact standing tx earlier watches
  | run other pick old moved present move =>
      rcases lookup_insert_cases found with ⟨rfl, rfl⟩ | ⟨_, earlier⟩
      · exact underway_moves here (standing old present (local_call move ▸ watches)) move
      · exact standing tx earlier watches
  | answer other reply old next env present asked answered =>
      rcases lookup_insert_cases found with ⟨rfl, rfl⟩ | ⟨_, earlier⟩
      · have watched : watched old.pc.call := by rwa [← answered_call asked]
        exact (underway_answer here (standing old present watched) asked answered).2.2
      · exact underway_rely (standing tx earlier watches) ⟨there, trivial, fun _ _ => rfl⟩
  | commit other old present asked =>
      obtain ⟨different, earlier⟩ := lookup_erase_some found
      exact underway_rely (standing tx earlier watches) ⟨there, trivial, fun key held =>
        commit_frame apart different present earlier held⟩
  | abort other old present =>
      obtain ⟨_, earlier⟩ := lookup_erase_some found
      exact underway_rely (standing tx earlier watches) ⟨there, trivial, fun _ _ => rfl⟩
  | stimulus value env accepted =>
      exact underway_rely (standing tx found watches) ⟨there, trivial, fun _ _ => rfl⟩

/-- A session begun after something came to stay true ends as its call does
wherever that is true. -/
theorem later_underway (watched : Call → Prop) (exclusive : Exclusive base)
    (stays : ∀ world, Run service.machine allowed base world → holds world.committed world.env)
    (ends : ∀ store env call, holds store env → watched call →
      ensures (watching holds) (service.reply call) (post call) (service.main call) store env ∅)
    {id : Nat} (absent : base.active.lookup id = none)
    (run : Run service.machine allowed base world) :
    Exclusive world ∧ ∀ tx, world.active.lookup id = some tx → watched tx.pc.call →
      service.underway (watching holds) post world.committed world.env tx := by
  induction run with
  | refl => exact ⟨exclusive, fun tx found => by simp [absent] at found⟩
  | next event run permitted stepped ih =>
      obtain ⟨apart, standing⟩ := ih
      have here := stays _ run
      have there := stays _ (.next event run permitted stepped)
      exact ⟨exclusive_moves apart (step_moves stepped), underway_step watched apart here there
        stepped (fun call watches => ends _ _ call here watches) standing⟩

/-- Whatever its statements return, the program can only end as allowed. -/
def Program.only (ends : Except Error α → Prop) : Program Row Answer Error α → Prop
  | .done result => ends (.ok result)
  | .fail error => ends (.error error)
  | .select next => ∀ view, (next view).only ends
  | .scan _ next => ∀ snapshot hits, (next snapshot hits).only ends
  | .insert _ _ next => ∀ inserted, (next inserted).only ends
  | .await _ next => ∀ value, (next value).only ends

omit [DecidableEq Key] [DecidableEq Ask] in
theorem only_bind {program : Program Row Answer Error α} {rest : α → Program Row Answer Error β}
    {ends : Except Error β → Prop} (throws : ∀ error, ends (.error error))
    (only : ∀ result, (rest result).only ends) : (program.bind rest).only ends := by
  induction program with
  | done result => exact only result
  | fail error => exact throws error
  | select next ih => exact fun view => ih view
  | scan statement next ih => exact fun snapshot hits => ih snapshot hits
  | insert key row next ih => exact fun inserted => ih inserted
  | await ask next ih => exact fun value => ih value

omit [DecidableEq Key] [DecidableEq Ask] in
theorem only_all {program : Program Row Answer Error α} {ends : Except Error α → Prop}
    (all : ∀ result, ends result) : program.only ends := by
  induction program with
  | done result => exact all _
  | fail error => exact all _
  | select next ih => exact fun view => ih view
  | scan statement next ih => exact fun snapshot hits => ih snapshot hits
  | insert key row next ih => exact fun inserted => ih inserted
  | await ask next ih => exact fun value => ih value

omit [DecidableEq Key] [DecidableEq Ask] in
theorem only_mono {program : Program Row Answer Error α} {ends weaker : Except Error α → Prop}
    (weaken : ∀ result, ends result → weaker result) (only : program.only ends) :
    program.only weaker := by
  induction program with
  | done result => exact weaken _ only
  | fail error => exact weaken _ only
  | select next ih => exact fun view => ih view (only view)
  | scan statement next ih => exact fun snapshot hits => ih snapshot hits (only snapshot hits)
  | insert key row next ih => exact fun inserted => ih inserted (only inserted)
  | await ask next ih => exact fun value => ih value (only value)

omit [DecidableEq Ask] in
/-- It ends so whatever is watched, when no answer takes that away. -/
theorem only_watching {respond : Env → (ask : Ask) → Answer ask → Option Env}
    {ends : Except Error α → Prop} {program : Program Row Answer Error α} {store : Store Row}
    {env : Env} {own : Writes Row}
    (steady : ∀ store env ask value after, holds store env → respond env ask value = some after →
      holds store after) (only : program.only ends) :
    ensures (watching holds) respond (fun result _ _ _ => ends result) program store env own := by
  induction program generalizing store env own with
  | done result => exact fun _ _ _ => only
  | fail error => exact fun _ _ _ => only
  | select next ih => exact fun store' _ _ => ih _ (only _)
  | insert key row next ih => exact fun _ _ _ => ⟨fun _ => ih _ (only _), fun _ _ => ih _ (only _)⟩
  | await ask next ih =>
      exact fun store' env' rely value after responded =>
        ⟨steady store' env' ask value after rely.holds responded, fun _ => trivial,
          ih _ (only value)⟩
  | scan statement next ih =>
      refine ⟨fun _ _ _ _ => True, ⟨?_, ?_, ?_⟩, fun _ _ _ => trivial, ?_⟩
      · intros
        trivial
      · intros
        trivial
      · intros
        trivial
      · intro progress store' env' own' _ _
        exact ih _ _ (only progress.snapshot progress.hits)

omit [DecidableEq Ask] in
theorem only_ensures {respond : Env → (ask : Ask) → Answer ask → Option Env}
    {ends : Except Error α → Prop} {program : Program Row Answer Error α} {store : Store Row}
    {env : Env} {own : Writes Row} (only : program.only ends) :
    ensures (watching fun _ _ => True) respond (fun result _ _ _ => ends result) program store env
      own :=
  only_watching (fun _ _ _ _ _ _ _ => trivial) only

/-- In any run a session ends only as its program can. -/
theorem run_only {ends : Call → Except Error α → Prop} {committed : Store Row} {env : Env}
    (only : ∀ call, (service.main call).only (ends call))
    (run : Run service.machine allowed (idle committed env) world) {id : Nat}
    {tx : Tx Row (Session Row Answer Error Call α)} (found : world.active.lookup id = some tx)
    {result : α} (current : service.current tx.pc = .done result) : ends tx.pc.call (.ok result) := by
  have standing : service.underway (watching fun _ _ => True)
      (fun call result _ _ _ => ends call result) world.committed world.env tx :=
    (later_underway (fun _ => True) (exclusive_idle committed env) (fun _ _ => trivial)
      (fun store env call _ _ => only_ensures (only call)) rfl run).2 tx found trivial
  exact underway_done trivial standing current

end Later

/-! ## Sessions that are told the truth -/

section Told
variable {Key : Type} [DecidableEq Key] {Row : Key → Type} {Ask : Type} {Answer : Ask → Type}
  {Error Call α Env Stimulus : Type} {β : Type}

/-- Whatever its statements return, and with true answers, the program can only end
as allowed. -/
def Program.onlyTold (truth : (ask : Ask) → Answer ask → Prop) (ends : Except Error α → Prop) :
    Program Row Answer Error α → Prop
  | .done result => ends (.ok result)
  | .fail error => ends (.error error)
  | .select next => ∀ view, (next view).onlyTold truth ends
  | .scan _ next => ∀ snapshot hits, (next snapshot hits).onlyTold truth ends
  | .insert _ _ next => ∀ inserted, (next inserted).onlyTold truth ends
  | .await ask next => ∀ value, truth ask value → (next value).onlyTold truth ends

variable {truth : (ask : Ask) → Answer ask → Prop}

omit [DecidableEq Key] in
theorem told_bind {program : Program Row Answer Error α} {rest : α → Program Row Answer Error β}
    {ends : Except Error β → Prop} (throws : ∀ error, ends (.error error))
    (told : ∀ result, (rest result).onlyTold truth ends) :
    (program.bind rest).onlyTold truth ends := by
  induction program with
  | done result => exact told result
  | fail error => exact throws error
  | select next ih => exact fun view => ih view
  | scan statement next ih => exact fun snapshot hits => ih snapshot hits
  | insert key row next ih => exact fun inserted => ih inserted
  | await ask next ih => exact fun value _ => ih value

variable [DecidableEq Ask] {service : Service Row Answer Error Call α Env Stimulus}
  {ends : Except Error α → Prop}

theorem local_told {store : Store Row} {taken : Key → Bool} {pick : Option Key}
    {tx moved : Tx Row (Session Row Answer Error Call α)}
    (move : LocalMove service.machine store taken tx pick moved)
    (told : (service.current tx.pc).onlyTold truth ends) :
    (service.current moved.pc).onlyTold truth ends := by
  have asked : service.machine.request tx.pc = service.request tx.pc := rfl
  unfold Service.request at asked
  cases current : service.current tx.pc with
  | done result =>
      rw [current] at asked
      exact absurd move (no_local_move (.inl asked))
  | fail error =>
      rw [current] at asked
      exact absurd move (no_local_move (.inr (.inl asked)))
  | await ask next =>
      rw [current] at asked
      exact absurd move (no_local_move (.inr (.inr ⟨_, asked⟩)))
  | select next =>
      rw [current] at asked told
      cases select_moves asked move
      exact told _
  | insert key row next =>
      rw [current] at asked told
      rcases insert_moves asked move with ⟨_, ⟨_, rfl⟩ | ⟨_, _, rfl⟩⟩ <;> exact told _
  | scan statement next =>
      have still := told
      rw [current] at asked told
      cases scan_moves asked move with
      | start | drop | take => exact still
      | finish progress => exact told _ _

omit [DecidableEq Key] in
theorem answered_told {env after : Env} {tx : Tx Row (Session Row Answer Error Call α)}
    {reply : Sigma Answer} {next : Sigma Answer → Session Row Answer Error Call α}
    (asked : service.machine.request tx.pc = .await next)
    (answered : service.machine.answered env tx.pc reply = some after)
    (true_ : truth reply.1 reply.2) (told : (service.current tx.pc).onlyTold truth ends) :
    (service.current (next reply)).onlyTold truth ends := by
  have request : service.machine.request tx.pc = service.request tx.pc := rfl
  have accepted : service.machine.answered env tx.pc reply = service.answered env tx.pc reply := rfl
  rw [asked] at request
  rw [answered] at accepted
  unfold Service.request at request
  unfold Service.answered at accepted
  cases current : service.current tx.pc with
  | await ask rest =>
      simp only [current] at request accepted
      rw [current] at told
      cases request
      split at accepted
      · rename_i same
        subst same
        simpa [Session.goOn, Service.current] using told _ true_
      · cases accepted
  | _ => simp [current] at request

/-- A session that is only told the truth ends as its program can. -/
theorem run_told {allowed : World Row (Session Row Answer Error Call α) Env →
      Event Key (Session Row Answer Error Call α) (Sigma Answer) Stimulus → Prop}
    {start world : World Row (Session Row Answer Error Call α) Env} {id : Nat}
    {ends : Call → Except Error α → Prop} (watched : Call → Prop)
    (main : ∀ call, watched call → (service.main call).onlyTold truth (ends call))
    (truthful : ∀ before after reply, Run service.machine allowed start before →
      allowed before (.answer id reply) → step service.machine before (.answer id reply) = some after →
      (∀ tx, before.active.lookup id = some tx → watched tx.pc.call) → truth reply.1 reply.2)
    (initially : ∀ tx, start.active.lookup id = some tx → watched tx.pc.call →
      (service.current tx.pc).onlyTold truth (ends tx.pc.call))
    (run : Run service.machine allowed start world) :
    ∀ tx, world.active.lookup id = some tx → watched tx.pc.call →
      (service.current tx.pc).onlyTold truth (ends tx.pc.call) := by
  induction run with
  | refl => exact initially
  | next event run permitted stepped ih =>
      rename_i before after
      intro tx found watches
      cases step_moves stepped with
      | begin other pc fresh starts =>
          rcases lookup_insert_cases found with ⟨rfl, rfl⟩ | ⟨_, earlier⟩
          · have parts : pc.program.isNone = true ∧ service.starts before.env pc.call = true := by
              simpa [Service.machine] using starts
            have fresh : pc.program = none := Option.isNone_iff_eq_none.mp parts.1
            simpa [Service.current, fresh] using main pc.call watches
          · exact ih tx earlier watches
      | run other pick old moved present move =>
          rcases lookup_insert_cases found with ⟨rfl, rfl⟩ | ⟨_, earlier⟩
          · have call := local_call move
            rw [call] at watches ⊢
            exact local_told move (ih old present watches)
          · exact ih tx earlier watches
      | answer other reply old next env present asked answered =>
          rcases lookup_insert_cases found with ⟨rfl, rfl⟩ | ⟨_, earlier⟩
          · have call : (next reply).call = old.pc.call := answered_call asked
            simp only [call] at watches ⊢
            apply answered_told asked answered _ (ih old present watches)
            apply truthful _ _ reply run permitted stepped
            intro other also
            cases present.symm.trans also
            exact watches
          · exact ih tx earlier watches
      | commit other old present asked => exact ih tx (lookup_erase_some found).2 watches
      | abort other old present => exact ih tx (lookup_erase_some found).2 watches
      | stimulus value env accepted => exact ih tx found watches

end Told

end Foc.Library.Transaction
