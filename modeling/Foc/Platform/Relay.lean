import Foc.Platform.Outbox

/-!
What each transaction of the outbox knows about the rows it holds. A producer
holds the lock of every aggregate it has appended to, so its events come after
all that are committed. A relay claims rows whose predecessors were confirmed,
one for each aggregate, and marks a row once its publish is confirmed.
-/
namespace Foc.Outbox
open Library.ReadCommitted

abbrev Own := Writes RowOf

abbrev System := World RowOf Pc Env

def ownEvent (own : Own) (event : Event) : Option (Option OutboxRow) :=
  own.lookup (Key.event event)

def ownAggregate (own : Own) (id : AggregateId) : Option (Option Unit) :=
  own.lookup (Key.aggregate id)

structure Event.Before (earlier later : Event) : Prop where
  sameAggregate : earlier.aggregateId = later.aggregateId
  written : earlier.seq < later.seq

/-- A publish of the event was confirmed. -/
def Confirmed (env : Env) (event : Event) : Prop :=
  ∃ send sent, (send, Outcome.confirmed) ∈ env.outcomes ∧ env.sends[send]? = some sent ∧
    sent.event = event

/-- The event is committed, and whatever its aggregate wrote before it is confirmed. -/
structure Cleared (env : Env) (event : Event) : Prop where
  appended : event ∈ env.appended
  earlier : ∀ earlier, earlier ∈ env.appended → earlier.Before event → Confirmed env earlier

/-- A publish after which the claim goes on to its next row. -/
def Attempt.Passes (attempt : Attempt) : Prop :=
  attempt.outcome = some .confirmed ∨ attempt.outcome = some .unroutable

def Claim.sends (claim : Claim) : List Nat := claim.attempts.filterMap Attempt.send

/-- Only the last of the attempts may have stopped the claim. -/
def Claim.Unhalted (claim : Claim) : Prop :=
  ∀ before attempt after, claim.attempts = before ++ attempt :: after → after ≠ [] →
    attempt.Passes

/-! ## Assertions -/

/-- The transaction has inserted `done`, and holds their aggregates. -/
structure Producing (env : Env) (own : Own) (done : List Event) : Prop where
  only : ∀ event value, ownEvent own event = some value → event ∈ done
  fresh : ∀ event, event ∈ done → ∃ row, ownEvent own event = some (some row) ∧
    row.publishedAt = none
  locked : ∀ event, event ∈ done → ownAggregate own event.aggregateId ≠ none
  numbered : ∀ event, event ∈ done → event.seq < env.nextSeq
  later : ∀ event known, event ∈ done → known ∈ env.appended →
    known.aggregateId = event.aggregateId → known.seq < event.seq

/-- The transaction has the number of its next event. -/
structure Numbered (env : Env) (own : Own) (event : Event) (done : List Event) : Prop where
  producing : Producing env own done
  locked : ownAggregate own event.aggregateId ≠ none
  numbered : event.seq < env.nextSeq
  later : ∀ known, known ∈ env.appended → known.aggregateId = event.aggregateId →
    known.seq < event.seq

/-- A row locked and not written: unpublished, with nothing before it. -/
structure Waiting (rows : Rows) (env : Env) (own : Own) (event : Event) : Prop where
  row : ∃ row, ownEvent own event = some (some row) ∧ eventRow rows event = some row ∧
    row.publishedAt = none
  cleared : Cleared env event

structure Claiming (rows : Rows) (env : Env) (own : Own) (found : Progress RowOf) : Prop where
  pending : ∀ key, key ∈ found.remaining → ∃ event, key = .event event ∧ Cleared env event
  free : ∀ id, ownAggregate own id = none
  held : ∀ event, ownEvent own event ≠ none → event ∈ hitEvents found.hits
  waiting : ∀ event, event ∈ hitEvents found.hits → Waiting rows env own event
  apart : ∀ first second, Key.event first ∈ found.remaining ∨ first ∈ hitEvents found.hits →
    Key.event second ∈ found.remaining ∨ second ∈ hitEvents found.hits →
    first.aggregateId = second.aggregateId → first = second
  distinct : (hitEvents found.hits).Nodup
  gone : ∀ event, event ∈ hitEvents found.hits → Key.event event ∉ found.remaining

/-- What a relay knows of an attempt: it holds the row, and what it was told of the
message is all there is. -/
structure Tried (env : Env) (own : Own) (attempt : Attempt) : Prop where
  held : ownEvent own attempt.event ≠ none
  sent : attempt.Passes → attempt.send ≠ none
  logged : ∀ send, attempt.send = some send →
    env.sends[send]? = some { event := attempt.event, stray := false }
  told : ∀ send, attempt.send = some send → ∃ outcome, (send, outcome) ∈ env.outcomes
  agrees : ∀ send outcome, attempt.send = some send → (send, outcome) ∈ env.outcomes →
    attempt.outcome = some outcome

structure Holding (rows : Rows) (env : Env) (own : Own) (claim : Claim) (rest : List Event) :
    Prop where
  apart : (claim.rows.map Event.aggregateId).Nodup
  uncommitted : claim.committed = false
  turns : claim.attempts.map Attempt.event ++ rest = claim.rows
  unhalted : claim.Unhalted
  waiting : ∀ event, event ∈ rest → Waiting rows env own event
  tried : ∀ attempt, attempt ∈ claim.attempts → Tried env own attempt
  free : ∀ id, ownAggregate own id = none
  writes : ∀ event value, ownEvent own event = some value → ∃ row old, value = some row ∧
    (row.publishedAt ≠ none → Confirmed env event) ∧ eventRow rows event = some old ∧
    old.publishedAt = none

/-- The rows of confirmed attempts are marked, but for the one being marked. -/
def Marked (own : Own) (claim : Claim) (pending : Option Event) : Prop :=
  ∀ attempt, attempt ∈ claim.attempts → attempt.outcome = some .confirmed →
    pending ≠ some attempt.event →
    ∃ row, ownEvent own attempt.event = some (some row) ∧ row.publishedAt ≠ none

def Claim.Passes (claim : Claim) : Prop :=
  ∀ attempt, attempt ∈ claim.attempts → attempt.Passes

/-- The message is out, nothing is known of it, and nobody has sent the event since. -/
structure Sending (env : Env) (send : Nat) (event : Event) : Prop where
  logged : env.sends[send]? = some { event, stray := false }
  untold : ∀ outcome, (send, outcome) ∉ env.outcomes
  last : ∀ later sent, send < later → env.sends[later]? = some sent → sent.event = event →
    sent.stray = true

structure Deleting (rows : Rows) (own : Own) : Prop where
  free : ∀ id, ownAggregate own id = none
  writes : ∀ event value, ownEvent own event = some value → value = none ∧
    ∃ old, eventRow rows event = some old ∧ old.publishedAt ≠ none

/-- An update under way has yet to take the row, or has written it. -/
def Updating (own : Own) (event : Event) (progress : Option (Progress RowOf)) : Prop :=
  ∀ found, progress = some found → Key.event event ∈ found.remaining ∨
    ∃ row, ownEvent own event = some (some row) ∧ row.publishedAt ≠ none

structure Publishing (rows : Rows) (env : Env) (tx : Tx RowOf Pc) (claim : Claim)
    (rest : List Event) : Prop where
  holding : Holding rows env tx.own claim rest
  passes : claim.Passes
  marked : Marked tx.own claim none
  idle : tx.progress = none

structure Failing (rows : Rows) (env : Env) (own : Own) (claim : Claim) (event : Event)
    (rest : List Event) (halts : Bool) : Prop where
  holding : Holding rows env own claim rest
  passes : halts = false → claim.Passes
  stops : halts = true → ¬ claim.Passes
  marked : Marked own claim none
  tried : ∃ attempt, attempt ∈ claim.attempts ∧ attempt.event = event
  failed : ∀ attempt, attempt ∈ claim.attempts → attempt.outcome = some .confirmed →
    attempt.event ≠ event

structure Marking (rows : Rows) (env : Env) (tx : Tx RowOf Pc) (claim : Claim) (event : Event)
    (rest : List Event) : Prop where
  holding : Holding rows env tx.own claim rest
  passes : claim.Passes
  marked : Marked tx.own claim (some event)
  tried : ∃ attempt, attempt ∈ claim.attempts ∧ attempt.event = event
  confirmed : Confirmed env event
  updating : Updating tx.own event tx.progress

def AssertedAt (rows : Rows) (env : Env) (tx : Tx RowOf Pc) : Prop :=
  match tx.pc with
  | .append _ _ done => Producing env tx.own done
  | .lockAggregate _ id _ done => Producing env tx.own done ∧
      ∀ found, tx.progress = some found → found.hits ≠ [] → ownAggregate tx.own id ≠ none
  | .nextSeq _ id _ done => Producing env tx.own done ∧ ownAggregate tx.own id ≠ none
  | .insertOutboxEvent _ event _ done => Numbered env tx.own event done
  | .claim _ _ =>
      match tx.progress with
      | none => ∀ key, tx.own.lookup key = none
      | some found => Claiming rows env tx.own found
  | .publish _ claim rest => Publishing rows env tx claim rest
  | .confirm _ claim send event rest =>
      Publishing rows env tx claim (event :: rest) ∧ Sending env send event
  | .recordFailure _ claim event rest halts => Failing rows env tx.own claim event rest halts
  | .markPublished _ claim event rest => Marking rows env tx claim event rest
  | .halted claim => ¬ claim.Passes ∧
      ∃ rest, Holding rows env tx.own claim rest ∧ Marked tx.own claim none
  | .prune _ _ => Deleting rows tx.own
  | .pruned => Deleting rows tx.own
  | .failed => True

/-! ## What others may do -/

/-- Rows a transaction holds stay; the logs only grow; what is appended comes after
what is there and concerns aggregates it does not hold, and what is learnt concerns
events it does not hold. -/
structure Grown (own : Own) (rows after : Rows) (env later : Env) : Prop where
  rows : ∀ event, ownEvent own event ≠ none → eventRow after event = eventRow rows event
  nextSeq : env.nextSeq ≤ later.nextSeq
  appended : ∀ event, event ∈ env.appended → event ∈ later.appended
  appends : ∀ event, event ∈ later.appended → event ∈ env.appended ∨
    ownAggregate own event.aggregateId = none ∧ ∀ known, known ∈ env.appended →
      known.aggregateId = event.aggregateId → known.seq < event.seq
  sends : ∀ (send : Nat) (sent : Sent), env.sends[send]? = some sent →
    later.sends[send]? = some sent
  outcomes : ∀ entry, entry ∈ env.outcomes → entry ∈ later.outcomes
  learns : ∀ (send : Nat) (outcome : Outcome), (send, outcome) ∈ later.outcomes →
    (send, outcome) ∈ env.outcomes ∨
      ∃ sent : Sent, env.sends[send]? = some sent ∧ ownEvent own sent.event = none

/-- Besides, what is sent is not held, or stray. -/
structure Undisturbed (own : Own) (rows after : Rows) (env later : Env) : Prop
    extends Grown own rows after env later where
  sending : ∀ (send : Nat) (sent : Sent), later.sends[send]? = some sent →
    env.sends[send]? = some sent ∨ sent.stray = true ∨ ownEvent own sent.event = none

section Stable

variable {own : Own} {rows after : Rows} {env later : Env}

theorem confirmed_stable {event : Event} (grown : Grown own rows after env later)
    (confirmed : Confirmed env event) : Confirmed later event := by
  obtain ⟨send, sent, outcome, logged, same⟩ := confirmed
  exact ⟨send, sent, grown.outcomes _ outcome, grown.sends send sent logged, same⟩

/-- An event appended later is not before one that is there. -/
theorem cleared_stable {event : Event} (grown : Grown own rows after env later)
    (cleared : Cleared env event) : Cleared later event := by
  constructor
  · exact grown.appended event cleared.appended
  · intro earlier member before
    rcases grown.appends earlier member with known | ⟨_, follows⟩
    · exact confirmed_stable grown (cleared.earlier earlier known before)
    · have after := follows event cleared.appended before.sameAggregate.symm
      have written := before.written
      omega

theorem producing_stable {done : List Event} (grown : Grown own rows after env later)
    (producing : Producing env own done) : Producing later own done := by
  refine { producing with numbered := ?_, later := ?_ }
  · intro event member
    exact Nat.lt_of_lt_of_le (producing.numbered event member) grown.nextSeq
  · intro event known member appended same
    rcases grown.appends known appended with old | ⟨free, _⟩
    · exact producing.later event known member old same
    · rw [same] at free
      exact absurd free (producing.locked event member)

theorem numbered_stable {event : Event} {done : List Event}
    (grown : Grown own rows after env later)
    (numbered : Numbered env own event done) : Numbered later own event done := by
  refine ⟨producing_stable grown numbered.producing, numbered.locked,
    Nat.lt_of_lt_of_le numbered.numbered grown.nextSeq, ?_⟩
  intro known appended same
  rcases grown.appends known appended with old | ⟨free, _⟩
  · exact numbered.later known old same
  · rw [same] at free
    exact absurd free numbered.locked

theorem waiting_stable {event : Event} (grown : Grown own rows after env later)
    (waiting : Waiting rows env own event) : Waiting after later own event := by
  obtain ⟨⟨row, held, found, unpublished⟩, cleared⟩ := waiting
  refine ⟨⟨row, held, ?_, unpublished⟩, cleared_stable grown cleared⟩
  rw [grown.rows event (by rw [held]; exact Option.some_ne_none _)]
  exact found

theorem claiming_stable {found : Progress RowOf} (grown : Grown own rows after env later)
    (claiming : Claiming rows env own found) : Claiming after later own found := by
  refine { claiming with pending := ?_, waiting := ?_ }
  · intro key member
    obtain ⟨event, same, cleared⟩ := claiming.pending key member
    exact ⟨event, same, cleared_stable grown cleared⟩
  · intro event member
    exact waiting_stable grown (claiming.waiting event member)

/-- Nobody learns anything of a message about a row this transaction holds. -/
theorem learns_nothing {send : Nat} {sent : Sent} {outcome : Outcome}
    (grown : Grown own rows after env later)
    (logged : env.sends[send]? = some sent) (held : ownEvent own sent.event ≠ none)
    (learnt : (send, outcome) ∈ later.outcomes) : (send, outcome) ∈ env.outcomes := by
  rcases grown.learns send outcome learnt with known | ⟨other, present, free⟩
  · exact known
  · cases Option.some.inj (logged.symm.trans present)
    exact absurd free held

theorem tried_stable {attempt : Attempt} (grown : Grown own rows after env later)
    (tried : Tried env own attempt) : Tried later own attempt := by
  refine { tried with logged := ?_, told := ?_, agrees := ?_ }
  · intro send sent
    exact grown.sends send _ (tried.logged send sent)
  · intro send sent
    obtain ⟨outcome, known⟩ := tried.told send sent
    exact ⟨outcome, grown.outcomes _ known⟩
  · intro send outcome sent learnt
    exact tried.agrees send outcome sent
      (learns_nothing grown (tried.logged send sent) tried.held learnt)

theorem holding_stable {claim : Claim} {rest : List Event}
    (grown : Grown own rows after env later)
    (holding : Holding rows env own claim rest) : Holding after later own claim rest := by
  refine { holding with waiting := ?_, tried := ?_, writes := ?_ }
  · intro event member
    exact waiting_stable grown (holding.waiting event member)
  · intro attempt member
    exact tried_stable grown (holding.tried attempt member)
  · intro event value written
    obtain ⟨row, old, same, confirmed, found, unpublished⟩ := holding.writes event value written
    refine ⟨row, old, same, fun marked => confirmed_stable grown (confirmed marked), ?_,
      unpublished⟩
    rw [grown.rows event (by rw [written]; exact Option.some_ne_none _)]
    exact found

theorem publishing_stable {tx : Tx RowOf Pc} {claim : Claim} {rest : List Event}
    (grown : Grown tx.own rows after env later) (publishing : Publishing rows env tx claim rest) :
    Publishing after later tx claim rest :=
  { publishing with holding := holding_stable grown publishing.holding }

theorem sending_stable {send : Nat} {event : Event}
    (undisturbed : Undisturbed own rows after env later) (held : ownEvent own event ≠ none)
    (sending : Sending env send event) : Sending later send event := by
  constructor
  · exact undisturbed.sends send _ sending.logged
  · intro outcome learnt
    exact sending.untold outcome (learns_nothing undisturbed.toGrown sending.logged held learnt)
  · intro other sent after logged same
    rcases undisturbed.sending other sent logged with known | stray | free
    · exact sending.last other sent after known same
    · exact stray
    · rw [same] at free
      exact absurd free held

theorem deleting_stable (grown : Grown own rows after env later)
    (deleting : Deleting rows own) : Deleting after own := by
  refine { deleting with writes := ?_ }
  intro event value written
  rw [grown.rows event (by rw [written]; exact Option.some_ne_none _)]
  exact deleting.writes event value written

theorem asserted_stable {tx : Tx RowOf Pc} (undisturbed : Undisturbed tx.own rows after env later)
    (assertedAt : AssertedAt rows env tx) : AssertedAt after later tx := by
  have grown := undisturbed.toGrown
  obtain ⟨pc, own, progress⟩ := tx
  cases pc with
  | append => exact producing_stable grown assertedAt
  | lockAggregate => exact ⟨producing_stable grown assertedAt.1, assertedAt.2⟩
  | nextSeq => exact ⟨producing_stable grown assertedAt.1, assertedAt.2⟩
  | insertOutboxEvent => exact numbered_stable grown assertedAt
  | claim =>
      cases progress with
      | none => exact assertedAt
      | some found => exact claiming_stable grown assertedAt
  | publish => exact publishing_stable grown assertedAt
  | confirm now claim send event rest =>
      obtain ⟨publishing, sending⟩ := assertedAt
      obtain ⟨⟨row, held, _⟩, _⟩ := publishing.holding.waiting event List.mem_cons_self
      refine ⟨publishing_stable grown publishing, sending_stable undisturbed ?_ sending⟩
      dsimp only at held
      rw [held]
      exact Option.some_ne_none _
  | recordFailure now claim event rest halts =>
      have failing : Failing rows env own claim event rest halts := assertedAt
      exact { failing with holding := holding_stable grown failing.holding }
  | markPublished now claim event rest =>
      have marking : Marking rows env
        { pc := .markPublished now claim event rest, own, progress } claim event rest := assertedAt
      exact
        { marking with
          holding := holding_stable grown marking.holding
          confirmed := confirmed_stable grown marking.confirmed }
  | halted =>
      obtain ⟨fails, rest, holding, marked⟩ := assertedAt
      exact ⟨fails, rest, holding_stable grown holding, marked⟩
  | prune => exact deleting_stable grown assertedAt
  | pruned => exact deleting_stable grown assertedAt
  | failed => trivial

end Stable

/-! ## What a transaction does itself -/

section Moves

variable {settings : Settings} {own : Own} {rows : Rows} {env : Env} {taken : Key → Bool}
  {pick : Option Key}

theorem event_insert (own : Own) (event : Event) (value : Option OutboxRow) :
    ownEvent (own.insert (Key.event event) value) event = some value :=
  AList.lookup_insert own

theorem event_insert_other (own : Own) {event : Event} (key : Key) (value : Option (RowOf key))
    (different : Key.event event ≠ key) :
    ownEvent (own.insert key value) event = ownEvent own event :=
  AList.lookup_insert_ne different

theorem aggregate_insert (own : Own) (id : AggregateId) (value : Option Unit) :
    ownAggregate (own.insert (Key.aggregate id) value) id = some value :=
  AList.lookup_insert own

theorem aggregate_insert_other (own : Own) {id : AggregateId} (key : Key)
    (value : Option (RowOf key)) (different : Key.aggregate id ≠ key) :
    ownAggregate (own.insert key value) id = ownAggregate own id :=
  AList.lookup_insert_ne different

theorem event_overlay (rows : Rows) (own : Own) (event : Event) :
    eventRow (overlay rows own) event = (ownEvent own event).getD (eventRow rows event) :=
  lookup_overlay rows own (Key.event event)

theorem aggregate_locked (own : Own) (id other : AggregateId) (value : Option Unit)
    (held : ownAggregate own other ≠ none) :
    ownAggregate (own.insert (Key.aggregate id) value) other ≠ none := by
  by_cases same : other = id
  · subst same
    rw [aggregate_insert]
    exact Option.some_ne_none _
  · rwa [aggregate_insert_other own _ _ (by simpa using same)]

theorem producing_lock {done : List Event} (id : AggregateId) (value : Option Unit)
    (producing : Producing env own done) :
    Producing env (own.insert (Key.aggregate id) value) done := by
  refine { producing with only := ?_, fresh := ?_, locked := ?_ }
  · intro event written held
    exact producing.only event written
      ((event_insert_other own _ _ (by simp)).symm.trans held)
  · intro event member
    rw [event_insert_other own _ _ (by simp)]
    exact producing.fresh event member
  · intro event member
    exact aggregate_locked own id _ value (producing.locked event member)

theorem append_moves {now : Int} {id : AggregateId} {todo : List AggregateId} {done : List Event}
    {progress : Option (Progress RowOf)} {moved : Tx RowOf Pc} (producing : Producing env own done)
    (move : LocalMove (outbox settings) rows taken
      { pc := .append now (id :: todo) done, own, progress } pick moved) :
    AssertedAt rows env moved := by
  obtain ⟨free, ⟨absent, rfl⟩ | ⟨old, present, rfl⟩⟩ := insert_moves rfl move
  · refine ⟨producing_lock id (some ()) producing, ?_⟩
    rw [aggregate_insert]
    exact Option.some_ne_none _
  · exact ⟨producing, fun found underway => nomatch underway⟩

theorem lock_aggregate_moves {now : Int} {id : AggregateId} {todo : List AggregateId}
    {done : List Event} {progress : Option (Progress RowOf)} {moved : Tx RowOf Pc}
    (producing : Producing env own done)
    (locked : ∀ found, progress = some found → found.hits ≠ [] → ownAggregate own id ≠ none)
    (move : LocalMove (outbox settings) rows taken
      { pc := .lockAggregate now id todo done, own, progress } pick moved) :
    AssertedAt rows env moved := by
  cases scan_moves rfl move with
  | start idle =>
      refine ⟨producing, ?_⟩
      intro found underway hits
      cases underway
      exact absurd rfl hits
  | drop found key underway picked member cause =>
      refine ⟨producing, ?_⟩
      intro after stored hits
      cases stored
      exact locked found underway hits
  | take found key row underway picked member free present wanted =>
      have isAggregate := of_decide_eq_true wanted
      subst isAggregate
      refine ⟨producing_lock id (some row) producing, ?_⟩
      intro after stored hits
      dsimp only [locking]
      rw [aggregate_insert]
      exact Option.some_ne_none _
  | finish found underway done =>
      dsimp only [locking]
      cases hits : found.hits with
      | nil => trivial
      | cons hit rest =>
          refine ⟨producing, locked found underway ?_⟩
          rw [hits]
          exact List.cons_ne_nil _ _

theorem insert_event_moves {now : Int} {event : Event} {todo : List AggregateId}
    {done : List Event} {progress : Option (Progress RowOf)} {moved : Tx RowOf Pc}
    (numbered : Numbered env own event done)
    (move : LocalMove (outbox settings) rows taken
      { pc := .insertOutboxEvent now event todo done, own, progress } pick moved) :
    AssertedAt rows env moved := by
  obtain ⟨free, ⟨absent, rfl⟩ | ⟨old, present, rfl⟩⟩ := insert_moves rfl move
  · have producing := numbered.producing
    have aggregates : ∀ (value : Option OutboxRow) id,
        ownAggregate (own.insert (Key.event event) value) id = ownAggregate own id :=
      fun value id => aggregate_insert_other own _ _ (by simp)
    constructor
    · intro other value held
      by_cases same : other = event
      · exact List.mem_append_right _ (List.mem_singleton.mpr same)
      · rw [event_insert_other own _ _ (by simpa using same)] at held
        exact List.mem_append_left _ (producing.only other value held)
    · intro other member
      by_cases same : other = event
      · subst same
        rw [event_insert]
        exact ⟨_, rfl, rfl⟩
      · rw [event_insert_other own _ _ (by simpa using same)]
        rcases List.mem_append.mp member with before | new
        · exact producing.fresh other before
        · exact absurd (List.mem_singleton.mp new) same
    · intro other member
      dsimp only
      rw [aggregates]
      rcases List.mem_append.mp member with before | new
      · exact producing.locked other before
      · rw [List.mem_singleton.mp new]
        exact numbered.locked
    · intro other member
      rcases List.mem_append.mp member with before | new
      · exact producing.numbered other before
      · rw [List.mem_singleton.mp new]
        exact numbered.numbered
    · intro other known member appended same
      rcases List.mem_append.mp member with before | new
      · exact producing.later other known before appended same
      · rw [List.mem_singleton.mp new] at same ⊢
        exact numbered.later known appended same
  · trivial

/-- What the claim's statement says of a row it starts with. -/
theorem claim_cleared {now : Int} {event : Event} {row : OutboxRow}
    (stored : ∀ event, event ∈ env.appended → Confirmed env event ∨
      ∃ row, eventRow rows event = some row ∧ row.publishedAt = none)
    (known : ∀ event row, eventRow rows event = some row → event ∈ env.appended)
    (found : eventRow rows event = some row)
    (wanted : claimWhere now rows (.event event) row = true) : Cleared env event := by
  constructor
  · exact known event row found
  · intro earlier member before
    rcases stored earlier member with confirmed | ⟨old, present, unpublished⟩
    · exact confirmed
    · simp only [claimWhere, Bool.and_eq_true, Bool.not_eq_true'] at wanted
      have nothing := List.any_eq_false.mp wanted.2 ⟨.event earlier, old⟩
        (AList.mem_lookup_iff.mp present)
      simp [unpublished, before.sameAggregate, before.written] at nothing

/-- Of two rows of one aggregate only the first qualifies. -/
theorem claim_apart {now : Int} {snapshot : Rows} {first second : Event}
    {firstRow secondRow : OutboxRow} (foundFirst : eventRow snapshot first = some firstRow)
    (foundSecond : eventRow snapshot second = some secondRow)
    (wantedFirst : claimWhere now snapshot (.event first) firstRow = true)
    (wantedSecond : claimWhere now snapshot (.event second) secondRow = true)
    (same : first.aggregateId = second.aggregateId) : first = second := by
  simp only [claimWhere, Bool.and_eq_true, Bool.not_eq_true', Option.isNone_iff_eq_none]
    at wantedFirst wantedSecond
  have noneBeforeFirst := List.any_eq_false.mp wantedFirst.2 ⟨.event second, secondRow⟩
    (AList.mem_lookup_iff.mp foundSecond)
  have noneBeforeSecond := List.any_eq_false.mp wantedSecond.2 ⟨.event first, firstRow⟩
    (AList.mem_lookup_iff.mp foundFirst)
  have notAfter : first.seq ≤ second.seq := by
    simpa [same, wantedSecond.1.1] using noneBeforeFirst
  have notBefore : second.seq ≤ first.seq := by
    simpa [same, wantedFirst.1.1] using noneBeforeSecond
  obtain ⟨firstAggregate, firstSeq⟩ := first
  obtain ⟨secondAggregate, secondSeq⟩ := second
  cases same
  cases Nat.le_antisymm notAfter notBefore
  rfl

theorem claim_start {now : Int} {batchSize : Nat}
    (stored : ∀ event, event ∈ env.appended → Confirmed env event ∨
      ∃ row, eventRow rows event = some row ∧ row.publishedAt = none)
    (known : ∀ event row, eventRow rows event = some row → event ∈ env.appended)
    (blank : ∀ key, own.lookup key = none) :
    Claiming rows env own ((claiming now batchSize).begin (overlay rows own)) := by
  have view : ∀ event, eventRow (overlay rows own) event = eventRow rows event := by
    intro event
    rw [event_overlay, show ownEvent own event = none from blank _, Option.getD_none]
  have sameView : ∀ event row, claimWhere now (overlay rows own) (.event event) row = true →
      claimWhere now rows (.event event) row = true := by
    intro event row wanted
    simp only [claimWhere, Bool.and_eq_true, Bool.not_eq_true'] at wanted ⊢
    refine ⟨wanted.1, ?_⟩
    simp only [earlierUnpublished, List.any_eq_false] at wanted ⊢
    rintro ⟨key, earlierRow⟩ member
    cases key with
    | aggregate id => simp
    | event earlier =>
        have present : eventRow rows earlier = some earlierRow := AList.mem_lookup_iff.mpr member
        rw [← view earlier] at present
        exact wanted.2 ⟨.event earlier, earlierRow⟩ (AList.mem_lookup_iff.mp present)
  constructor
  · intro key member
    obtain ⟨row, found, wanted⟩ := mem_candidates.mp member
    cases key with
    | aggregate id => exact nomatch wanted
    | event event =>
        refine ⟨event, rfl, claim_cleared stored known ?_ (sameView event row wanted)⟩
        exact (view event).symm.trans found
  · intro id
    exact blank _
  · intro event held
    exact absurd (blank _) held
  · intro event member
    exact absurd member List.not_mem_nil
  · rintro first second (pendingFirst | hit) (pendingSecond | hit') same
    · obtain ⟨firstRow, foundFirst, wantedFirst⟩ := mem_candidates.mp pendingFirst
      obtain ⟨secondRow, foundSecond, wantedSecond⟩ := mem_candidates.mp pendingSecond
      exact claim_apart foundFirst foundSecond wantedFirst wantedSecond same
    · exact absurd hit' List.not_mem_nil
    · exact absurd hit List.not_mem_nil
    · exact absurd hit List.not_mem_nil
  · exact List.nodup_nil
  · intro event member
    exact absurd member List.not_mem_nil

theorem hit_events_snoc (hits : List (Sigma RowOf)) (event : Event) (row : OutboxRow) :
    hitEvents (hits ++ [⟨Key.event event, row⟩]) = hitEvents hits ++ [event] := by
  simp [hitEvents, eventOf]

theorem claim_take {found : Progress RowOf} {event : Event} {row : OutboxRow} {now : Int}
    (claiming : Claiming rows env own found) (member : Key.event event ∈ found.remaining)
    (present : eventRow (overlay rows own) event = some row)
    (wanted : claimWhere now found.snapshot (.event event) row = true) :
    Claiming rows env (own.insert (Key.event event) (some row))
      (found.take (Key.event event) row) := by
  have new : event ∉ hitEvents found.hits := fun hit => claiming.gone event hit member
  have hits : hitEvents (found.take (Key.event event) row).hits =
      hitEvents found.hits ++ [event] := hit_events_snoc found.hits event row
  have unheld : ownEvent own event = none := by
    by_contra held
    exact new (claiming.held event held)
  have stored : eventRow rows event = some row := by
    rw [event_overlay, unheld, Option.getD_none] at present
    exact present
  have pool : ∀ other, Key.event other ∈ (found.take (Key.event event) row).remaining ∨
      other ∈ hitEvents (found.take (Key.event event) row).hits →
      Key.event other ∈ found.remaining ∨ other ∈ hitEvents found.hits := by
    intro other source
    rw [hits, List.mem_append, List.mem_singleton] at source
    rcases source with pending | hit | rfl
    · exact .inl (mem_drop.mp pending).1
    · exact .inr hit
    · exact .inl member
  obtain ⟨same, sameEvent, cleared⟩ := claiming.pending _ member
  cases sameEvent
  constructor
  · intro key pending
    exact claiming.pending key (mem_drop.mp pending).1
  · intro id
    exact (aggregate_insert_other own _ _ (by simp)).trans (claiming.free id)
  · intro other held
    rw [hits, List.mem_append, List.mem_singleton]
    by_cases isNew : other = event
    · exact .inr isNew
    · rw [event_insert_other own _ _ (by simpa using isNew)] at held
      exact .inl (claiming.held other held)
  · intro other hit
    rw [hits, List.mem_append, List.mem_singleton] at hit
    by_cases isNew : other = event
    · subst isNew
      simp only [claimWhere, Bool.and_eq_true, Option.isNone_iff_eq_none] at wanted
      exact ⟨⟨row, event_insert own other _, stored, wanted.1.1⟩, cleared⟩
    · rcases hit with hit | hit
      · obtain ⟨⟨old, held, before, unpublished⟩, clear⟩ := claiming.waiting other hit
        refine ⟨⟨old, ?_, before, unpublished⟩, clear⟩
        rwa [event_insert_other own _ _ (by simpa using isNew)]
      · exact absurd hit isNew
  · intro first second inFirst inSecond
    exact claiming.apart first second (pool first inFirst) (pool second inSecond)
  · rw [hits, List.nodup_append]
    refine ⟨claiming.distinct, List.nodup_singleton _, ?_⟩
    rintro other hit last isLast rfl
    exact new (List.mem_singleton.mp isLast ▸ hit)
  · intro other hit pending
    rw [hits, List.mem_append, List.mem_singleton] at hit
    obtain ⟨before, different⟩ := mem_drop.mp pending
    rcases hit with hit | rfl
    · exact claiming.gone other hit before
    · exact different rfl

theorem claim_finish {found : Progress RowOf} (claiming : Claiming rows env own found) (now : Int) :
    Publishing rows env
      { pc := .publish now { rows := hitEvents found.hits, attempts := [], committed := false }
          (hitEvents found.hits)
        own, progress := none }
      { rows := hitEvents found.hits, attempts := [], committed := false }
      (hitEvents found.hits) := by
  constructor
  · constructor
    · refine List.Nodup.map_on ?_ claiming.distinct
      intro first inFirst second inSecond same
      exact claiming.apart first second (.inr inFirst) (.inr inSecond) same
    · rfl
    · rfl
    · intro before attempt after split
      exact absurd split (by simp)
    · exact claiming.waiting
    · intro attempt member
      exact absurd member List.not_mem_nil
    · exact claiming.free
    · intro event value written
      have hit := claiming.held event (by rw [written]; exact Option.some_ne_none _)
      obtain ⟨⟨row, held, stored, unpublished⟩, _⟩ := claiming.waiting event hit
      exact ⟨row, row, Option.some.inj (written.symm.trans held),
        fun published => absurd unpublished published, stored, unpublished⟩
  · intro attempt member
    exact absurd member List.not_mem_nil
  · intro attempt member
    exact absurd member List.not_mem_nil
  · rfl

theorem claim_moves {now : Int} {batchSize : Nat} {progress : Option (Progress RowOf)}
    {moved : Tx RowOf Pc}
    (stored : ∀ event, event ∈ env.appended → Confirmed env event ∨
      ∃ row, eventRow rows event = some row ∧ row.publishedAt = none)
    (known : ∀ event row, eventRow rows event = some row → event ∈ env.appended)
    (assertedAt : AssertedAt rows env { pc := .claim now batchSize, own, progress })
    (move : LocalMove (outbox settings) rows taken
      { pc := .claim now batchSize, own, progress } pick moved) :
    AssertedAt rows env moved := by
  cases scan_moves rfl move with
  | start idle =>
      cases idle
      exact claim_start stored known assertedAt
  | drop found key underway picked member cause =>
      cases underway
      have claiming : Claiming rows env own found := assertedAt
      have fewer : ∀ event, Key.event event ∈ (found.drop key).remaining →
          Key.event event ∈ found.remaining := fun event pending => (mem_drop.mp pending).1
      refine { claiming with pending := ?_, apart := ?_, gone := ?_ }
      · intro other pending
        exact claiming.pending other (mem_drop.mp pending).1
      · intro first second inFirst inSecond
        exact claiming.apart first second (inFirst.imp_left (fewer first))
          (inSecond.imp_left (fewer second))
      · intro event hit pending
        exact claiming.gone event hit (fewer event pending)
  | take found key row underway picked member free present wanted =>
      cases underway
      have claiming : Claiming rows env own found := assertedAt
      obtain ⟨event, rfl, _⟩ := claiming.pending key member
      exact claim_take claiming member present wanted
  | finish found underway done =>
      cases underway
      exact claim_finish assertedAt now

theorem rows_nodup {claim : Claim} {rest : List Event} (holding : Holding rows env own claim rest) :
    (claim.attempts.map Attempt.event ++ rest).Nodup := by
  rw [holding.turns]
  exact List.Nodup.of_map Event.aggregateId holding.apart

theorem tried_not_waiting {claim : Claim} {rest : List Event} {event : Event}
    (holding : Holding rows env own claim rest)
    (tried : ∃ attempt, attempt ∈ claim.attempts ∧ attempt.event = event) : event ∉ rest := by
  intro waits
  obtain ⟨attempt, member, rfl⟩ := tried
  exact (List.nodup_append.mp (rows_nodup holding)).2.2 _ (List.mem_map_of_mem member) _ waits rfl

/-- The relay writes a row it has tried to publish. -/
theorem holding_update {claim : Claim} {rest : List Event} {event : Event} {row new : OutboxRow}
    (holding : Holding rows env own claim rest)
    (tried : ∃ attempt, attempt ∈ claim.attempts ∧ attempt.event = event)
    (present : eventRow (overlay rows own) event = some row)
    (confirmed : new.publishedAt ≠ none → row.publishedAt ≠ none ∨ Confirmed env event) :
    Holding rows env (own.insert (Key.event event) (some new)) claim rest := by
  have untouched := tried_not_waiting holding tried
  refine { holding with waiting := ?_, tried := ?_, free := ?_, writes := ?_ }
  · intro other waits
    have different : other ≠ event := fun same => untouched (same ▸ waits)
    obtain ⟨⟨old, held, stored, unpublished⟩, cleared⟩ := holding.waiting other waits
    refine ⟨⟨old, ?_, stored, unpublished⟩, cleared⟩
    rwa [event_insert_other own _ _ (by simpa using different)]
  · intro attempt member
    have before := holding.tried attempt member
    refine { before with held := ?_ }
    by_cases same : attempt.event = event
    · rw [same, event_insert]
      exact Option.some_ne_none _
    · rw [event_insert_other own _ _ (by simpa using same)]
      exact before.held
  · intro id
    exact (aggregate_insert_other own _ _ (by simp)).trans (holding.free id)
  · intro other value written
    by_cases same : other = event
    · subst same
      obtain ⟨attempt, member, isEvent⟩ := tried
      obtain ⟨held, before⟩ := Option.ne_none_iff_exists'.mp (holding.tried attempt member).held
      rw [isEvent] at before
      obtain ⟨current, old, rfl, marked, stored, unpublished⟩ := holding.writes other held before
      rw [event_overlay, before, Option.getD_some, Option.some.injEq] at present
      subst present
      rw [event_insert, Option.some.injEq] at written
      refine ⟨new, old, written.symm, fun publishes => ?_, stored, unpublished⟩
      rcases confirmed publishes with already | now
      · exact marked already
      · exact now
    · exact holding.writes other value
        ((event_insert_other own _ _ (by simpa using same)).symm.trans written)

theorem marked_update {claim : Claim} {event : Event} {pending : Option Event}
    (new : OutboxRow) (marked : Marked own claim pending)
    (spared : ∀ attempt, attempt ∈ claim.attempts → attempt.outcome = some .confirmed →
      pending ≠ some attempt.event → attempt.event ≠ event) :
    Marked (own.insert (Key.event event) (some new)) claim pending := by
  intro attempt member outcome different
  have other := spared attempt member outcome different
  rw [event_insert_other own _ _ (by simpa using other)]
  exact marked attempt member outcome different

theorem failure_moves {now : Int} {claim : Claim} {event : Event} {rest : List Event}
    {halts : Bool} {progress : Option (Progress RowOf)} {moved : Tx RowOf Pc}
    (failing : Failing rows env own claim event rest halts)
    (move : LocalMove (outbox settings) rows taken
      { pc := .recordFailure now claim event rest halts, own, progress } pick moved) :
    AssertedAt rows env moved := by
  obtain ⟨kept, stays | ⟨ended, found, underway, leaves⟩⟩ :=
    scan_keeps (fun own => Failing rows env own claim event rest halts)
      (scan_moves rfl move) failing fun found key row underway present wanted => by
        have isEvent := of_decide_eq_true wanted
        subst isEvent
        exact
          { failing with
            holding := holding_update failing.holding failing.tried present fun published =>
              .inl published
            marked := marked_update _ failing.marked fun attempt member outcome _ =>
              failing.failed attempt member outcome }
  · unfold AssertedAt
    rw [stays]
    exact kept
  · unfold AssertedAt
    rw [leaves]
    cases halts with
    | true => exact ⟨kept.stops rfl, rest, kept.holding, kept.marked⟩
    | false => exact ⟨kept.holding, kept.passes rfl, kept.marked, ended⟩

theorem marking_held {tx : Tx RowOf Pc} {claim : Claim} {event : Event} {rest : List Event}
    (marking : Marking rows env tx claim event rest) :
    ∃ row, ownEvent tx.own event = some (some row) := by
  obtain ⟨attempt, member, isEvent⟩ := marking.tried
  obtain ⟨value, held⟩ :=
    Option.ne_none_iff_exists'.mp (marking.holding.tried attempt member).held
  rw [isEvent] at held
  obtain ⟨row, _, rfl, _⟩ := marking.holding.writes event value held
  exact ⟨row, held⟩

theorem marking_moves {now : Int} {claim : Claim} {event : Event} {rest : List Event}
    {progress : Option (Progress RowOf)} {moved : Tx RowOf Pc}
    (marking : Marking rows env
      { pc := .markPublished now claim event rest, own, progress } claim event rest)
    (move : LocalMove (outbox settings) rows taken
      { pc := .markPublished now claim event rest, own, progress } pick moved) :
    AssertedAt rows env moved := by
  obtain ⟨row, held⟩ := marking_held marking
  have view : (overlay rows own).lookup (Key.event event) = some row := by
    refine (event_overlay rows own event).trans ?_
    dsimp only at held
    rw [held, Option.getD_some]
  cases scan_moves rfl move with
  | start idle =>
      refine { marking with updating := ?_ }
      intro found stored
      cases stored
      exact .inl (mem_candidates.mpr ⟨row, view, decide_eq_true rfl⟩)
  | drop found key underway picked member cause =>
      refine { marking with updating := ?_ }
      intro after stored
      cases stored
      rcases marking.updating found underway with pending | done
      · refine .inl (mem_drop.mpr ⟨pending, ?_⟩)
        rintro rfl
        rcases cause with ⟨_, skips⟩ | unwanted
        · exact nomatch skips
        · exact absurd (unwanted row view) (by simp [updating])
      · exact .inr done
  | take found key taken underway picked member free present wanted =>
      have isEvent := of_decide_eq_true wanted
      subst isEvent
      refine
        { marking with
          holding := holding_update marking.holding marking.tried present fun _ =>
            .inr marking.confirmed
          marked := marked_update _ marking.marked fun attempt _ _ different same =>
            different (congrArg some same.symm)
          updating := ?_ }
      intro after stored
      exact .inr ⟨_, event_insert own event _, Option.some_ne_none now⟩
  | finish found underway done =>
      refine ⟨marking.holding, marking.passes, ?_, rfl⟩
      intro attempt member outcome _
      by_cases same : attempt.event = event
      · rw [same]
        rcases marking.updating found underway with pending | written
        · rcases done with empty | full
          · rw [empty] at pending
            exact absurd pending List.not_mem_nil
          · exact nomatch full
        · exact written
      · exact marking.marked attempt member outcome fun isSame =>
          same (Option.some.inj isSame).symm

theorem prune_moves {now : Int} {batchSize : Nat} {progress : Option (Progress RowOf)}
    {moved : Tx RowOf Pc} (deleting : Deleting rows own)
    (move : LocalMove (outbox settings) rows taken
      { pc := .prune now batchSize, own, progress } pick moved) :
    AssertedAt rows env moved := by
  obtain ⟨kept, stays | ⟨ended, found, underway, leaves⟩⟩ :=
    scan_keeps (Deleting rows) (scan_moves rfl move) deleting
      fun found key row underway present wanted => by
        cases key with
        | aggregate id => exact nomatch wanted
        | event event =>
            have view := event_overlay rows own event
            have published : row.publishedAt ≠ none := by
              intro unpublished
              simp [pruning, pruneWhere, unpublished] at wanted
            constructor
            · intro id
              exact (aggregate_insert_other own _ _ (by simp)).trans (deleting.free id)
            · intro other value written
              by_cases same : other = event
              · subst same
                refine ⟨(Option.some.inj ((event_insert own other _).symm.trans written)).symm, ?_⟩
                cases held : ownEvent own other with
                | none =>
                    rw [held, Option.getD_none] at view
                    exact ⟨row, view.symm.trans present, published⟩
                | some before => exact (deleting.writes other before held).2
              · exact deleting.writes other value
                  ((event_insert_other own _ _ (by simpa using same)).symm.trans written)
  · unfold AssertedAt
    rw [stays]
    exact kept
  · unfold AssertedAt
    rw [leaves]
    exact kept

theorem asserted_moves {tx moved : Tx RowOf Pc}
    (stored : ∀ event, event ∈ env.appended → Confirmed env event ∨
      ∃ row, eventRow rows event = some row ∧ row.publishedAt = none)
    (known : ∀ event row, eventRow rows event = some row → event ∈ env.appended)
    (assertedAt : AssertedAt rows env tx)
    (move : LocalMove (outbox settings) rows taken tx pick moved) :
    AssertedAt rows env moved := by
  obtain ⟨pc, own, progress⟩ := tx
  cases pc with
  | append now todo done =>
      cases todo with
      | nil => exact absurd move (no_local_move (.inl rfl))
      | cons id rest => exact append_moves assertedAt move
  | lockAggregate now id todo done =>
      exact lock_aggregate_moves assertedAt.1 assertedAt.2 move
  | insertOutboxEvent now event todo done => exact insert_event_moves assertedAt move
  | claim now batchSize => exact claim_moves stored known assertedAt move
  | recordFailure now claim event rest halts => exact failure_moves assertedAt move
  | markPublished now claim event rest => exact marking_moves assertedAt move
  | prune now batchSize => exact prune_moves assertedAt move
  | publish now claim rest =>
      cases rest with
      | nil => exact absurd move (no_local_move (.inl rfl))
      | cons event rest => exact absurd move (no_local_move (.inr (.inr ⟨_, rfl⟩)))
  | nextSeq => exact absurd move (no_local_move (.inr (.inr ⟨_, rfl⟩)))
  | confirm => exact absurd move (no_local_move (.inr (.inr ⟨_, rfl⟩)))
  | halted => exact absurd move (no_local_move (.inl rfl))
  | pruned => exact absurd move (no_local_move (.inl rfl))
  | failed => exact absurd move (no_local_move (.inr (.inl rfl)))

theorem begins_asserted {pc : Pc} (rows : Rows) (started : starts env pc = true) :
    AssertedAt rows env { pc, own := ∅, progress := none } := by
  cases pc with
  | append now todo done =>
      obtain ⟨_, rfl⟩ := of_decide_eq_true started
      constructor
      · intro event value written
        exact nomatch written
      · intro event member
        exact absurd member List.not_mem_nil
      · intro event member
        exact absurd member List.not_mem_nil
      · intro event member
        exact absurd member List.not_mem_nil
      · intro event known member
        exact absurd member List.not_mem_nil
  | claim => exact fun key => rfl
  | prune =>
      refine ⟨fun id => rfl, ?_⟩
      intro event value written
      exact nomatch written
  | _ => exact nomatch started

end Moves

end Foc.Outbox
