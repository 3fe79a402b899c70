import Foc.Platform.Relay

/-!
What the relays do to the outbox and the broker, over every run: no event is lost,
each aggregate's events are first delivered in the order they were written, no
event is sent again once a send of it was confirmed and its claim committed, and a
claim sends at most one event of an aggregate, in its turn.
-/
namespace Foc.Outbox
open Library.ReadCommitted

abbrev Step := Library.ReadCommitted.Event Key Pc Answer Stimulus

/-- The message is stray, it was not confirmed, or its claim was rolled back. -/
def Spoiled (env : Env) (send : Nat) (sent : Sent) : Prop :=
  sent.stray = true ∨ (send, Outcome.confirmed) ∉ env.outcomes ∨
    ∃ claim, claim ∈ env.claims ∧ claim.committed = false ∧ send ∈ claim.sends

/-- One row for each aggregate, tried in turn up to a failure that stops the claim;
an event nobody listens for does not. -/
structure Claim.Orderly (claim : Claim) : Prop where
  apart : (claim.rows.map Event.aggregateId).Nodup
  inTurn : claim.attempts.map Attempt.event <+: claim.rows
  unhalted : claim.Unhalted
  sent : ∀ attempt, attempt ∈ claim.attempts → attempt.Passes → attempt.send ≠ none
  whole : claim.committed = true → claim.Passes → claim.attempts.map Attempt.event = claim.rows

/-- Every earlier event of the aggregate was delivered before. -/
def Ordered (env : Env) : Prop :=
  ∀ before send after sent earlier, env.deliveries = before ++ send :: after →
    env.sends[send]? = some sent → earlier ∈ env.appended → earlier.Before sent.event →
    ∃ first other, first ∈ before ∧ env.sends[first]? = some other ∧ other.event = earlier

/-- A second message of an event follows one that was spoiled, or is stray. -/
def Once (env : Env) : Prop :=
  ∀ first later firstSent laterSent, first < later → env.sends[first]? = some firstSent →
    env.sends[later]? = some laterSent → firstSent.event = laterSent.event →
    Spoiled env first firstSent ∨ laterSent.stray = true

/-- The attempts of a claim are in the log of what was sent. -/
def Claim.Logged (env : Env) (claim : Claim) : Prop :=
  ∀ attempt send, attempt ∈ claim.attempts → attempt.send = some send →
    env.sends[send]? = some { event := attempt.event, stray := false }

/-- A committed event stays unpublished until a publish of it was confirmed. -/
def Kept (rows : Rows) (env : Env) : Prop :=
  ∀ event, event ∈ env.appended → Confirmed env event ∨
    ∃ row, eventRow rows event = some row ∧ row.publishedAt = none

/-- The claim's confirmed events are published. -/
def Settled (rows : Rows) (env : Env) (claim : Claim) : Prop :=
  ∀ send, send ∈ claim.sends → (∃ outcome, (send, outcome) ∈ env.outcomes) ∧
    ∀ sent row, env.sends[send]? = some sent → (send, Outcome.confirmed) ∈ env.outcomes →
      eventRow rows sent.event = some row → row.publishedAt ≠ none

structure Books (rows : Rows) (env : Env) : Prop where
  known : ∀ event row, eventRow rows event = some row → event ∈ env.appended
  kept : Kept rows env
  numbered : ∀ event, event ∈ env.appended → event.seq < env.nextSeq
  cleared : ∀ (send : Nat) (sent : Sent), env.sends[send]? = some sent → Cleared env sent.event
  strays : ∀ event, event ∈ env.strays → Cleared env event
  sent : ∀ send, send ∈ env.deliveries → send < env.sends.length
  told : ∀ send outcome, (send, outcome) ∈ env.outcomes → send < env.sends.length
  delivered : ∀ send, (send, Outcome.confirmed) ∈ env.outcomes → send ∈ env.deliveries
  ordered : Ordered env
  once : Once env
  claims : ∀ claim, claim ∈ env.claims → claim.Orderly ∧ claim.Logged env
  settled : ∀ claim, claim ∈ env.claims → claim.committed = true → Settled rows env claim

/-- Every message is stray, or of a claim that has ended or is under way. -/
def Placed (world : System) : Prop :=
  ∀ (send : Nat) (sent : Sent), world.env.sends[send]? = some sent → sent.stray = true ∨
    (∃ claim, claim ∈ world.env.claims ∧ send ∈ claim.sends) ∨
    ∃ id tx claim, world.active.lookup id = some tx ∧ underway tx.pc = some claim ∧
      send ∈ claim.sends

structure Invariant (world : System) : Prop where
  asserted : ∀ id tx, world.active.lookup id = some tx →
    AssertedAt world.committed world.env tx
  books : Books world.committed world.env
  placed : Placed world

/-! ## Logs -/

section Logs

variable {α : Type} {log : List α} {place : Nat} {entry last : α}

theorem log_kept (more : List α) (found : log[place]? = some entry) :
    (log ++ more)[place]? = some entry := by
  obtain ⟨inside, _⟩ := List.getElem?_eq_some_iff.mp found
  rw [List.getElem?_append_left inside]
  exact found

theorem log_snoc (found : (log ++ [last])[place]? = some entry) :
    log[place]? = some entry ∨ place = log.length ∧ entry = last := by
  rw [List.getElem?_append] at found
  split at found
  · exact .inl found
  · rename_i outside
    obtain ⟨inside, same⟩ := List.getElem?_eq_some_iff.mp found
    rw [List.length_singleton] at inside
    refine .inr ⟨by omega, ?_⟩
    simpa using same.symm

theorem split_snoc {log before after : List α} (split : log ++ [last] = before ++ entry :: after) :
    (∃ rest, log = before ++ entry :: rest) ∨ log = before ∧ last = entry ∧ after = [] := by
  rcases List.eq_nil_or_concat after with rfl | ⟨rest, final, rfl⟩
  · obtain ⟨same, sameLast⟩ := List.append_inj' split rfl
    exact .inr ⟨same, by simpa using sameLast, rfl⟩
  · refine .inl ⟨rest, ?_⟩
    rw [List.concat_eq_append, ← List.cons_append, ← List.append_assoc] at split
    exact (List.append_inj' split rfl).1

end Logs

theorem mem_sends {claim : Claim} {send : Nat} :
    send ∈ claim.sends ↔ ∃ attempt, attempt ∈ claim.attempts ∧ attempt.send = some send := by
  simp [Claim.sends, List.mem_filterMap]

theorem sends_tried (claim : Claim) (event : Event) (send : Nat) (place : Option Nat)
    (outcome : Option Outcome) :
    send ∈ (claim.tried event place outcome).sends ↔ send ∈ claim.sends ∨ place = some send := by
  simp [Claim.sends, Claim.tried]

/-! ## Entries of the logs -/

section Entries

variable {rows : Rows} {env : Env}

theorem grown_send (own : Own) (rows : Rows) (env : Env) (sent : Sent) :
    Grown own rows rows env { env with sends := env.sends ++ [sent] } :=
  { rows := fun _ _ => rfl
    nextSeq := Nat.le_refl _
    appended := fun _ member => member
    appends := fun _ member => .inl member
    sends := fun _ _ found => log_kept _ found
    outcomes := fun _ member => member
    learns := fun _ _ member => .inl member }

theorem grown_outcome (rows : Rows) (env : Env) (send : Nat) (outcome : Outcome) (sent : Sent)
    (logged : env.sends[send]? = some sent) (own : Own) (free : ownEvent own sent.event = none) :
    Grown own rows rows env { env with outcomes := env.outcomes ++ [(send, outcome)] } :=
  { rows := fun _ _ => rfl
    nextSeq := Nat.le_refl _
    appended := fun _ member => member
    appends := fun _ member => .inl member
    sends := fun _ _ found => found
    outcomes := fun _ member => List.mem_append_left _ member
    learns := fun other learnt member => by
      rcases List.mem_append.mp member with known | new
      · exact .inl known
      · cases List.mem_singleton.mp new
        exact .inr ⟨sent, logged, free⟩ }

/-- A message of a cleared event goes out, stray or after spoiled ones. -/
theorem books_send {sent : Sent} (books : Books rows env) (cleared : Cleared env sent.event)
    (first : sent.stray = true ∨ ∀ (place : Nat) (other : Sent),
      env.sends[place]? = some other → other.event = sent.event → Spoiled env place other) :
    Books rows { env with sends := env.sends ++ [sent] } := by
  have grown := grown_send ∅ rows env sent
  constructor
  · exact books.known
  · intro event appended
    rcases books.kept event appended with confirmed | waits
    · exact .inl (confirmed_stable grown confirmed)
    · exact .inr waits
  · exact books.numbered
  · intro place other found
    rcases log_snoc found with before | ⟨_, rfl⟩
    · exact cleared_stable grown (books.cleared place other before)
    · exact cleared_stable grown cleared
  · intro event member
    exact cleared_stable grown (books.strays event member)
  · intro place member
    have inside := books.sent place member
    simp only [List.length_append, List.length_singleton]
    omega
  · intro place outcome member
    have inside := books.told place outcome member
    simp only [List.length_append, List.length_singleton]
    omega
  · exact books.delivered
  · intro before place after other earlier split found appended precedes
    rcases log_snoc found with old | ⟨isNew, rfl⟩
    · obtain ⟨firstPlace, firstSent, member, logged, same⟩ :=
        books.ordered before place after other earlier split old appended precedes
      exact ⟨firstPlace, firstSent, member, log_kept _ logged, same⟩
    · have inside := books.sent place (split ▸ List.mem_append_right _ List.mem_cons_self)
      omega
  · intro place later firstSent laterSent precedes foundFirst foundLater same
    rcases log_snoc foundLater with before | ⟨isNew, rfl⟩
    · rcases log_snoc foundFirst with beforeFirst | ⟨isNewFirst, _⟩
      · exact books.once place later firstSent laterSent precedes beforeFirst before same
      · have inside := (List.getElem?_eq_some_iff.mp before).1
        omega
    · rcases log_snoc foundFirst with beforeFirst | ⟨isNewFirst, _⟩
      · rcases first with stray | spoiled
        · exact .inr stray
        · exact .inl (spoiled place firstSent beforeFirst same)
      · omega
  · intro claim member
    obtain ⟨orderly, logged⟩ := books.claims claim member
    exact ⟨orderly, fun attempt place tried sentAt =>
      log_kept _ (logged attempt place tried sentAt)⟩
  · intro claim member committed place inClaim
    obtain ⟨told, published⟩ := books.settled claim member committed place inClaim
    refine ⟨told, ?_⟩
    intro other row found confirmed
    obtain ⟨attempt, tried, sentAt⟩ := mem_sends.mp inClaim
    have logged := (books.claims claim member).2 attempt place tried sentAt
    cases Option.some.inj ((log_kept _ logged).symm.trans found)
    exact published _ row logged confirmed

/-- The relay learns how a publish it waited for ended. -/
theorem books_outcome {send : Nat} {event : Event} {outcome : Outcome} (books : Books rows env)
    (sending : Sending env send event) (delivered : outcome = .confirmed → send ∈ env.deliveries) :
    Books rows { env with outcomes := env.outcomes ++ [(send, outcome)] } := by
  have grown : Grown ∅ rows rows env { env with outcomes := env.outcomes ++ [(send, outcome)] } :=
    grown_outcome rows env send outcome _ sending.logged ∅ rfl
  constructor
  · exact books.known
  · intro other appended
    rcases books.kept other appended with confirmed | waits
    · exact .inl (confirmed_stable grown confirmed)
    · exact .inr waits
  · exact books.numbered
  · intro place sent found
    exact cleared_stable grown (books.cleared place sent found)
  · intro other member
    exact cleared_stable grown (books.strays other member)
  · exact books.sent
  · intro place other member
    rcases List.mem_append.mp member with known | new
    · exact books.told place other known
    · cases List.mem_singleton.mp new
      exact (List.getElem?_eq_some_iff.mp sending.logged).1
  · intro place member
    rcases List.mem_append.mp member with known | new
    · exact books.delivered place known
    · cases List.mem_singleton.mp new
      exact delivered rfl
  · exact books.ordered
  · intro first later firstSent laterSent precedes foundFirst foundLater same
    rcases books.once first later firstSent laterSent precedes foundFirst foundLater same with
      (stray | unconfirmed | rolledBack) | stray
    · exact .inl (.inl stray)
    · by_cases isSend : first = send
      · subst isSend
        cases Option.some.inj (sending.logged.symm.trans foundFirst)
        exact .inr (sending.last later laterSent precedes foundLater same.symm)
      · refine .inl (.inr (.inl ?_))
        intro member
        rcases List.mem_append.mp member with known | new
        · exact unconfirmed known
        · cases List.mem_singleton.mp new
          exact isSend rfl
    · exact .inl (.inr (.inr rolledBack))
    · exact .inr stray
  · exact books.claims
  · intro claim member committed place inClaim
    obtain ⟨⟨known, told⟩, published⟩ := books.settled claim member committed place inClaim
    refine ⟨⟨known, List.mem_append_left _ told⟩, ?_⟩
    intro sent row found confirmed
    rcases List.mem_append.mp confirmed with before | new
    · exact published sent row found before
    · cases List.mem_singleton.mp new
      exact absurd told (sending.untold known)

theorem books_deliver {send : Nat} (books : Books rows env) (inside : send < env.sends.length) :
    Books rows { env with deliveries := env.deliveries ++ [send] } := by
  have grown : Grown ∅ rows rows env { env with deliveries := env.deliveries ++ [send] } :=
    { rows := fun _ _ => rfl
      nextSeq := Nat.le_refl _
      appended := fun _ member => member
      appends := fun _ member => .inl member
      sends := fun _ _ found => found
      outcomes := fun _ member => member
      learns := fun _ _ member => .inl member }
  constructor
  · exact books.known
  · exact books.kept
  · exact books.numbered
  · intro place sent found
    exact cleared_stable grown (books.cleared place sent found)
  · intro event member
    exact cleared_stable grown (books.strays event member)
  · intro place member
    rcases List.mem_append.mp member with known | new
    · exact books.sent place known
    · rw [List.mem_singleton.mp new]
      exact inside
  · exact books.told
  · intro place confirmed
    exact List.mem_append_left _ (books.delivered place confirmed)
  · intro before place after sent earlier split found appended precedes
    rcases split_snoc split with ⟨rest, shorter⟩ | ⟨rfl, rfl, _⟩
    · exact books.ordered before place rest sent earlier shorter found appended precedes
    · obtain ⟨first, other, confirmed, logged, same⟩ :=
        (books.cleared _ sent found).earlier earlier appended precedes
      exact ⟨first, other, books.delivered first confirmed, logged, same⟩
  · exact books.once
  · exact books.claims
  · exact books.settled

/-- Only the clock or the sequence moved. -/
theorem books_clock (clock : Int) {nextSeq : Nat} (books : Books rows env)
    (forward : env.nextSeq ≤ nextSeq) : Books rows { env with clock, nextSeq } := by
  have grown : Grown ∅ rows rows env { env with clock, nextSeq } :=
    { rows := fun _ _ => rfl
      nextSeq := forward
      appended := fun _ member => member
      appends := fun _ member => .inl member
      sends := fun _ _ found => found
      outcomes := fun _ member => member
      learns := fun _ _ member => .inl member }
  exact
    { known := books.known
      kept := books.kept
      numbered := fun event member => Nat.lt_of_lt_of_le (books.numbered event member) forward
      cleared := fun place sent found => cleared_stable grown (books.cleared place sent found)
      strays := fun event member => cleared_stable grown (books.strays event member)
      sent := books.sent
      told := books.told
      delivered := books.delivered
      ordered := books.ordered
      once := books.once
      claims := books.claims
      settled := books.settled }

end Entries

/-! ## The end of a transaction -/

section Ends

variable {settings : Settings} {rows : Rows} {env : Env} {tx : Tx RowOf Pc} {claim : Claim}

theorem holding_orderly {own : Own} {rest : List Event} (holding : Holding rows env own claim rest) :
    claim.Orderly ∧ claim.Logged env := by
  refine ⟨⟨holding.apart, ⟨rest, holding.turns⟩, holding.unhalted, ?_, ?_⟩, ?_⟩
  · intro attempt member
    exact (holding.tried attempt member).sent
  · intro committed
    exact nomatch holding.uncommitted.symm.trans committed
  · intro attempt send member
    exact (holding.tried attempt member).logged send

theorem mem_tried {attempt : Attempt} {event : Event} {send : Option Nat}
    {outcome : Option Outcome} (member : attempt ∈ (claim.tried event send outcome).attempts) :
    attempt ∈ claim.attempts ∨ attempt = { event, send, outcome } := by
  rcases List.mem_append.mp member with before | new
  · exact .inl before
  · exact .inr (List.mem_singleton.mp new)

theorem unhalted_tried (event : Event) (send : Option Nat) (outcome : Option Outcome)
    (passes : claim.Passes) : (claim.tried event send outcome).Unhalted := by
  intro before attempt after split more
  rcases split_snoc split with ⟨rest, shorter⟩ | ⟨_, _, ended⟩
  · exact passes attempt (shorter ▸ List.mem_append_right _ List.mem_cons_self)
  · exact absurd ended more

/-- A claim that is cut short is orderly, with the message it waits for. -/
theorem underway_orderly (assertedAt : AssertedAt rows env tx)
    (found : underway tx.pc = some claim) :
    (claim.Orderly ∧ claim.Logged env) ∧ claim.committed = false := by
  obtain ⟨pc, own, progress⟩ := tx
  cases pc with
  | publish now current rest =>
      cases found
      exact ⟨holding_orderly assertedAt.holding, assertedAt.holding.uncommitted⟩
  | confirm now current send event rest =>
      cases found
      obtain ⟨publishing, sending⟩ := assertedAt
      have holding := publishing.holding
      refine ⟨⟨⟨holding.apart, ⟨rest, ?_⟩,
        unhalted_tried event (some send) none publishing.passes, ?_, ?_⟩, ?_⟩,
        holding.uncommitted⟩
      · have turns := holding.turns
        simpa [Claim.tried] using turns
      · intro attempt member passes
        rcases mem_tried member with before | rfl
        · exact (holding.tried attempt before).sent passes
        · exact Option.some_ne_none send
      · intro committed
        exact nomatch holding.uncommitted.symm.trans committed
      · intro attempt place member sentAt
        rcases mem_tried member with before | rfl
        · exact (holding.tried attempt before).logged place sentAt
        · cases sentAt
          exact sending.logged
  | recordFailure now current event rest halts =>
      cases found
      have failing : Failing rows env own claim event rest halts := assertedAt
      exact ⟨holding_orderly failing.holding, failing.holding.uncommitted⟩
  | markPublished now current event rest =>
      cases found
      exact ⟨holding_orderly assertedAt.holding, assertedAt.holding.uncommitted⟩
  | halted current =>
      cases found
      obtain ⟨_, rest, holding, _⟩ := assertedAt
      exact ⟨holding_orderly holding, holding.uncommitted⟩
  | _ => exact nomatch found

/-- What a commit writes to an outbox row: a new one, one its claim held, or none. -/
theorem committed_event {event : Event} {value : Option OutboxRow}
    (assertedAt : AssertedAt rows env tx) (asked : request settings tx.pc = .commit)
    (written : ownEvent tx.own event = some value) :
    (event ∈ appending tx.pc ∧ event ∉ env.appended ∧
        ∃ row, value = some row ∧ row.publishedAt = none) ∨
      (∃ row old, value = some row ∧ (row.publishedAt ≠ none → Confirmed env event) ∧
        eventRow rows event = some old ∧ old.publishedAt = none) ∨
      value = none ∧ ∃ old, eventRow rows event = some old ∧ old.publishedAt ≠ none := by
  obtain ⟨pc, own, progress⟩ := tx
  cases pc with
  | append now todo done =>
      have producing : Producing env own done := assertedAt
      have member := producing.only event value written
      obtain ⟨row, held, unpublished⟩ := producing.fresh event member
      refine .inl ⟨member, ?_, row, Option.some.inj (written.symm.trans held), unpublished⟩
      intro appended
      exact Nat.lt_irrefl _ (producing.later event event member appended rfl)
  | publish now claim rest => exact .inr (.inl (assertedAt.holding.writes event value written))
  | halted claim =>
      obtain ⟨_, rest, holding, _⟩ := assertedAt
      exact .inr (.inl (holding.writes event value written))
  | pruned => exact .inr (.inr (assertedAt.writes event value written))
  | _ => exact nomatch asked

theorem committed_producing (assertedAt : AssertedAt rows env tx) {event : Event}
    (member : event ∈ appending tx.pc) :
    ∃ done, appending tx.pc = done ∧ Producing env tx.own done := by
  obtain ⟨pc, own, progress⟩ := tx
  cases pc with
  | append now todo done => exact ⟨done, rfl, assertedAt⟩
  | _ => exact absurd member List.not_mem_nil

/-- A claim that commits has tried every row unless a failure stopped it, and its
confirmed rows are published. -/
theorem committed_claim (assertedAt : AssertedAt rows env tx)
    (asked : request settings tx.pc = .commit) (found : underway tx.pc = some claim) :
    claim.commit.Orderly ∧ claim.commit.Logged env ∧
      Settled (overlay rows tx.own) env claim.commit := by
  obtain ⟨⟨orderly, logged⟩, _⟩ := underway_orderly assertedAt found
  have whole : ∃ rest, Holding rows env tx.own claim rest ∧ Marked tx.own claim none ∧
      (claim.Passes → rest = []) := by
    obtain ⟨pc, own, progress⟩ := tx
    cases pc with
    | publish now current rest =>
        cases found
        cases rest with
        | nil => exact ⟨[], assertedAt.holding, assertedAt.marked, fun _ => rfl⟩
        | cons event rest => exact nomatch asked
    | halted current =>
        cases found
        obtain ⟨fails, rest, holding, marked⟩ := assertedAt
        exact ⟨rest, holding, marked, fun passes => absurd passes fails⟩
    | recordFailure => exact nomatch asked
    | markPublished => exact nomatch asked
    | confirm => exact nomatch asked
    | _ => exact nomatch found
  obtain ⟨rest, holding, marked, ended⟩ := whole
  refine ⟨⟨orderly.apart, orderly.inTurn, orderly.unhalted, orderly.sent, ?_⟩, logged, ?_⟩
  · intro _ passes
    have turns := holding.turns
    rw [ended passes, List.append_nil] at turns
    exact turns
  · intro send member
    obtain ⟨attempt, tried, sentAt⟩ := mem_sends.mp member
    have facts := holding.tried attempt tried
    refine ⟨facts.told send sentAt, ?_⟩
    intro sent row foundSent confirmed present
    cases Option.some.inj ((facts.logged send sentAt).symm.trans foundSent)
    obtain ⟨new, held, published⟩ :=
      marked attempt tried (facts.agrees send .confirmed sentAt confirmed) nofun
    rw [event_overlay] at present
    dsimp only at present held
    rw [held, Option.getD_some, Option.some.injEq] at present
    exact present ▸ published

/-- Nobody else notices a commit but by what it appended. -/
theorem grown_commit (own : Own) (assertedAt : AssertedAt rows env tx)
    (apart : ∀ key, tx.own.lookup key ≠ none → own.lookup key = none) :
    Grown own rows (overlay rows tx.own) env (finished env tx.pc) := by
  constructor
  · intro event held
    have free : ownEvent tx.own event = none := by
      by_contra written
      exact held (apart (Key.event event) written)
    rw [event_overlay, free, Option.getD_none]
  · exact Nat.le_refl _
  · intro event member
    exact List.mem_append_left _ member
  · intro event member
    rcases List.mem_append.mp member with known | new
    · exact .inl known
    · obtain ⟨done, same, producing⟩ := committed_producing assertedAt new
      rw [same] at new
      refine .inr ⟨apart (Key.aggregate event.aggregateId) (producing.locked event new), ?_⟩
      intro known appended sameAggregate
      exact producing.later event known new appended sameAggregate
  · exact fun _ _ found => found
  · exact fun _ member => member
  · exact fun _ _ member => .inl member

theorem books_commit (books : Books rows env) (assertedAt : AssertedAt rows env tx)
    (asked : request settings tx.pc = .commit) :
    Books (overlay rows tx.own) (finished env tx.pc) := by
  have grown := grown_commit ∅ assertedAt fun _ _ => rfl
  have new : ∀ event, event ∈ appending tx.pc → ∃ done, appending tx.pc = done ∧
      Producing env tx.own done := fun event member => committed_producing assertedAt member
  constructor
  · intro event row present
    rw [event_overlay] at present
    cases written : ownEvent tx.own event with
    | none =>
        rw [written] at present
        exact List.mem_append_left _ (books.known event row present)
    | some value =>
        rw [written, Option.getD_some] at present
        rcases committed_event assertedAt asked written with
          ⟨member, _⟩ | ⟨_, old, _, _, found, _⟩ | ⟨deleted, _⟩
        · exact List.mem_append_right _ member
        · exact List.mem_append_left _ (books.known event old found)
        · exact nomatch deleted.symm.trans present
  · intro event member
    rcases List.mem_append.mp member with known | appended
    · rcases books.kept event known with confirmed | ⟨row, present, unpublished⟩
      · exact .inl (confirmed_stable grown confirmed)
      · cases written : ownEvent tx.own event with
        | none =>
            refine .inr ⟨row, ?_, unpublished⟩
            rw [event_overlay, written]
            exact present
        | some value =>
            rcases committed_event assertedAt asked written with
              ⟨_, fresh, _⟩ | ⟨after, old, rfl, confirmed, _, _⟩ | ⟨_, old, found, published⟩
            · exact absurd known fresh
            · by_cases marked : after.publishedAt = none
              · refine .inr ⟨after, ?_, marked⟩
                rw [event_overlay, written]
                rfl
              · exact .inl (confirmed_stable grown (confirmed marked))
            · cases Option.some.inj (found.symm.trans present)
              exact absurd unpublished published
    · obtain ⟨done, same, producing⟩ := new event appended
      obtain ⟨row, held, unpublished⟩ := producing.fresh event (same ▸ appended)
      refine .inr ⟨row, ?_, unpublished⟩
      rw [event_overlay, held]
      rfl
  · intro event member
    rcases List.mem_append.mp member with known | appended
    · exact books.numbered event known
    · obtain ⟨done, same, producing⟩ := new event appended
      exact producing.numbered event (same ▸ appended)
  · intro place sent found
    exact cleared_stable grown (books.cleared place sent found)
  · intro event member
    exact cleared_stable grown (books.strays event member)
  · exact books.sent
  · exact books.told
  · exact books.delivered
  · intro before place after sent earlier split found member precedes
    rcases List.mem_append.mp member with known | appended
    · exact books.ordered before place after sent earlier split found known precedes
    · obtain ⟨done, same, producing⟩ := new earlier appended
      have follows := producing.later earlier sent.event (same ▸ appended)
        (books.cleared place sent found).appended precedes.sameAggregate.symm
      have written := precedes.written
      omega
  · intro first later firstSent laterSent precedes foundFirst foundLater same
    rcases books.once first later firstSent laterSent precedes foundFirst foundLater same with
      (stray | unconfirmed | ⟨claim, member, rolledBack⟩) | stray
    · exact .inl (.inl stray)
    · exact .inl (.inr (.inl unconfirmed))
    · exact .inl (.inr (.inr ⟨claim, List.mem_append_left _ member, rolledBack⟩))
    · exact .inr stray
  · intro claim member
    rcases List.mem_append.mp member with known | ended
    · exact books.claims claim known
    · obtain ⟨current, found, rfl⟩ := List.mem_map.mp ended
      obtain ⟨orderly, logged, _⟩ := committed_claim assertedAt asked (Option.mem_toList.mp found)
      exact ⟨orderly, logged⟩
  · intro claim member committed
    rcases List.mem_append.mp member with known | ended
    · intro send inClaim
      obtain ⟨told, published⟩ := books.settled claim known committed send inClaim
      refine ⟨told, ?_⟩
      intro sent row found confirmed present
      rw [event_overlay] at present
      cases written : ownEvent tx.own sent.event with
      | none =>
          rw [written] at present
          exact published sent row found confirmed present
      | some value =>
          rw [written, Option.getD_some] at present
          rcases committed_event assertedAt asked written with
            ⟨_, fresh, _⟩ | ⟨_, old, _, _, before, unpublished⟩ | ⟨deleted, _⟩
          · exact absurd (books.cleared send sent found).appended fresh
          · exact absurd unpublished (published sent old found confirmed before)
          · exact nomatch deleted.symm.trans present
    · obtain ⟨current, found, rfl⟩ := List.mem_map.mp ended
      obtain ⟨_, _, settled⟩ := committed_claim assertedAt asked (Option.mem_toList.mp found)
      exact settled

/-- The row a relay is about to send has nothing before it that is unconfirmed. -/
theorem sending_waiting {event : Event} (assertedAt : AssertedAt rows env tx)
    (found : sending tx.pc = some event) : Waiting rows env tx.own event := by
  obtain ⟨pc, own, progress⟩ := tx
  cases pc with
  | publish now claim rest =>
      cases rest with
      | nil => exact nomatch found
      | cons next rest =>
          cases found
          exact assertedAt.holding.waiting _ List.mem_cons_self
  | _ => exact nomatch found

theorem grown_abort (own : Own) (rows : Rows) (env : Env) (pc : Pc) :
    Grown own rows rows env (aborted env pc) :=
  { rows := fun _ _ => rfl
    nextSeq := Nat.le_refl _
    appended := fun _ member => member
    appends := fun _ member => .inl member
    sends := fun _ _ found => found
    outcomes := fun _ member => member
    learns := fun _ _ member => .inl member }

theorem books_abort (books : Books rows env) (assertedAt : AssertedAt rows env tx) :
    Books rows (aborted env tx.pc) := by
  have grown := grown_abort ∅ rows env tx.pc
  constructor
  · exact books.known
  · exact books.kept
  · exact books.numbered
  · intro place sent found
    exact cleared_stable grown (books.cleared place sent found)
  · intro event member
    rcases List.mem_append.mp member with known | left
    · exact cleared_stable grown (books.strays event known)
    · exact cleared_stable grown
        (sending_waiting assertedAt (Option.mem_toList.mp left)).cleared
  · exact books.sent
  · exact books.told
  · exact books.delivered
  · exact books.ordered
  · intro first later firstSent laterSent precedes foundFirst foundLater same
    rcases books.once first later firstSent laterSent precedes foundFirst foundLater same with
      (stray | unconfirmed | ⟨claim, member, rolledBack⟩) | stray
    · exact .inl (.inl stray)
    · exact .inl (.inr (.inl unconfirmed))
    · exact .inl (.inr (.inr ⟨claim, List.mem_append_left _ member, rolledBack⟩))
    · exact .inr stray
  · intro claim member
    rcases List.mem_append.mp member with known | cut
    · exact books.claims claim known
    · exact (underway_orderly assertedAt (Option.mem_toList.mp cut)).1
  · intro claim member committed
    rcases List.mem_append.mp member with known | cut
    · exact books.settled claim known committed
    · have rolledBack := (underway_orderly assertedAt (Option.mem_toList.mp cut)).2
      exact nomatch rolledBack.symm.trans committed

end Ends

/-! ## Steps -/

section Steps

variable {settings : Settings} {world after : System} {rows : Rows} {env later : Env}
  {tx : Tx RowOf Pc} {own : Own} {claim : Claim}

/-- The answers a transaction can get. -/
inductive Answered (env : Env) : Pc → Answer → Env → Prop where
  | sequence (now : Int) (id : AggregateId) (todo : List AggregateId) (done : List Event) :
      Answered env (.nextSeq now id todo done) (.sequence env.nextSeq)
        { env with nextSeq := env.nextSeq + 1 }
  | sent (now : Int) (claim : Claim) (event : Event) (rest : List Event) :
      Answered env (.publish now claim (event :: rest)) (.sent env.sends.length)
        { env with sends := env.sends ++ [{ event, stray := false }] }
  | invalid (now : Int) (claim : Claim) (event : Event) (rest : List Event) :
      Answered env (.publish now claim (event :: rest)) .invalid env
  | outcome (now : Int) (claim : Claim) (send : Nat) (event : Event) (rest : List Event)
      (outcome : Outcome) (delivered : outcome = .confirmed → send ∈ env.deliveries) :
      Answered env (.confirm now claim send event rest) (.outcome outcome)
        { env with outcomes := env.outcomes ++ [(send, outcome)] }

theorem answered_cases {pc : Pc} {value : Answer} (accepted : answered env pc value = some later) :
    Answered env pc value later := by
  unfold answered at accepted
  split at accepted
  · split at accepted
    · rename_i same
      cases same
      cases accepted
      exact .sequence ..
    · exact nomatch accepted
  · split at accepted
    · rename_i same
      cases same
      cases accepted
      exact .sent ..
    · exact nomatch accepted
  · cases accepted
    exact .invalid ..
  · split at accepted
    · rename_i delivered
      cases accepted
      exact .outcome _ _ _ _ _ _ delivered
    · exact nomatch accepted
  · exact nomatch accepted

theorem waiting_held {event : Event} (waiting : Waiting rows env own event) :
    ownEvent own event ≠ none := by
  obtain ⟨⟨row, held, _⟩, _⟩ := waiting
  rw [held]
  exact Option.some_ne_none _

theorem answer_undisturbed {value : Answer}
    (assertedAt : AssertedAt rows env tx) (accepted : Answered env tx.pc value later)
    (apart : ∀ key, tx.own.lookup key ≠ none → own.lookup key = none) :
    Undisturbed own rows rows env later := by
  obtain ⟨pc, held, progress⟩ := tx
  cases accepted with
  | sequence now id todo done =>
      exact
        { rows := fun _ _ => rfl
          nextSeq := Nat.le_succ _
          appended := fun _ member => member
          appends := fun _ member => .inl member
          sends := fun _ _ found => found
          outcomes := fun _ member => member
          learns := fun _ _ member => .inl member
          sending := fun _ _ found => .inl found }
  | sent now claim event rest =>
      refine { grown_send own rows env _ with sending := ?_ }
      intro send sent found
      rcases log_snoc found with before | ⟨_, rfl⟩
      · exact .inl before
      · exact .inr (.inr (apart (Key.event event)
          (waiting_held (assertedAt.holding.waiting event List.mem_cons_self))))
  | invalid now claim event rest =>
      exact
        { rows := fun _ _ => rfl
          nextSeq := Nat.le_refl _
          appended := fun _ member => member
          appends := fun _ member => .inl member
          sends := fun _ _ found => found
          outcomes := fun _ member => member
          learns := fun _ _ member => .inl member
          sending := fun _ _ found => .inl found }
  | outcome now claim send event rest outcome delivered =>
      obtain ⟨publishing, sending⟩ := assertedAt
      have free := apart (Key.event event)
        (waiting_held (publishing.holding.waiting event List.mem_cons_self))
      exact
        { grown_outcome rows env send outcome _ sending.logged own free with
          sending := fun _ _ found => .inl found }

theorem holding_tried {event : Event} {rest : List Event} {send : Option Nat}
    {outcome : Option Outcome} (holding : Holding rows env own claim (event :: rest))
    (passes : claim.Passes) (facts : Tried env own { event, send, outcome }) :
    Holding rows env own (claim.tried event send outcome) rest := by
  refine { holding with turns := ?_, unhalted := ?_, waiting := ?_, tried := ?_ }
  · have turns := holding.turns
    simpa [Claim.tried] using turns
  · exact unhalted_tried event send outcome passes
  · intro other member
    exact holding.waiting other (List.mem_cons_of_mem _ member)
  · intro attempt member
    rcases mem_tried member with before | rfl
    · exact holding.tried attempt before
    · exact facts

theorem passes_tried {event : Event} {send : Option Nat} {outcome : Option Outcome}
    (passes : claim.Passes)
    (passing : outcome = some .confirmed ∨ outcome = some .unroutable) :
    (claim.tried event send outcome).Passes := by
  intro attempt member
  rcases mem_tried member with before | rfl
  · exact passes attempt before
  · exact passing

theorem stops_tried {event : Event} {send : Option Nat} {outcome : Outcome}
    (halting : outcome.halts = true) : ¬ (claim.tried event send (some outcome)).Passes := by
  intro passes
  have last := passes { event, send, outcome := some outcome }
    (List.mem_append_right _ List.mem_cons_self)
  unfold Attempt.Passes at last
  cases outcome <;> simp_all [Outcome.halts]

/-- The rows still to come are untouched by what is learnt of this one. -/
theorem holding_outcome {send : Nat} {event : Event} {rest : List Event} (outcome : Outcome)
    (holding : Holding rows env own claim (event :: rest)) (sending : Sending env send event) :
    Holding rows { env with outcomes := env.outcomes ++ [(send, outcome)] } own claim
      (event :: rest) := by
  have grown : Grown ∅ rows rows env { env with outcomes := env.outcomes ++ [(send, outcome)] } :=
    grown_outcome rows env send outcome _ sending.logged ∅ rfl
  refine { holding with waiting := ?_, tried := ?_, writes := ?_ }
  · intro other member
    have waiting := holding.waiting other member
    exact ⟨waiting.row, cleared_stable grown waiting.cleared⟩
  · intro attempt member
    have facts := holding.tried attempt member
    refine { facts with told := ?_, agrees := ?_ }
    · intro place sentAt
      obtain ⟨known, told⟩ := facts.told place sentAt
      exact ⟨known, List.mem_append_left _ told⟩
    · intro place learnt sentAt learns
      rcases List.mem_append.mp learns with known | new
      · exact facts.agrees place learnt sentAt known
      · cases List.mem_singleton.mp new
        have logged := facts.logged _ sentAt
        rw [sending.logged, Option.some.injEq, Sent.mk.injEq] at logged
        exact absurd List.mem_cons_self
          (tried_not_waiting holding ⟨attempt, member, logged.1.symm⟩)
  · intro other value written
    obtain ⟨row, old, same, confirmed, found, unpublished⟩ := holding.writes other value written
    exact ⟨row, old, same, fun marked => confirmed_stable grown (confirmed marked), found,
      unpublished⟩

theorem answer_asserted {next : Answer → Pc} {value : Answer} (books : Books rows env)
    (assertedAt : AssertedAt rows env tx) (asked : request settings tx.pc = .await next)
    (accepted : Answered env tx.pc value later) :
    AssertedAt rows later { tx with pc := next value } := by
  obtain ⟨pc, own, progress⟩ := tx
  cases accepted with
  | sequence now id todo done =>
      cases asked
      obtain ⟨producing, locked⟩ := assertedAt
      refine ⟨{ producing with numbered := ?_ }, locked, Nat.lt_succ_self _, ?_⟩
      · intro event member
        exact Nat.lt_succ_of_lt (producing.numbered event member)
      · intro known member _
        exact books.numbered known member
  | sent now claim event rest =>
      cases asked
      have publishing : Publishing rows env _ claim (event :: rest) := assertedAt
      have logged : (env.sends ++ [({ event, stray := false } : Sent)])[env.sends.length]? =
          some { event, stray := false } := by simp
      refine ⟨?_, logged, ?_, ?_⟩
      · exact
          { publishing_stable (grown_send own rows env { event, stray := false }) publishing with }
      · intro outcome member
        exact Nat.lt_irrefl _ (books.told _ outcome member)
      · intro other sent after found
        have inside := (List.getElem?_eq_some_iff.mp found).1
        simp only [List.length_append, List.length_singleton] at inside
        omega
  | invalid now claim event rest =>
      cases asked
      have publishing : Publishing rows env _ claim (event :: rest) := assertedAt
      have held := waiting_held (publishing.holding.waiting event List.mem_cons_self)
      have facts : Tried env own { event, send := none, outcome := some .refused } :=
        { held
          sent := fun passes => by simp [Attempt.Passes] at passes
          logged := fun _ absent => nomatch absent
          told := fun _ absent => nomatch absent
          agrees := fun _ _ absent => nomatch absent }
      refine ⟨holding_tried publishing.holding publishing.passes facts, nofun,
        fun _ => stops_tried rfl, ?_, ?_, ?_⟩
      · intro attempt member confirmed
        rcases mem_tried member with before | rfl
        · exact publishing.marked attempt before confirmed
        · exact nomatch confirmed
      · exact ⟨_, List.mem_append_right _ List.mem_cons_self, rfl⟩
      · intro attempt member confirmed same
        rcases mem_tried member with before | rfl
        · exact tried_not_waiting publishing.holding ⟨attempt, before, same⟩ List.mem_cons_self
        · exact nomatch confirmed
  | outcome now claim send event rest outcome delivered =>
      cases asked
      obtain ⟨publishing, sending⟩ := assertedAt
      have held := waiting_held (publishing.holding.waiting event List.mem_cons_self)
      have facts : Tried { env with outcomes := env.outcomes ++ [(send, outcome)] } own
          { event, send := some send, outcome := some outcome } := by
        refine ⟨held, fun _ => Option.some_ne_none _, ?_, ?_, ?_⟩
        · intro place same
          cases same
          exact sending.logged
        · intro place same
          cases same
          exact ⟨outcome, List.mem_append_right _ List.mem_cons_self⟩
        · intro place learnt same member
          cases same
          rcases List.mem_append.mp member with known | new
          · exact absurd known (sending.untold learnt)
          · cases List.mem_singleton.mp new
            rfl
      have holding := holding_tried (holding_outcome outcome publishing.holding sending)
        publishing.passes facts
      have tried : ∃ attempt,
          attempt ∈ (claim.tried event (some send) (some outcome)).attempts ∧
          attempt.event = event := ⟨_, List.mem_append_right _ List.mem_cons_self, rfl⟩
      have earlier : ∀ attempt, attempt ∈ claim.attempts → attempt.event ≠ event :=
        fun attempt before same =>
          tried_not_waiting publishing.holding ⟨attempt, before, same⟩ List.mem_cons_self
      have failing : outcome ≠ .confirmed →
          Failing rows { env with outcomes := env.outcomes ++ [(send, outcome)] } own
            (claim.tried event (some send) (some outcome)) event rest outcome.halts := by
        intro failed
        refine ⟨holding, ?_, stops_tried, ?_, tried, ?_⟩
        · intro continues
          refine passes_tried publishing.passes (.inr ?_)
          cases outcome <;> simp_all [Outcome.halts]
        · intro attempt member confirmed
          rcases mem_tried member with before | rfl
          · exact publishing.marked attempt before confirmed
          · exact absurd (Option.some.inj confirmed) failed
        · intro attempt member confirmed
          rcases mem_tried member with before | rfl
          · exact earlier attempt before
          · exact absurd (Option.some.inj confirmed) failed
      cases outcome with
      | confirmed =>
          refine ⟨holding, passes_tried publishing.passes (.inl rfl), ?_, tried, ?_, ?_⟩
          · intro attempt member confirmed different
            rcases mem_tried member with before | rfl
            · exact publishing.marked attempt before confirmed nofun
            · exact absurd rfl different
          · exact ⟨send, _, List.mem_append_right _ List.mem_cons_self, sending.logged, rfl⟩
          · intro found underway
            exact nomatch publishing.idle.symm.trans underway
      | unroutable => exact failing nofun
      | refused => exact failing nofun
      | timedOut => exact failing nofun

theorem stimulus_undisturbed {value : Stimulus} (own : Own) (rows : Rows)
    (accepted : stimulus env value = some later) : Undisturbed own rows rows env later := by
  have same : Grown own rows rows env env :=
    { rows := fun _ _ => rfl
      nextSeq := Nat.le_refl _
      appended := fun _ member => member
      appends := fun _ member => .inl member
      sends := fun _ _ found => found
      outcomes := fun _ member => member
      learns := fun _ _ member => .inl member }
  cases value with
  | tick clock =>
      simp only [stimulus] at accepted
      split at accepted
      · cases accepted
        exact { same with sending := fun _ _ found => .inl found }
      · exact nomatch accepted
  | deliver send =>
      simp only [stimulus] at accepted
      split at accepted
      · cases accepted
        exact { same with sending := fun _ _ found => .inl found }
      · exact nomatch accepted
  | stray event =>
      simp only [stimulus] at accepted
      split at accepted
      · cases accepted
        refine { grown_send own rows env _ with sending := ?_ }
        intro send sent found
        rcases log_snoc found with before | ⟨_, rfl⟩
        · exact .inl before
        · exact .inr (.inl rfl)
      · exact nomatch accepted

theorem asserted_step {event : Step}
    (inv : Invariant world) (exclusive : Exclusive world)
    (moves : Moves (outbox settings) world event after) (other : Nat) (otherTx : Tx RowOf Pc)
    (present : after.active.lookup other = some otherTx) :
    AssertedAt after.committed after.env otherTx := by
  cases moves with
  | begin id pc fresh started =>
      rcases lookup_insert_cases present with ⟨_, rfl⟩ | ⟨_, before⟩
      · exact begins_asserted world.committed started
      · exact inv.asserted other otherTx before
  | run id pick tx moved found move =>
      rcases lookup_insert_cases present with ⟨_, rfl⟩ | ⟨_, before⟩
      · exact asserted_moves inv.books.kept inv.books.known (inv.asserted id tx found) move
      · exact inv.asserted other otherTx before
  | answer id value tx next env found asked accepted =>
      have assertedAt := inv.asserted id tx found
      have answered := answered_cases accepted
      rcases lookup_insert_cases present with ⟨_, rfl⟩ | ⟨different, before⟩
      · exact answer_asserted inv.books assertedAt asked answered
      · refine asserted_stable (answer_undisturbed assertedAt answered ?_)
          (inv.asserted other otherTx before)
        intro key held
        exact exclusive id other tx otherTx (Ne.symm different) found before key held
  | commit id tx found asked =>
      obtain ⟨different, before⟩ := lookup_erase_some present
      refine asserted_stable
        { grown_commit otherTx.own (inv.asserted id tx found) ?_ with
          sending := fun _ _ logged => .inl logged }
        (inv.asserted other otherTx before)
      intro key held
      exact exclusive id other tx otherTx (Ne.symm different) found before key held
  | abort id tx found =>
      exact asserted_stable
        { grown_abort otherTx.own world.committed world.env tx.pc with
          sending := fun _ _ logged => .inl logged }
        (inv.asserted other otherTx (lookup_erase_some present).2)
  | stimulus value env accepted =>
      exact asserted_stable (stimulus_undisturbed otherTx.own world.committed accepted)
        (inv.asserted other otherTx present)

/-- Who holds a row it has sent a message of. -/
theorem underway_held {send : Nat} (assertedAt : AssertedAt rows env tx)
    (found : underway tx.pc = some claim) (member : send ∈ claim.sends) :
    ∃ sent : Sent, env.sends[send]? = some sent ∧ ownEvent tx.own sent.event ≠ none := by
  obtain ⟨attempt, tried, sentAt⟩ := mem_sends.mp member
  have logged := (underway_orderly assertedAt found).1.2 attempt send tried sentAt
  refine ⟨_, logged, ?_⟩
  obtain ⟨pc, own, progress⟩ := tx
  cases pc with
  | publish now current rest =>
      cases found
      exact (assertedAt.holding.tried attempt tried).held
  | confirm now current place event rest =>
      cases found
      obtain ⟨publishing, _⟩ := assertedAt
      rcases mem_tried tried with before | rfl
      · exact (publishing.holding.tried attempt before).held
      · exact waiting_held (publishing.holding.waiting event List.mem_cons_self)
  | recordFailure now current event rest halts =>
      cases found
      have failing : Failing rows env own claim event rest halts := assertedAt
      exact (failing.holding.tried attempt tried).held
  | markPublished now current event rest =>
      cases found
      exact (assertedAt.holding.tried attempt tried).held
  | halted current =>
      cases found
      obtain ⟨_, rest, holding, _⟩ := assertedAt
      exact (holding.tried attempt tried).held
  | _ => exact nomatch found

/-- Before a relay sends a row, every message of it was spoiled. -/
theorem sent_before {id : Nat} {now : Int} {event : Event} {rest : List Event}
    {progress : Option (Progress RowOf)} (inv : Invariant world) (exclusive : Exclusive world)
    (found : world.active.lookup id =
      some { pc := .publish now claim (event :: rest), own, progress })
    (place : Nat) (other : Sent) (logged : world.env.sends[place]? = some other)
    (same : other.event = event) : Spoiled world.env place other := by
  have publishing : Publishing world.committed world.env _ claim (event :: rest) :=
    inv.asserted id _ found
  have waiting := publishing.holding.waiting event List.mem_cons_self
  rcases inv.placed place other logged with
    stray | ⟨ended, member, inClaim⟩ | ⟨owner, tx, current, present, isUnderway, inClaim⟩
  · exact .inl stray
  · cases committed : ended.committed with
    | false => exact .inr (.inr ⟨ended, member, committed, inClaim⟩)
    | true =>
        refine .inr (.inl ?_)
        intro confirmed
        obtain ⟨⟨row, _, stored, unpublished⟩, _⟩ := waiting
        rw [← same] at stored
        exact (inv.books.settled ended member committed place inClaim).2 other row logged
          confirmed stored unpublished
  · by_cases isOwner : owner = id
    · subst isOwner
      cases Option.some.inj (present.symm.trans found)
      cases isUnderway
      obtain ⟨attempt, tried, sentAt⟩ := mem_sends.mp inClaim
      have recorded := (publishing.holding.tried attempt tried).logged place sentAt
      cases Option.some.inj (logged.symm.trans recorded)
      exact absurd List.mem_cons_self
        (tried_not_waiting publishing.holding ⟨attempt, tried, same⟩)
    · obtain ⟨sent, sentThere, held⟩ :=
        underway_held (inv.asserted owner tx present) isUnderway inClaim
      cases Option.some.inj (logged.symm.trans sentThere)
      rw [same] at held
      exact absurd (exclusive owner id tx _ isOwner present found (Key.event event) held)
        (waiting_held waiting)

theorem books_step {event : Step}
    (inv : Invariant world) (exclusive : Exclusive world)
    (moves : Moves (outbox settings) world event after) : Books after.committed after.env := by
  cases moves with
  | begin => exact inv.books
  | run => exact inv.books
  | answer id value tx next env found asked accepted =>
      have assertedAt := inv.asserted id tx found
      have answered := answered_cases accepted
      obtain ⟨pc, own, progress⟩ := tx
      cases answered with
      | sequence => exact books_clock world.env.clock inv.books (Nat.le_succ _)
      | sent now claim event rest =>
          have waiting := assertedAt.holding.waiting event List.mem_cons_self
          exact books_send inv.books waiting.cleared (.inr (sent_before inv exclusive found))
      | invalid => exact inv.books
      | outcome now claim send event rest outcome delivered =>
          exact books_outcome inv.books assertedAt.2 delivered
  | commit id tx found asked => exact books_commit inv.books (inv.asserted id tx found) asked
  | abort id tx found => exact books_abort inv.books (inv.asserted id tx found)
  | stimulus value env accepted =>
      replace accepted : stimulus world.env value = some env := accepted
      cases value with
      | tick clock =>
          simp only [stimulus] at accepted
          split at accepted
          · cases accepted
            exact books_clock clock inv.books (Nat.le_refl _)
          · exact nomatch accepted
      | deliver send =>
          simp only [stimulus] at accepted
          split at accepted
          · rename_i inside
            cases accepted
            exact books_deliver inv.books inside
          · exact nomatch accepted
      | stray event =>
          simp only [stimulus] at accepted
          split at accepted
          · rename_i member
            cases accepted
            exact books_send inv.books (inv.books.strays event member) (.inl rfl)
          · exact nomatch accepted

/-- A local step keeps the claim under way. -/
theorem underway_kept {taken : Key → Bool} {pick : Option Key} {moved : Tx RowOf Pc}
    (move : LocalMove (outbox settings) rows taken tx pick moved)
    (found : underway tx.pc = some claim) : underway moved.pc = some claim := by
  obtain ⟨pc, own, progress⟩ := tx
  refine local_pc (fun next => underway next = some claim) found ?_ move
  cases pc with
  | publish now current rest =>
      cases rest with
      | nil => trivial
      | cons event rest => exact absurd move (no_local_move (.inr (.inr ⟨_, rfl⟩)))
  | confirm => exact absurd move (no_local_move (.inr (.inr ⟨_, rfl⟩)))
  | recordFailure now current event rest halts =>
      intro snapshot hits
      dsimp only [updating]
      cases halts <;> exact found
  | markPublished => exact fun snapshot hits => found
  | halted => trivial
  | _ => exact nomatch found

/-- An answer adds to the claim under way what it sends. -/
theorem answer_underway {next : Answer → Pc} {value : Answer} {send : Nat}
    (asked : request settings tx.pc = .await next) (accepted : Answered env tx.pc value later)
    (found : underway tx.pc = some claim) (member : send ∈ claim.sends) :
    ∃ claim, underway (next value) = some claim ∧ send ∈ claim.sends := by
  obtain ⟨pc, own, progress⟩ := tx
  cases accepted with
  | sequence => exact nomatch found
  | sent now current event rest =>
      cases asked
      cases found
      exact ⟨_, rfl, (sends_tried claim event send _ none).mpr (.inl member)⟩
  | invalid now current event rest =>
      cases asked
      cases found
      exact ⟨_, rfl, (sends_tried claim event send none _).mpr (.inl member)⟩
  | outcome now current place event rest outcome delivered =>
      cases asked
      cases found
      have inClaim : send ∈ (current.tried event (some place) (some outcome)).sends :=
        (sends_tried current event send _ _).mpr ((sends_tried current event send _ _).mp member)
      cases outcome <;> exact ⟨_, rfl, inClaim⟩

theorem placed_step {event : Step}
    (inv : Invariant world) (moves : Moves (outbox settings) world event after) :
    Placed after := by
  have placed := inv.placed
  cases moves with
  | begin id pc fresh started =>
      intro send sent logged
      rcases placed send sent logged with stray | ended | ⟨owner, tx, claim, present, rest⟩
      · exact .inl stray
      · exact .inr (.inl ended)
      · refine .inr (.inr ⟨owner, tx, claim, ?_, rest⟩)
        have different : owner ≠ id := by
          rintro rfl
          exact nomatch fresh.symm.trans present
        exact (AList.lookup_insert_ne different).trans present
  | run id pick tx moved found move =>
      intro send sent logged
      rcases placed send sent logged with
        stray | ended | ⟨owner, ownerTx, claim, present, isUnderway, member⟩
      · exact .inl stray
      · exact .inr (.inl ended)
      · by_cases same : owner = id
        · subst same
          cases Option.some.inj (present.symm.trans found)
          exact .inr (.inr ⟨owner, moved, claim, AList.lookup_insert _,
            underway_kept move isUnderway, member⟩)
        · exact .inr (.inr ⟨owner, ownerTx, claim, (AList.lookup_insert_ne same).trans present,
            isUnderway, member⟩)
  | answer id value tx next env found asked accepted =>
      have answered := answered_cases accepted
      have old : ∀ (send : Nat) (sent : Sent), world.env.sends[send]? = some sent →
          sent.stray = true ∨ (∃ claim, claim ∈ env.claims ∧ send ∈ claim.sends) ∨
          ∃ owner ownerTx claim,
            (world.active.insert id { tx with pc := next value }).lookup owner = some ownerTx ∧
            underway ownerTx.pc = some claim ∧ send ∈ claim.sends := by
        have claims : env.claims = world.env.claims := by
          cases tx
          cases answered <;> rfl
        rw [claims]
        intro send sent logged
        rcases placed send sent logged with
          stray | ended | ⟨owner, ownerTx, claim, present, isUnderway, member⟩
        · exact .inl stray
        · exact .inr (.inl ended)
        · by_cases same : owner = id
          · subst same
            cases Option.some.inj (present.symm.trans found)
            obtain ⟨claim, goesOn, member⟩ := answer_underway asked answered isUnderway member
            exact .inr (.inr ⟨owner, _, claim, AList.lookup_insert _, goesOn, member⟩)
          · exact .inr (.inr ⟨owner, ownerTx, claim,
              (AList.lookup_insert_ne same).trans present, isUnderway, member⟩)
      intro send sent logged
      obtain ⟨pc, own, progress⟩ := tx
      cases answered with
      | sequence => exact old send sent logged
      | sent now claim event rest =>
          rcases log_snoc logged with before | ⟨rfl, rfl⟩
          · exact old send sent before
          · cases asked
            exact .inr (.inr ⟨id, _, _, AList.lookup_insert _, rfl,
              (sends_tried claim event _ _ none).mpr (.inr rfl)⟩)
      | invalid => exact old send sent logged
      | outcome => exact old send sent logged
  | commit id tx found asked =>
      intro send sent logged
      rcases placed send sent logged with
        stray | ⟨claim, ended, member⟩ | ⟨owner, ownerTx, claim, present, isUnderway, member⟩
      · exact .inl stray
      · exact .inr (.inl ⟨claim, List.mem_append_left _ ended, member⟩)
      · by_cases same : owner = id
        · subst same
          cases Option.some.inj (present.symm.trans found)
          refine .inr (.inl ⟨claim.commit, List.mem_append_right _ ?_, member⟩)
          exact List.mem_map_of_mem (Option.mem_toList.mpr isUnderway)
        · exact .inr (.inr ⟨owner, ownerTx, claim, (AList.lookup_erase_ne same).trans present,
            isUnderway, member⟩)
  | abort id tx found =>
      intro send sent logged
      rcases placed send sent logged with
        stray | ⟨claim, ended, member⟩ | ⟨owner, ownerTx, claim, present, isUnderway, member⟩
      · exact .inl stray
      · exact .inr (.inl ⟨claim, List.mem_append_left _ ended, member⟩)
      · by_cases same : owner = id
        · subst same
          cases Option.some.inj (present.symm.trans found)
          refine .inr (.inl ⟨claim, List.mem_append_right _ ?_, member⟩)
          exact Option.mem_toList.mpr isUnderway
        · exact .inr (.inr ⟨owner, ownerTx, claim, (AList.lookup_erase_ne same).trans present,
            isUnderway, member⟩)
  | stimulus value env accepted =>
      intro send sent logged
      replace accepted : stimulus world.env value = some env := accepted
      cases value with
      | tick clock =>
          simp only [stimulus] at accepted
          split at accepted
          · cases accepted
            exact placed send sent logged
          · exact nomatch accepted
      | deliver place =>
          simp only [stimulus] at accepted
          split at accepted
          · cases accepted
            exact placed send sent logged
          · exact nomatch accepted
      | stray event =>
          simp only [stimulus] at accepted
          split at accepted
          · cases accepted
            rcases log_snoc logged with before | ⟨_, rfl⟩
            · exact placed send sent before
            · exact .inl rfl
          · exact nomatch accepted

theorem invariant_opened (clock : Int) : Invariant (idle ∅ (opened clock)) := by
  constructor
  · intro id tx found
    exact nomatch found
  · constructor
    · intro event row present
      exact nomatch present
    · intro event member
      exact nomatch member
    · intro event member
      exact nomatch member
    · intro send sent logged
      exact nomatch logged
    · intro event member
      exact nomatch member
    · intro send member
      exact nomatch member
    · intro send outcome member
      exact nomatch member
    · intro send member
      exact nomatch member
    · intro before send after sent earlier split logged
      exact nomatch logged
    · intro first later firstSent laterSent precedes logged
      exact nomatch logged
    · intro claim member
      exact nomatch member
    · intro claim member
      exact nomatch member
  · intro send sent logged
    exact nomatch logged

end Steps

/-! ## Every run -/

/-- What the relays promise of the outbox and what was sent from it. -/
structure Safe (rows : Rows) (env : Env) : Prop where
  known : ∀ event row, eventRow rows event = some row → event ∈ env.appended
  kept : Kept rows env
  ordered : Ordered env
  once : Once env
  claims : ∀ claim, claim ∈ env.claims → claim.Orderly ∧ claim.Logged env

theorem relays_safe (settings : Settings) (clock : Int) (world : System)
    (run : Run (outbox settings) (fun _ _ => True) (idle ∅ (opened clock)) world) :
    Safe world.committed world.env := by
  have reached := invariant_run
    (fun _ _ _ inv exclusive _ moves =>
      ⟨asserted_step inv exclusive moves, books_step inv exclusive moves, placed_step inv moves⟩)
    (invariant_opened clock) (exclusive_idle ∅ (opened clock)) run
  have books := reached.1.books
  exact ⟨books.known, books.kept, books.ordered, books.once, books.claims⟩

def trialSettings : Settings := { backoffMs := 1000, maxBackoffMs := 60000, outboxRetention := 10 }

def firstStep : Event := { aggregateId := "order", seq := 0 }

def walletIssued : Event := { aggregateId := "wallet", seq := 1 }

/-- Three events of two aggregates, and a claim in which nobody listens for the
first: the other aggregate's goes out, and the second waits behind the first. -/
def trial : List Step :=
  [.begin 1 (.append 0 ["order", "wallet", "order"] []),
    .run 1 none, .answer 1 (.sequence 0), .run 1 none,
    .run 1 none, .answer 1 (.sequence 1), .run 1 none,
    .run 1 none, .run 1 none, .run 1 (some (.aggregate "order")), .run 1 none,
    .answer 1 (.sequence 2), .run 1 none, .commit 1,
    .begin 2 (.claim 0 100), .run 2 none, .run 2 (some (.event firstStep)),
    .run 2 (some (.event walletIssued)), .run 2 none,
    .answer 2 (.sent 0), .answer 2 (.outcome .unroutable),
    .run 2 none, .run 2 (some (.event firstStep)), .run 2 none,
    .answer 2 (.sent 1), .stimulus (.deliver 1), .answer 2 (.outcome .confirmed),
    .run 2 none, .run 2 (some (.event walletIssued)), .run 2 none, .commit 2]

theorem unroutable_holds_back_its_aggregate : ∃ world,
    Run (outbox trialSettings) (fun _ _ => True) (idle ∅ (opened 0)) world ∧
    world.env.deliveries = [1] ∧
    (eventRow world.committed walletIssued).map OutboxRow.publishedAt = some (some 0) ∧
    (eventRow world.committed firstStep).map OutboxRow.publishedAt = some none ∧
    Safe world.committed world.env := by
  have reached : (steps (outbox trialSettings) (fun _ _ => True) (idle ∅ (opened 0)) trial).map
      (fun world => (world.env.deliveries,
        (eventRow world.committed walletIssued).map OutboxRow.publishedAt,
        (eventRow world.committed firstStep).map OutboxRow.publishedAt)) =
      some ([1], some (some 0), some none) := by decide
  obtain ⟨world, stepped, seen⟩ := Option.map_eq_some_iff.mp reached
  simp only [Prod.mk.injEq] at seen
  have run := run_steps .refl _ stepped
  exact ⟨world, run, seen.1, seen.2.1, seen.2.2, relays_safe trialSettings 0 world run⟩

end Foc.Outbox
