import Foc.Platform.Inbox

/-!
An event has its effect at most once. While the inbox row is there, the primary
key refuses a second effect; once the row is pruned, no copy may be left that
could come back. The pruner looks at waiting dead letters only: not at a copy on
its way to becoming one, nor at one redriven or delivered and not yet handled.
-/
namespace Foc.Inbox
open Library.ReadCommitted

abbrev Own := Writes RowOf

abbrev System := World RowOf Pc Env

abbrev Step := Event Key Pc Answer Stimulus

def ownProcessed (own : Own) (consumer : Consumer) (eventId : EventId) :
    Option (Option Processed) :=
  own.lookup (Key.processed consumer eventId)

def ownLetter (own : Own) (id : LetterId) : Option (Option DeadLetter) :=
  own.lookup (Key.letter id)

def Delivery.concerns (delivery : Delivery) (consumer : Consumer) (eventId : EventId) : Bool :=
  decide (delivery.consumer = consumer) && decide (delivery.eventId.uuid = eventId)

/-- The delivery a transaction has yet to handle, or to park. -/
def Pc.inHand : Pc → Option Delivery
  | .insertProcessed delivery _ => some delivery
  | .insertDeadLetter _ delivery => some delivery
  | .parked delivery => some delivery
  | _ => none

/-! ## Conditions on a run -/

def expired (retention : Int) (env : Env) (delivery : Delivery) : Bool :=
  env.effects.any fun effect => delivery.concerns effect.consumer effect.eventId &&
    decide (effect.processedAt + retention < env.clock)

/-- A copy that no redrive sent reaches the consumer later than `inboxDays` after
its event was first processed. -/
def late (retention : Int) (world : System) : Step → Bool
  | .stimulus (.deliver copy) => (world.env.copies.lookup copy).any fun copy =>
      !copy.delivery.redriven && expired retention world.env copy.delivery
  | _ => false

/-- A copy of the event is unsettled and was redriven, delivered or dead-lettered,
is being handled or parked, or waits as a dead letter that the snapshot does not
show waiting. -/
def outstanding (world : System) (snapshot : Rows) (consumer : Consumer) (eventId : EventId) :
    Bool :=
  (world.env.copies.entries.any fun copy => copy.2.delivery.concerns consumer eventId &&
    (copy.2.delivery.redriven || decide (copy.2.place ≠ .queued))) ||
  (world.active.entries.any fun tx => tx.2.pc.inHand.any fun delivery =>
    delivery.concerns consumer eventId) ||
  world.committed.entries.any fun
    | ⟨.letter id, row⟩ => decide (row.queue = consumer) && decide (row.eventId.uuid = eventId) &&
        row.redrivenAt.isNone && !(letterRow snapshot id).any fun seen =>
          decide (seen.eventId = { uuid := eventId, canonical := true }) && seen.redrivenAt.isNone
    | _ => false

/-- The pruner takes the inbox row of an event of which a copy is outstanding. -/
def prunedEarly (world : System) : Step → Bool
  | .run id (some (.processed consumer eventId)) => (world.active.lookup id).any fun tx =>
      match tx.pc, tx.progress with
      | .pruneInbox .., some progress => outstanding world progress.snapshot consumer eventId
      | _, _ => false
  | _ => false

/-! ## The invariant -/

/-- No copy of the event can come back but one that came too late. -/
structure Quiet (world : System) (consumer : Consumer) (eventId : EventId) : Prop where
  copies : ∀ id copy, world.env.copies.lookup id = some copy →
    copy.delivery.concerns consumer eventId = true →
    copy.delivery.redriven = false ∧ copy.place = .queued
  inHand : ∀ id tx delivery, world.active.lookup id = some tx → tx.pc.inHand = some delivery →
    delivery.concerns consumer eventId = false
  letters : ∀ id row, letterRow world.committed id = some row → row.redrivenAt = none →
    row.queue = consumer → row.eventId.uuid ≠ eventId

structure Gone (retention : Int) (world : System) (consumer : Consumer) (eventId : EventId)
    (processedAt : Int) : Prop where
  expired : processedAt + retention < world.env.clock
  quiet : Quiet world consumer eventId

/-- The transaction has inserted the inbox row and nothing else. -/
structure Claimed (rows : Rows) (env : Env) (own : Own) (delivery : Delivery) (now : Int) :
    Prop where
  written : ownProcessed own delivery.consumer delivery.eventId.uuid =
    some (some { processedAt := now })
  only : ∀ consumer eventId value, ownProcessed own consumer eventId = some value →
    delivery.concerns consumer eventId = true
  letters : ∀ id, ownLetter own id = none
  absent : processedRow rows delivery.consumer delivery.eventId.uuid = none
  first : ∀ effect, effect ∈ env.effects →
    delivery.concerns effect.consumer effect.eventId = false

/-- The transaction has written one dead letter at most, to stamp it. -/
structure Stamping (rows : Rows) (own : Own) : Prop where
  processed : ∀ consumer eventId, ownProcessed own consumer eventId = none
  letters : ∀ id value, ownLetter own id = some value → ∃ old new,
    letterRow rows id = some old ∧ value = some new ∧ new.queue = old.queue ∧
      new.eventId = old.eventId ∧ (new.redrivenAt = none → old.redrivenAt = none)

/-- The transaction has locked a dead letter at most. -/
structure Locking (rows : Rows) (own : Own) (id : LetterId)
    (progress : Option (Progress RowOf)) : Prop where
  processed : ∀ consumer eventId, ownProcessed own consumer eventId = none
  letters : ∀ other value, ownLetter own other = some value →
    ∃ row, value = some row ∧ letterRow rows other = some row
  hits : ∀ found other row, progress = some found →
    (⟨Key.letter other, row⟩ : Sigma RowOf) ∈ found.hits →
    other = id ∧ ownLetter own id = some (some row)

structure Publishing (rows : Rows) (own : Own) (id : LetterId) (letter : DeadLetter) : Prop where
  stamping : Stamping rows own
  held : ownLetter own id ≠ none
  found : letterRow rows id = some letter
  waiting : letter.redrivenAt = none

structure Parked (own : Own) (delivery : Delivery) : Prop where
  processed : ∀ consumer eventId, ownProcessed own consumer eventId = none
  letters : ∀ id value, ownLetter own id = some value → ∃ row, value = some row ∧
    row.queue = delivery.consumer ∧ row.eventId = delivery.eventId

structure Pruning (env : Env) (own : Own) (now : Int) : Prop where
  letters : ∀ id, ownLetter own id = none
  deletes : ∀ consumer eventId value, ownProcessed own consumer eventId = some value →
    value = none
  current : now ≤ env.clock

def Blank (own : Own) : Prop :=
  (∀ consumer eventId, ownProcessed own consumer eventId = none) ∧ ∀ id, ownLetter own id = none

def AssertedAt (rows : Rows) (env : Env) (tx : Tx RowOf Pc) : Prop :=
  match tx.pc with
  | .insertProcessed .. => Blank tx.own
  | .applyEffect delivery now => Claimed rows env tx.own delivery now
  | .processed delivery now true => Claimed rows env tx.own delivery now
  | .processed _ _ false => Blank tx.own
  | .insertDeadLetter .. => Blank tx.own
  | .parked delivery => Parked tx.own delivery
  | .lockDeadLetter id _ => Locking rows tx.own id tx.progress
  | .publishToQueue id letter _ => Publishing rows tx.own id letter
  | .stampRedriven .. => Stamping rows tx.own
  | .redriven => Stamping rows tx.own
  | .pruneInbox now _ => Pruning env tx.own now
  | .pruned => ∃ now, Pruning env tx.own now
  | .failed => True

def Effect.Recorded (retention : Int) (world : System) (effect : Effect) : Prop :=
  (∃ row, processedRow world.committed effect.consumer effect.eventId = some row ∧
      row.processedAt = effect.processedAt) ∨
    Gone retention world effect.consumer effect.eventId effect.processedAt

def Effect.key (effect : Effect) : Consumer × EventId := (effect.consumer, effect.eventId)

structure Invariant (retention : Int) (world : System) : Prop where
  asserted : ∀ id tx, world.active.lookup id = some tx →
    AssertedAt world.committed world.env tx
  distinct : (world.env.effects.map Effect.key).Nodup
  recorded : ∀ effect, effect ∈ world.env.effects → effect.Recorded retention world
  explained : ∀ consumer eventId row, processedRow world.committed consumer eventId = some row →
    { consumer, eventId, processedAt := row.processedAt } ∈ world.env.effects
  pruning : ∀ id tx consumer eventId, world.active.lookup id = some tx →
    ownProcessed tx.own consumer eventId = some none →
    ∃ row, processedRow world.committed consumer eventId = some row ∧
      Gone retention world consumer eventId row.processedAt

/-! ## Nothing comes back -/

section Queues

variable {env after : Env}

theorem has_copy {delivery : Delivery} {place : Place} (has : env.has delivery place = true) :
    ∃ id, env.copies.lookup id = some { delivery, place } := by
  simp only [Env.has, List.any_eq_true, decide_eq_true_eq] at has
  obtain ⟨⟨id, copy⟩, member, rfl⟩ := has
  exact ⟨id, AList.mem_lookup_iff.mpr member⟩

theorem add_copy {id : Nat} {copy : Copy} (added : env.add id copy = some after) :
    after = { env with copies := env.copies.insert id copy } := by
  unfold Env.add at added
  split at added
  · exact (Option.some.inj added).symm
  · exact nomatch added

theorem move_copy {id : Nat} {source target : Place}
    (moved : env.move id source target = some after) :
    ∃ copy, env.copies.lookup id = some copy ∧ copy.place = source ∧
      after = { env with copies := env.copies.insert id { copy with place := target } } := by
  simp only [Env.move, Option.bind_eq_bind, Option.bind_eq_some_iff] at moved
  obtain ⟨copy, present, moved⟩ := moved
  split at moved
  · rename_i there
    exact ⟨copy, present, there, (Option.some.inj moved).symm⟩
  · exact nomatch moved

end Queues

section Gone

variable {retention : Int} {world after : System} {event : Step} {consumer : Consumer}
  {eventId : EventId} {processedAt : Int}

theorem in_hand_kept {rows : Rows} {taken : Key → Bool} {pick : Option Key}
    {tx moved : Tx RowOf Pc} {delivery : Delivery}
    (move : LocalMove (service retention) rows taken tx pick moved)
    (inHand : moved.pc.inHand = some delivery) : tx.pc.inHand = some delivery := by
  have kept : (request retention tx.pc).All fun next =>
      next.inHand = some delivery → tx.pc.inHand = some delivery := by
    cases tx.pc with
    | insertProcessed found now =>
        intro inserted
        cases inserted <;> exact fun absurd => nomatch absurd
    | insertDeadLetter id found =>
        intro inserted
        cases inserted
        · exact fun absurd => nomatch absurd
        · exact fun same => same
    | lockDeadLetter id now =>
        intro snapshot hits
        dsimp only [afterLock]
        split
        · exact fun absurd => nomatch absurd
        · split <;> exact fun absurd => nomatch absurd
    | stampRedriven id now => exact fun snapshot hits absurd => nomatch absurd
    | pruneInbox now batchSize => exact fun snapshot hits absurd => nomatch absurd
    | applyEffect found now =>
        intro value
        cases value with
        | effect succeeds => cases succeeds <;> exact fun absurd => nomatch absurd
        | published copy => exact fun absurd => nomatch absurd
        | failed copy => exact fun absurd => nomatch absurd
    | publishToQueue id letter now =>
        intro value
        cases value <;> exact fun absurd => nomatch absurd
    | processed => trivial
    | parked => trivial
    | redriven => trivial
    | pruned => trivial
    | failed => trivial
  exact local_pc (fun next => next.inHand = some delivery → tx.pc.inHand = some delivery) id kept
    move inHand

theorem begins_in_hand {env : Env} {pc : Pc} {delivery : Delivery} (started : starts env pc = true)
    (inHand : pc.inHand = some delivery) : ∃ id copy, env.copies.lookup id = some copy ∧
      copy.delivery = delivery ∧ copy.place ≠ .queued := by
  cases pc with
  | insertProcessed found now =>
      simp only [starts, Bool.and_eq_true] at started
      obtain ⟨id, present⟩ := has_copy started.2
      cases inHand
      exact ⟨id, _, present, rfl, fun queued => nomatch queued⟩
  | insertDeadLetter id found =>
      obtain ⟨copy, present⟩ := has_copy started
      cases inHand
      exact ⟨copy, _, present, rfl, fun queued => nomatch queued⟩
  | parked => exact nomatch started
  | _ => exact nomatch inHand

theorem finished_clock (env : Env) (pc : Pc) : (finished env pc).clock = env.clock := by
  unfold finished
  split <;> rfl

theorem finished_copies (env : Env) (pc : Pc) : (finished env pc).copies = env.copies := by
  unfold finished
  split <;> rfl

theorem processed_overlay (rows : Rows) (own : Own) (consumer : Consumer) (eventId : EventId) :
    processedRow (overlay rows own) consumer eventId =
      (ownProcessed own consumer eventId).getD (processedRow rows consumer eventId) :=
  lookup_overlay rows own (Key.processed consumer eventId)

theorem letter_overlay (rows : Rows) (own : Own) (id : LetterId) :
    letterRow (overlay rows own) id = (ownLetter own id).getD (letterRow rows id) :=
  lookup_overlay rows own (Key.letter id)

/-- A dead letter a commit writes was parked from a delivery in hand, or is an
older one, waiting only if it was. -/
theorem committed_letter {rows : Rows} {env : Env} {tx : Tx RowOf Pc} {id : LetterId}
    {value : Option DeadLetter} (assertedAt : AssertedAt rows env tx)
    (asked : request retention tx.pc = .commit) (written : ownLetter tx.own id = some value) :
    (∃ delivery row, tx.pc.inHand = some delivery ∧ value = some row ∧
        row.queue = delivery.consumer ∧ row.eventId = delivery.eventId) ∨
      ∃ old new, letterRow rows id = some old ∧ value = some new ∧ new.queue = old.queue ∧
        new.eventId = old.eventId ∧ (new.redrivenAt = none → old.redrivenAt = none) := by
  obtain ⟨pc, own, progress⟩ := tx
  cases pc with
  | processed delivery now applied =>
      have untouched : ownLetter own id = none := by
        cases applied with
        | true => exact assertedAt.letters id
        | false => exact assertedAt.2 id
      exact nomatch untouched.symm.trans written
  | parked delivery =>
      obtain ⟨row, same, queue, eventId⟩ := assertedAt.letters id value written
      exact .inl ⟨delivery, row, rfl, same, queue, eventId⟩
  | redriven => exact .inr (assertedAt.letters id value written)
  | pruned =>
      obtain ⟨now, pruning⟩ := assertedAt
      exact nomatch (pruning.letters id).symm.trans written
  | _ => exact nomatch asked

theorem concerns_iff {delivery : Delivery} : delivery.concerns consumer eventId = true ↔
    delivery.consumer = consumer ∧ delivery.eventId.uuid = eventId := by
  simp [Delivery.concerns]

/-- A redrive at its broker holds a dead letter that waits. -/
theorem gone_publish {letter : DeadLetter} {id : LetterId} {own : Own}
    (quiet : Quiet world consumer eventId) (publishing : Publishing world.committed own id letter) :
    Delivery.concerns { consumer := letter.queue, eventId := letter.eventId, redriven := true }
      consumer eventId = false := by
  by_contra concerns
  rw [Bool.not_eq_false, concerns_iff] at concerns
  exact quiet.letters id letter publishing.found publishing.waiting concerns.1 concerns.2

theorem quiet_insert {copy : Copy} (id : Nat) (quiet : Quiet world consumer eventId)
    (harmless : copy.delivery.concerns consumer eventId = true →
      copy.delivery.redriven = false ∧ copy.place = .queued) :
    Quiet { world with env := { world.env with copies := world.env.copies.insert id copy } }
      consumer eventId := by
  refine ⟨?_, quiet.inHand, quiet.letters⟩
  intro other found present concerns
  rcases lookup_insert_cases present with ⟨_, rfl⟩ | ⟨_, before⟩
  · exact harmless concerns
  · exact quiet.copies other found before concerns

theorem quiet_copy {copy : Copy} {id : Nat} {env : Env} (quiet : Quiet world consumer eventId)
    (harmless : copy.delivery.concerns consumer eventId = true →
      copy.delivery.redriven = false ∧ copy.place = .queued)
    (added : world.env.add id copy = some env) :
    Quiet { world with env } consumer eventId ∧ env.clock = world.env.clock := by
  cases add_copy added
  exact ⟨quiet_insert id quiet harmless, rfl⟩

theorem quiet_active {id : Nat} {moved : Tx RowOf Pc} {env : Env}
    (quiet : Quiet { world with env } consumer eventId)
    (inHand : ∀ delivery, moved.pc.inHand = some delivery →
      delivery.concerns consumer eventId = false) :
    Quiet { world with env, active := world.active.insert id moved } consumer eventId := by
  refine ⟨quiet.copies, ?_, quiet.letters⟩
  intro other tx delivery found held
  rcases lookup_insert_cases found with ⟨_, rfl⟩ | ⟨_, before⟩
  · exact inHand delivery held
  · exact quiet.inHand other tx delivery before held

/-- What a redrive or an effect answers leaves nothing of the event behind. -/
theorem quiet_answer {id : Nat} {tx : Tx RowOf Pc} {value : Answer} {env : Env}
    (inv : Invariant retention world) (quiet : Quiet world consumer eventId)
    (found : world.active.lookup id = some tx)
    (accepted : answered world.env tx.pc value = some env) :
    Quiet { world with env } consumer eventId ∧ env.clock = world.env.clock := by
  have assertedAt := inv.asserted id tx found
  obtain ⟨pc, own, progress⟩ := tx
  dsimp only at accepted
  unfold answered at accepted
  split at accepted
  · cases accepted
    exact ⟨quiet, rfl⟩
  · refine quiet_copy quiet (fun concerns => ?_) accepted
    exact absurd ((gone_publish quiet assertedAt).symm.trans concerns) Bool.false_ne_true
  · refine quiet_copy quiet (fun concerns => ?_) accepted
    exact absurd ((gone_publish quiet assertedAt).symm.trans concerns) Bool.false_ne_true
  · cases accepted
    exact ⟨quiet, rfl⟩
  · exact nomatch accepted

theorem gone_stimulus {value : Stimulus} {env : Env}
    (onTime : late retention world (.stimulus value) = false)
    (known : { consumer, eventId, processedAt } ∈ world.env.effects)
    (gone : Gone retention world consumer eventId processedAt)
    (accepted : stimulus world.env value = some env) :
    Gone retention { world with env } consumer eventId processedAt := by
  obtain ⟨past, quiet⟩ := gone
  cases value with
  | tick clock =>
      simp only [stimulus] at accepted
      split at accepted
      · rename_i later
        cases accepted
        exact ⟨Int.lt_of_lt_of_le past later, ⟨quiet.copies, quiet.inHand, quiet.letters⟩⟩
      · exact nomatch accepted
  | publish copy publishedTo publishedId =>
      obtain ⟨still, clock⟩ := quiet_copy quiet (fun _ => ⟨rfl, rfl⟩) accepted
      exact ⟨by rw [clock]; exact past, still⟩
  | deliver copy =>
      obtain ⟨found, present, queued, rfl⟩ := move_copy accepted
      have harmless : found.delivery.concerns consumer eventId = false := by
        by_contra concerns
        rw [Bool.not_eq_false] at concerns
        have ordinary := (quiet.copies copy found present concerns).1
        have tooLate : expired retention world.env found.delivery = true := by
          simp only [expired, List.any_eq_true, Bool.and_eq_true, decide_eq_true_eq]
          exact ⟨_, known, concerns, past⟩
        simp [late, present, ordinary, tooLate] at onTime
      refine ⟨past, quiet_insert copy quiet fun concerns => ?_⟩
      exact absurd (harmless.symm.trans concerns) Bool.false_ne_true
  | requeue copy =>
      obtain ⟨found, present, held, rfl⟩ := move_copy accepted
      refine ⟨past, quiet_insert copy quiet fun concerns => ?_⟩
      exact nomatch held.symm.trans (quiet.copies copy found present concerns).2
  | resend copy sent dead =>
      simp only [stimulus, Option.bind_eq_bind, Option.bind_eq_some_iff] at accepted
      obtain ⟨found, present, accepted⟩ := accepted
      split at accepted
      · rename_i held
        cases add_copy accepted
        refine ⟨past, quiet_insert sent quiet fun concerns => ?_⟩
        exact nomatch held.symm.trans (quiet.copies copy found present concerns).2
      · exact nomatch accepted
  | settle copy =>
      cases accepted
      refine ⟨past, ⟨?_, quiet.inHand, quiet.letters⟩⟩
      intro id found present
      exact quiet.copies id found (lookup_erase_some present).2

/-- Once no copy of a processed event can come back, none can later. -/
theorem gone_step (inv : Invariant retention world) (onTime : late retention world event = false)
    (moves : Moves (service retention) world event after)
    (known : { consumer, eventId, processedAt } ∈ world.env.effects)
    (gone : Gone retention world consumer eventId processedAt) :
    Gone retention after consumer eventId processedAt := by
  obtain ⟨past, quiet⟩ := gone
  cases moves with
  | begin id pc fresh started =>
      refine ⟨past, quiet_active quiet fun delivery inHand => ?_⟩
      obtain ⟨copyId, copy, present, rfl, back⟩ := begins_in_hand started inHand
      by_contra concerns
      rw [Bool.not_eq_false] at concerns
      exact back (quiet.copies copyId copy present concerns).2
  | run id pick tx moved found move =>
      refine ⟨past, quiet_active quiet fun delivery inHand => ?_⟩
      exact quiet.inHand id tx delivery found (in_hand_kept move inHand)
  | answer id value tx next env found asked accepted =>
      obtain ⟨still, clock⟩ := quiet_answer inv quiet found accepted
      refine ⟨by dsimp only; rw [clock]; exact past, quiet_active still ?_⟩
      intro delivery inHand
      obtain ⟨pc, own, progress⟩ := tx
      cases pc with
      | applyEffect delivery now =>
          cases asked
          cases value with
          | effect succeeds => cases succeeds <;> exact nomatch inHand
          | published copy => exact nomatch inHand
          | failed copy => exact nomatch inHand
      | publishToQueue letterId letter now =>
          cases asked
          cases value <;> exact nomatch inHand
      | _ => exact nomatch asked
  | commit id tx found asked =>
      refine ⟨by rw [show (service retention).finished = finished from rfl, finished_clock]; exact past,
        ?_, ?_, ?_⟩
      · intro copyId copy present
        rw [show (service retention).finished = finished from rfl, finished_copies] at present
        exact quiet.copies copyId copy present
      · intro other otherTx delivery present
        exact quiet.inHand other otherTx delivery (lookup_erase_some present).2
      · intro letterId row present waits queue
        rw [letter_overlay] at present
        cases written : ownLetter tx.own letterId with
        | none =>
            rw [written] at present
            exact quiet.letters letterId row present waits queue
        | some value =>
            rw [written] at present
            rcases committed_letter (inv.asserted id tx found) asked written with
              ⟨delivery, parked, inHand, same, fromQueue, fromEvent⟩ |
              ⟨old, new, before, same, sameQueue, sameEvent, wasWaiting⟩
            · have isRow : parked = row := Option.some.inj (same.symm.trans present)
              subst isRow
              intro isEvent
              have other := quiet.inHand id tx delivery found inHand
              rw [fromQueue] at queue
              rw [fromEvent] at isEvent
              exact nomatch other.symm.trans (concerns_iff.mpr ⟨queue, isEvent⟩)
            · have isRow : new = row := Option.some.inj (same.symm.trans present)
              subst isRow
              rw [sameEvent]
              exact quiet.letters letterId old before (wasWaiting waits) (sameQueue ▸ queue)
  | abort id =>
      refine ⟨past, quiet.copies, ?_, quiet.letters⟩
      intro other tx delivery present
      exact quiet.inHand other tx delivery (lookup_erase_some present).2
  | stimulus value env accepted =>
      exact gone_stimulus onTime known ⟨past, quiet⟩ accepted

end Gone

/-! ## Assertions -/

section Asserted

variable {retention : Int} {rows after : Rows} {env later : Env} {taken : Key → Bool}
  {pick : Option Key} {own : Own}

theorem processed_insert (own : Own) (consumer : Consumer) (eventId : EventId)
    (value : Option Processed) :
    ownProcessed (own.insert (Key.processed consumer eventId) value) consumer eventId =
      some value :=
  AList.lookup_insert own

theorem processed_insert_other (own : Own) {consumer : Consumer} {eventId : EventId} (key : Key)
    (value : Option (RowOf key)) (different : Key.processed consumer eventId ≠ key) :
    ownProcessed (own.insert key value) consumer eventId = ownProcessed own consumer eventId :=
  AList.lookup_insert_ne different

theorem letter_insert (own : Own) (id : LetterId) (value : Option DeadLetter) :
    ownLetter (own.insert (Key.letter id) value) id = some value :=
  AList.lookup_insert own

theorem letter_insert_other (own : Own) {id : LetterId} (key : Key) (value : Option (RowOf key))
    (different : Key.letter id ≠ key) :
    ownLetter (own.insert key value) id = ownLetter own id :=
  AList.lookup_insert_ne different

/-- Rows a transaction holds are as they were, and effects others add are on
events it does not hold. -/
structure Undisturbed (own : Own) (rows after : Rows) (env later : Env) : Prop where
  rows : ∀ key, own.lookup key ≠ none → after.lookup key = rows.lookup key
  clock : env.clock ≤ later.clock
  effects : ∀ effect, effect ∈ later.effects → effect ∈ env.effects ∨
    ownProcessed own effect.consumer effect.eventId = none

theorem claimed_stable {delivery : Delivery} {now : Int}
    (undisturbed : Undisturbed own rows after env later)
    (claimed : Claimed rows env own delivery now) : Claimed after later own delivery now := by
  refine { claimed with absent := ?_, first := ?_ }
  · refine (undisturbed.rows _ ?_).trans claimed.absent
    intro free
    exact nomatch free.symm.trans claimed.written
  · intro effect member
    rcases undisturbed.effects effect member with known | free
    · exact claimed.first effect known
    · by_contra concerns
      rw [Bool.not_eq_false, concerns_iff] at concerns
      rw [← concerns.1, ← concerns.2] at free
      exact nomatch free.symm.trans claimed.written

theorem letter_undisturbed {id : LetterId} {value : Option DeadLetter}
    (undisturbed : Undisturbed own rows after env later)
    (held : ownLetter own id = some value) : letterRow after id = letterRow rows id :=
  undisturbed.rows (Key.letter id) fun free => nomatch free.symm.trans held

theorem stamping_stable (undisturbed : Undisturbed own rows after env later)
    (stamping : Stamping rows own) : Stamping after own := by
  refine { stamping with letters := ?_ }
  intro id value written
  rw [letter_undisturbed undisturbed written]
  exact stamping.letters id value written

theorem asserted_stable {tx : Tx RowOf Pc} (undisturbed : Undisturbed tx.own rows after env later)
    (assertedAt : AssertedAt rows env tx) : AssertedAt after later tx := by
  obtain ⟨pc, own, progress⟩ := tx
  cases pc with
  | applyEffect => exact claimed_stable undisturbed assertedAt
  | processed delivery now applied =>
      cases applied with
      | true => exact claimed_stable undisturbed assertedAt
      | false => exact assertedAt
  | lockDeadLetter id now =>
      have locking : Locking rows own id progress := assertedAt
      refine { locking with letters := ?_ }
      intro other value written
      rw [letter_undisturbed undisturbed written]
      exact locking.letters other value written
  | publishToQueue id letter now =>
      have publishing : Publishing rows own id letter := assertedAt
      obtain ⟨value, held⟩ := Option.ne_none_iff_exists'.mp publishing.held
      exact
        { publishing with
          stamping := stamping_stable undisturbed publishing.stamping
          found := (letter_undisturbed undisturbed held).trans publishing.found }
  | stampRedriven => exact stamping_stable undisturbed assertedAt
  | redriven => exact stamping_stable undisturbed assertedAt
  | pruneInbox now batchSize =>
      have pruning : Pruning env own now := assertedAt
      exact { pruning with current := Int.le_trans pruning.current undisturbed.clock }
  | pruned =>
      obtain ⟨now, pruning⟩ := assertedAt
      exact ⟨now, { pruning with current := Int.le_trans pruning.current undisturbed.clock }⟩
  | insertProcessed => exact assertedAt
  | insertDeadLetter => exact assertedAt
  | parked => exact assertedAt
  | failed => trivial

theorem insert_processed_moves {delivery : Delivery} {now : Int}
    {progress : Option (Progress RowOf)} {moved : Tx RowOf Pc} (blank : Blank own)
    (unprocessed : processedRow rows delivery.consumer delivery.eventId.uuid = none →
      ∀ effect, effect ∈ env.effects → delivery.concerns effect.consumer effect.eventId = false)
    (move : LocalMove (service retention) rows taken
      { pc := .insertProcessed delivery now, own, progress } pick moved) :
    AssertedAt rows env moved := by
  obtain ⟨free, ⟨absent, rfl⟩ | ⟨old, present, rfl⟩⟩ := insert_moves rfl move
  · have committed : processedRow rows delivery.consumer delivery.eventId.uuid = none := by
      have view := processed_overlay rows own delivery.consumer delivery.eventId.uuid
      rw [blank.1, Option.getD_none] at view
      exact view.symm.trans absent
    refine ⟨processed_insert own _ _ _, ?_, ?_, committed, unprocessed committed⟩
    · intro consumer eventId value written
      by_contra concerns
      have different : Key.processed consumer eventId ≠
          Key.processed delivery.consumer delivery.eventId.uuid := by
        intro same
        cases same
        exact concerns (by simp [Delivery.concerns])
      rw [processed_insert_other own _ _ different, blank.1] at written
      exact nomatch written
    · intro id
      rw [letter_insert_other own _ _ (by simp)]
      exact blank.2 id
  · exact blank

theorem insert_letter_moves {id : LetterId} {delivery : Delivery}
    {progress : Option (Progress RowOf)} {moved : Tx RowOf Pc} (blank : Blank own)
    (move : LocalMove (service retention) rows taken
      { pc := .insertDeadLetter id delivery, own, progress } pick moved) :
    AssertedAt rows env moved := by
  obtain ⟨free, ⟨absent, rfl⟩ | ⟨old, present, rfl⟩⟩ := insert_moves rfl move
  · constructor
    · intro consumer eventId
      rw [processed_insert_other own _ _ (by simp)]
      exact blank.1 consumer eventId
    · intro other value written
      by_cases same : other = id
      · subst same
        rw [letter_insert, Option.some.injEq] at written
        exact ⟨_, written.symm, rfl, rfl⟩
      · rw [letter_insert_other own _ _ (by simpa using same), blank.2] at written
        exact nomatch written
  · trivial

theorem hit_letter_mem {hits : List (Sigma RowOf)} {row : DeadLetter}
    (found : hitLetter hits = some row) :
    ∃ id, (⟨Key.letter id, row⟩ : Sigma RowOf) ∈ hits := by
  unfold hitLetter at found
  split at found
  · rename_i id other rest
    cases found
    exact ⟨id, List.mem_cons_self⟩
  · exact nomatch found

theorem after_lock_asserted {id : LetterId} {now : Int} {found : Progress RowOf}
    (locking : Locking rows own id (some found)) :
    AssertedAt rows env { pc := afterLock id now found.hits, own, progress := none } := by
  unfold afterLock
  split
  · trivial
  · rename_i letter hit
    split
    · trivial
    · rename_i waits
      obtain ⟨other, member⟩ := hit_letter_mem hit
      obtain ⟨rfl, held⟩ := locking.hits found other letter rfl member
      obtain ⟨row, same, stored⟩ := locking.letters other _ held
      cases same
      refine ⟨⟨locking.processed, ?_⟩, ?_, stored, by simpa using waits⟩
      · intro any value written
        obtain ⟨row, same, present⟩ := locking.letters any value written
        exact ⟨row, row, present, same, rfl, rfl, fun waiting => waiting⟩
      · intro free
        exact nomatch free.symm.trans held

theorem lock_letter_moves {id : LetterId} {now : Int} {progress : Option (Progress RowOf)}
    {moved : Tx RowOf Pc} (locking : Locking rows own id progress)
    (move : LocalMove (service retention) rows taken
      { pc := .lockDeadLetter id now, own, progress } pick moved) :
    AssertedAt rows env moved := by
  have moves := scan_moves rfl move
  cases moves with
  | start idle =>
      refine { locking with hits := ?_ }
      intro found other row same hit
      cases Option.some.inj same
      exact absurd hit List.not_mem_nil
  | drop found key underway picked member cause =>
      refine { locking with hits := ?_ }
      intro after other row same hit
      cases Option.some.inj same
      exact locking.hits found other row underway hit
  | take found key row underway picked member free present wanted =>
      have isLetter := of_decide_eq_true wanted
      subst isLetter
      have view := letter_overlay rows own id
      have stored : letterRow rows id = some row := by
        cases held : ownLetter own id with
        | none =>
            rw [held, Option.getD_none] at view
            exact view.symm.trans present
        | some value =>
            obtain ⟨old, rfl, before⟩ := locking.letters id value held
            rw [held, Option.getD_some] at view
            exact before.trans (view.symm.trans present)
      have written := letter_insert own id (some row)
      constructor
      · intro consumer eventId
        exact (processed_insert_other own _ _ (by simp)).trans (locking.processed consumer eventId)
      · intro other value held
        by_cases same : other = id
        · subst same
          exact ⟨row, Option.some.inj (held.symm.trans written), stored⟩
        · exact locking.letters other value
            ((letter_insert_other own _ _ (by simpa using same)).symm.trans held)
      · intro after other hitRow same hit
        cases Option.some.inj same
        rcases List.mem_append.mp hit with past | new
        · obtain ⟨isId, held⟩ := locking.hits found other hitRow underway past
          obtain ⟨old, same, before⟩ := locking.letters id _ held
          cases same
          have agree : hitRow = row := Option.some.inj (before.symm.trans stored)
          rw [agree]
          exact ⟨isId, written⟩
        · cases List.mem_singleton.mp new
          exact ⟨rfl, written⟩
  | finish found underway done =>
      dsimp only at underway
      subst underway
      exact after_lock_asserted locking

theorem stamp_moves {id : LetterId} {now : Int} {progress : Option (Progress RowOf)}
    {moved : Tx RowOf Pc} (stamping : Stamping rows own)
    (move : LocalMove (service retention) rows taken
      { pc := .stampRedriven id now, own, progress } pick moved) :
    AssertedAt rows env moved := by
  obtain ⟨kept, stays | ⟨ended, underway, found, leaves⟩⟩ := scan_keeps (Stamping rows)
    (scan_moves rfl move) stamping fun found key row underway present wanted => by
      have isLetter := of_decide_eq_true wanted
      subst isLetter
      have view := letter_overlay rows own id
      constructor
      · intro consumer eventId
        exact (processed_insert_other own _ _ (by simp)).trans (stamping.processed consumer eventId)
      · intro other value held
        by_cases same : other = id
        · subst same
          have written := (letter_insert own other _).symm.trans held
          cases before : ownLetter own other with
          | none =>
              rw [before, Option.getD_none] at view
              exact ⟨row, _, view.symm.trans present, (Option.some.inj written).symm, rfl, rfl,
                fun absurd => nomatch absurd⟩
          | some earlier =>
              obtain ⟨old, new, stored, rfl, queue, eventId, _⟩ :=
                stamping.letters other earlier before
              rw [before, Option.getD_some] at view
              have agree : new = row := Option.some.inj (view.symm.trans present)
              subst agree
              exact ⟨old, _, stored, (Option.some.inj written).symm, queue, eventId,
                fun absurd => nomatch absurd⟩
        · exact stamping.letters other value
            ((letter_insert_other own _ _ (by simpa using same)).symm.trans held)
  · unfold AssertedAt
    rw [stays]
    exact kept
  · unfold AssertedAt
    rw [leaves]
    exact kept

theorem prune_moves {now : Int} {batchSize : Nat} {progress : Option (Progress RowOf)}
    {moved : Tx RowOf Pc} (pruning : Pruning env own now)
    (move : LocalMove (service retention) rows taken
      { pc := .pruneInbox now batchSize, own, progress } pick moved) :
    AssertedAt rows env moved := by
  obtain ⟨kept, stays | ⟨ended, underway, found, leaves⟩⟩ :=
    scan_keeps (fun own => Pruning env own now) (scan_moves rfl move) pruning
    fun found key row underway present wanted => by
      cases key with
      | letter id => exact nomatch wanted
      | processed consumer eventId =>
          refine { pruning with letters := ?_, deletes := ?_ }
          · intro id
            exact (letter_insert_other own _ _ (by simp)).trans (pruning.letters id)
          · intro otherConsumer otherEvent value held
            by_cases same : Key.processed otherConsumer otherEvent = .processed consumer eventId
            · cases same
              exact (Option.some.inj ((processed_insert own _ _ _).symm.trans held)).symm
            · exact pruning.deletes otherConsumer otherEvent value
                ((processed_insert_other own _ _ same).symm.trans held)
  · unfold AssertedAt
    rw [stays]
    exact kept
  · unfold AssertedAt
    rw [leaves]
    exact ⟨now, kept⟩

theorem asserted_moves {tx moved : Tx RowOf Pc} (assertedAt : AssertedAt rows env tx)
    (unprocessed : ∀ delivery now, tx.pc = .insertProcessed delivery now →
      processedRow rows delivery.consumer delivery.eventId.uuid = none →
      ∀ effect, effect ∈ env.effects → delivery.concerns effect.consumer effect.eventId = false)
    (move : LocalMove (service retention) rows taken tx pick moved) :
    AssertedAt rows env moved := by
  obtain ⟨pc, own, progress⟩ := tx
  cases pc with
  | insertProcessed delivery now =>
      exact insert_processed_moves assertedAt (unprocessed delivery now rfl) move
  | insertDeadLetter id delivery => exact insert_letter_moves assertedAt move
  | lockDeadLetter id now => exact lock_letter_moves assertedAt move
  | stampRedriven id now => exact stamp_moves assertedAt move
  | pruneInbox now batchSize => exact prune_moves assertedAt move
  | applyEffect => exact absurd move (no_local_move (.inr (.inr ⟨_, rfl⟩)))
  | publishToQueue => exact absurd move (no_local_move (.inr (.inr ⟨_, rfl⟩)))
  | processed => exact absurd move (no_local_move (.inl rfl))
  | parked => exact absurd move (no_local_move (.inl rfl))
  | redriven => exact absurd move (no_local_move (.inl rfl))
  | pruned => exact absurd move (no_local_move (.inl rfl))
  | failed => exact absurd move (no_local_move (.inr (.inl rfl)))

end Asserted

/-! ## Keeping the invariant -/

section Kept

variable {retention : Int} {world after : System} {id : Nat} {tx : Tx RowOf Pc}
  {consumer : Consumer} {eventId : EventId}

theorem begins_asserted {env : Env} {pc : Pc} (rows : Rows) (started : starts env pc = true) :
    AssertedAt rows env { pc, own := ∅, progress := none } := by
  cases pc with
  | insertProcessed => exact ⟨fun _ _ => rfl, fun _ => rfl⟩
  | insertDeadLetter => exact ⟨fun _ _ => rfl, fun _ => rfl⟩
  | lockDeadLetter =>
      refine ⟨fun _ _ => rfl, ?_, ?_⟩
      · intro other value written
        exact nomatch written
      · intro found other row underway
        exact nomatch underway
  | pruneInbox now batchSize =>
      refine ⟨fun _ => rfl, ?_, Int.le_of_eq (of_decide_eq_true started)⟩
      intro consumer eventId value written
      exact nomatch written
  | _ => exact nomatch started

/-- A delivery that finds no inbox row is the first. -/
theorem unprocessed_run {own : Own} {progress : Option (Progress RowOf)}
    {delivery : Delivery} {now : Int} (inv : Invariant retention world)
    (found : world.active.lookup id = some { pc := .insertProcessed delivery now, own, progress })
    (absent : processedRow world.committed delivery.consumer delivery.eventId.uuid = none)
    (effect : Effect) (member : effect ∈ world.env.effects) :
    delivery.concerns effect.consumer effect.eventId = false := by
  by_contra concerns
  rw [Bool.not_eq_false] at concerns
  obtain ⟨sameConsumer, sameEvent⟩ := concerns_iff.mp concerns
  rcases inv.recorded effect member with ⟨row, present, _⟩ | gone
  · rw [← sameConsumer, ← sameEvent, absent] at present
    exact nomatch present
  · have other := gone.quiet.inHand id _ delivery found rfl
    exact absurd (other.symm.trans concerns) Bool.false_ne_true

theorem waiting_letter {snapshot : Rows} {letter : LetterId} {seen : DeadLetter}
    (present : letterRow snapshot letter = some seen)
    (named : seen.eventId = { uuid := eventId, canonical := true })
    (waits : seen.redrivenAt.isNone = true) : waiting snapshot eventId = true := by
  simp only [waiting, List.any_eq_true]
  refine ⟨⟨.letter letter, seen⟩, AList.mem_lookup_iff.mp present, ?_⟩
  simp [named, waits]

/-- What the pruner's condition does not look at is `outstanding`. -/
theorem not_outstanding {snapshot : Rows}
    (nothing : outstanding world snapshot consumer eventId = false)
    (unseen : waiting snapshot eventId = false) : Quiet world consumer eventId := by
  simp only [outstanding, Bool.or_eq_false_iff] at nothing
  obtain ⟨⟨copies, hands⟩, letters⟩ := nothing
  constructor
  · intro copyId copy present concerns
    have harmless := List.any_eq_false.mp copies ⟨copyId, copy⟩ (AList.mem_lookup_iff.mp present)
    simpa [concerns] using harmless
  · intro other otherTx delivery present inHand
    have idle := List.any_eq_false.mp hands ⟨other, otherTx⟩ (AList.mem_lookup_iff.mp present)
    simpa [inHand] using idle
  · intro letter row present waits queue isEvent
    have shown := List.any_eq_false.mp letters ⟨.letter letter, row⟩
      (AList.mem_lookup_iff.mp present)
    simp only [queue, isEvent, waits, decide_true, Option.isNone_none, Bool.and_true,
      Bool.not_eq_true, Bool.not_eq_false', Bool.true_and, Option.any_eq_true, Bool.and_eq_true,
      decide_eq_true_eq] at shown
    obtain ⟨seen, found, named, waited⟩ := shown
    exact absurd (unseen.symm.trans (waiting_letter found named waited)) Bool.false_ne_true

/-- A row the pruner takes is expired, and nothing of its event can come back. -/
theorem pruned_gone {own : Own} {now : Int} {batchSize : Nat} {progress : Progress RowOf}
    {row : Processed} (inv : Invariant retention world)
    (found : world.active.lookup id =
      some { pc := .pruneInbox now batchSize, own, progress := some progress })
    (kept : prunedEarly world (.run id (some (.processed consumer eventId))) = false)
    (present : processedRow (overlay world.committed own) consumer eventId = some row)
    (wanted : pruneWhere retention now progress.snapshot (.processed consumer eventId) row = true) :
    ∃ row, processedRow world.committed consumer eventId = some row ∧
      Gone retention world consumer eventId row.processedAt := by
  have pruning : Pruning world.env own now := inv.asserted id _ found
  have stored : processedRow world.committed consumer eventId = some row := by
    rw [processed_overlay] at present
    cases held : ownProcessed own consumer eventId with
    | none => rwa [held] at present
    | some value =>
        have deleted := pruning.deletes consumer eventId value held
        rw [held, deleted] at present
        exact nomatch present
  simp only [pruneWhere, Bool.and_eq_true, decide_eq_true_eq, Bool.not_eq_true'] at wanted
  obtain ⟨old, unseen⟩ := wanted
  have nothing : outstanding world progress.snapshot consumer eventId = false := by
    simpa [prunedEarly, found] using kept
  have current := pruning.current
  exact ⟨row, stored, by omega, not_outstanding nothing unseen⟩

theorem pruning_run {pick : Option Key} {moved : Tx RowOf Pc} (inv : Invariant retention world)
    (kept : prunedEarly world (.run id pick) = false) (found : world.active.lookup id = some tx)
    (move : LocalMove (service retention) world.committed (ownedByOther world id) tx pick moved)
    (deleted : ownProcessed moved.own consumer eventId = some none) :
    ∃ row, processedRow world.committed consumer eventId = some row ∧
      Gone retention world consumer eventId row.processedAt := by
  cases move with
  | insert key row next asked free absent =>
      by_cases same : Key.processed consumer eventId = key
      · subst same
        exact nomatch (processed_insert tx.own consumer eventId (some row)).symm.trans deleted
      · rw [processed_insert_other tx.own key _ same] at deleted
        exact inv.pruning id tx consumer eventId found deleted
  | take statement progress key row asked underway picked member free present wanted =>
      by_cases same : Key.processed consumer eventId = key
      · subst same
        have removes := Option.some.inj
          ((processed_insert tx.own consumer eventId _).symm.trans deleted)
        obtain ⟨pc, own, current⟩ := tx
        dsimp only at underway
        subst underway picked
        cases pc with
        | pruneInbox now batchSize =>
            cases asked
            exact pruned_gone inv found kept present wanted
        | lockDeadLetter =>
            cases asked
            exact nomatch removes
        | stampRedriven =>
            cases asked
            exact nomatch removes
        | _ => exact nomatch asked
      · rw [processed_insert_other tx.own key _ same] at deleted
        exact inv.pruning id tx consumer eventId found deleted
  | select => exact inv.pruning id tx consumer eventId found deleted
  | start => exact inv.pruning id tx consumer eventId found deleted
  | drop => exact inv.pruning id tx consumer eventId found deleted
  | finish => exact inv.pruning id tx consumer eventId found deleted
  | conflict => exact inv.pruning id tx consumer eventId found deleted

theorem answered_env {env later : Env} {pc : Pc} {value : Answer}
    (accepted : answered env pc value = some later) :
    later.clock = env.clock ∧ later.effects = env.effects := by
  unfold answered at accepted
  split at accepted
  · cases accepted
    exact ⟨rfl, rfl⟩
  · cases add_copy accepted
    exact ⟨rfl, rfl⟩
  · cases add_copy accepted
    exact ⟨rfl, rfl⟩
  · cases accepted
    exact ⟨rfl, rfl⟩
  · exact nomatch accepted

theorem stimulus_env {env later : Env} {value : Stimulus}
    (accepted : stimulus env value = some later) :
    env.clock ≤ later.clock ∧ later.effects = env.effects := by
  cases value with
  | tick clock =>
      simp only [stimulus] at accepted
      split at accepted
      · rename_i forward
        cases accepted
        exact ⟨forward, rfl⟩
      · exact nomatch accepted
  | publish copy publishedTo publishedId =>
      cases add_copy accepted
      exact ⟨Int.le_refl _, rfl⟩
  | deliver copy =>
      obtain ⟨found, present, queued, rfl⟩ := move_copy accepted
      exact ⟨Int.le_refl _, rfl⟩
  | requeue copy =>
      obtain ⟨found, present, held, rfl⟩ := move_copy accepted
      exact ⟨Int.le_refl _, rfl⟩
  | resend copy sent dead =>
      simp only [stimulus, Option.bind_eq_bind, Option.bind_eq_some_iff] at accepted
      obtain ⟨found, present, accepted⟩ := accepted
      split at accepted
      · cases add_copy accepted
        exact ⟨Int.le_refl _, rfl⟩
      · exact nomatch accepted
  | settle copy =>
      cases accepted
      exact ⟨Int.le_refl _, rfl⟩

/-- Nobody's rows or effects changed. -/
theorem undisturbed_env {env later : Env} (own : Own) (rows : Rows)
    (clock : env.clock ≤ later.clock) (effects : later.effects = env.effects) :
    Undisturbed own rows rows env later :=
  { rows := fun _ _ => rfl
    clock
    effects := fun _ member => .inl (effects ▸ member) }

theorem answer_asserted {rows : Rows} {env later : Env} {next : Answer → Pc} {value : Answer}
    (assertedAt : AssertedAt rows env tx) (asked : request retention tx.pc = .await next)
    (accepted : answered env tx.pc value = some later) :
    AssertedAt rows later { tx with pc := next value } := by
  obtain ⟨clock, effects⟩ := answered_env accepted
  obtain ⟨pc, own, progress⟩ := tx
  have undisturbed := undisturbed_env own rows (Int.le_of_eq clock.symm) effects
  cases pc with
  | applyEffect delivery now =>
      cases asked
      cases value with
      | effect succeeds =>
          cases succeeds with
          | true => exact claimed_stable undisturbed assertedAt
          | false => trivial
      | published copy => trivial
      | failed copy => trivial
  | publishToQueue letterId letter now =>
      cases asked
      have publishing : Publishing rows own letterId letter := assertedAt
      cases value with
      | published copy => exact publishing.stamping
      | effect succeeds => trivial
      | failed copy => trivial
  | _ => exact nomatch asked

/-- An inbox row a commit writes comes with its effect; the others it deletes. -/
theorem committed_processed {rows : Rows} {env : Env} {value : Option Processed}
    (assertedAt : AssertedAt rows env tx) (asked : request retention tx.pc = .commit)
    (written : ownProcessed tx.own consumer eventId = some value) :
    value = none ∨ ∃ delivery now, tx.pc = .processed delivery now true ∧
      Claimed rows env tx.own delivery now ∧ delivery.consumer = consumer ∧
      delivery.eventId.uuid = eventId ∧ value = some { processedAt := now } := by
  obtain ⟨pc, own, progress⟩ := tx
  cases pc with
  | processed delivery now applied =>
      cases applied with
      | true =>
          have claimed : Claimed rows env own delivery now := assertedAt
          obtain ⟨rfl, rfl⟩ := concerns_iff.mp (claimed.only consumer eventId value written)
          have row := Option.some.inj (written.symm.trans claimed.written)
          exact .inr ⟨delivery, now, rfl, claimed, rfl, rfl, row⟩
      | false => exact nomatch (assertedAt.1 consumer eventId).symm.trans written
  | parked => exact nomatch (assertedAt.processed consumer eventId).symm.trans written
  | redriven => exact nomatch (assertedAt.processed consumer eventId).symm.trans written
  | pruned =>
      obtain ⟨now, pruning⟩ := assertedAt
      exact .inl (pruning.deletes consumer eventId value written)
  | _ => exact nomatch asked

theorem finished_effects {env : Env} {pc : Pc} {effect : Effect}
    (member : effect ∈ (finished env pc).effects) : effect ∈ env.effects ∨
      ∃ delivery now, pc = .processed delivery now true ∧ effect =
        { consumer := delivery.consumer, eventId := delivery.eventId.uuid, processedAt := now } := by
  unfold finished at member
  split at member
  · rename_i delivery now
    rcases List.mem_append.mp member with before | new
    · exact .inl before
    · exact .inr ⟨delivery, now, rfl, List.mem_singleton.mp new⟩
  · exact .inl member

theorem finished_keeps {env : Env} {effect : Effect} (pc : Pc) (member : effect ∈ env.effects) :
    effect ∈ (finished env pc).effects := by
  unfold finished
  split
  · exact List.mem_append_left _ member
  · exact member

end Kept

/-! ## Steps of the invariant -/

section Steps

variable {retention : Int} {world after : System} {event : Step} {id : Nat} {tx : Tx RowOf Pc}

theorem claimed_at {delivery : Delivery} {now : Int} (inv : Invariant retention world)
    (found : world.active.lookup id = some tx) (place : tx.pc = .processed delivery now true) :
    Claimed world.committed world.env tx.own delivery now := by
  have assertedAt := inv.asserted id tx found
  unfold AssertedAt at assertedAt
  rwa [place] at assertedAt

/-- Everybody else's rows and effects are their own. -/
theorem undisturbed_commit {other : Nat} {otherTx : Tx RowOf Pc} (inv : Invariant retention world)
    (exclusive : Exclusive world) (different : other ≠ id) (found : world.active.lookup id = some tx)
    (foundOther : world.active.lookup other = some otherTx) :
    Undisturbed otherTx.own world.committed (overlay world.committed tx.own) world.env
      (finished world.env tx.pc) := by
  constructor
  · intro key held
    exact commit_frame exclusive different found foundOther held
  · exact Int.le_of_eq (finished_clock world.env tx.pc).symm
  · intro effect member
    rcases finished_effects member with before | ⟨delivery, now, place, rfl⟩
    · exact .inl before
    · right
      have claimed := claimed_at inv found place
      by_contra held
      have free := exclusive other id otherTx tx different foundOther found
        (Key.processed delivery.consumer delivery.eventId.uuid) held
      exact nomatch free.symm.trans claimed.written

theorem asserted_step (inv : Invariant retention world) (exclusive : Exclusive world)
    (moves : Moves (service retention) world event after) (other : Nat) (otherTx : Tx RowOf Pc)
    (present : after.active.lookup other = some otherTx) :
    AssertedAt after.committed after.env otherTx := by
  cases moves with
  | begin id pc fresh started =>
      rcases lookup_insert_cases present with ⟨_, rfl⟩ | ⟨_, before⟩
      · exact begins_asserted world.committed started
      · exact inv.asserted other otherTx before
  | run id pick tx moved found move =>
      rcases lookup_insert_cases present with ⟨_, rfl⟩ | ⟨_, before⟩
      · refine asserted_moves (inv.asserted id tx found) ?_ move
        intro delivery now place absent
        obtain ⟨pc, own, progress⟩ := tx
        cases place
        have first := unprocessed_run inv found absent
        exact first
      · exact inv.asserted other otherTx before
  | answer id value tx next env found asked accepted =>
      rcases lookup_insert_cases present with ⟨_, rfl⟩ | ⟨_, before⟩
      · exact answer_asserted (inv.asserted id tx found) asked accepted
      · obtain ⟨clock, effects⟩ := answered_env accepted
        exact asserted_stable (undisturbed_env _ _ (Int.le_of_eq clock.symm) effects)
          (inv.asserted other otherTx before)
  | commit id tx found asked =>
      obtain ⟨different, before⟩ := lookup_erase_some present
      exact asserted_stable (undisturbed_commit inv exclusive different found before)
        (inv.asserted other otherTx before)
  | abort id => exact inv.asserted other otherTx (lookup_erase_some present).2
  | stimulus value env accepted =>
      obtain ⟨clock, effects⟩ := stimulus_env accepted
      exact asserted_stable (undisturbed_env _ _ clock effects)
        (inv.asserted other otherTx present)

/-- Only a commit changes the effects. -/
theorem effects_step (moves : Moves (service retention) world event after) :
    after.env.effects = world.env.effects ∧ after.committed = world.committed ∨
      ∃ id tx, event = .commit id ∧ world.active.lookup id = some tx ∧
        request retention tx.pc = .commit ∧
        after.committed = overlay world.committed tx.own ∧
        after.env = finished world.env tx.pc := by
  cases moves with
  | begin => exact .inl ⟨rfl, rfl⟩
  | run => exact .inl ⟨rfl, rfl⟩
  | answer id value tx next env found asked accepted =>
      exact .inl ⟨(answered_env accepted).2, rfl⟩
  | commit id tx found asked => exact .inr ⟨id, tx, rfl, found, asked, rfl, rfl⟩
  | abort => exact .inl ⟨rfl, rfl⟩
  | stimulus value env accepted => exact .inl ⟨(stimulus_env accepted).2, rfl⟩

theorem distinct_commit (inv : Invariant retention world)
    (found : world.active.lookup id = some tx) :
    ((finished world.env tx.pc).effects.map Effect.key).Nodup := by
  unfold finished
  split
  · rename_i delivery now place
    have claimed := claimed_at inv found place
    rw [List.map_append, List.nodup_append]
    refine ⟨inv.distinct, List.nodup_singleton _, ?_⟩
    intro key before other new
    obtain ⟨effect, member, rfl⟩ := List.mem_map.mp before
    cases List.mem_singleton.mp new
    intro same
    have others := claimed.first effect member
    simp only [Effect.key, Prod.mk.injEq] at same
    exact absurd (others.symm.trans (concerns_iff.mpr ⟨same.1.symm, same.2.symm⟩))
      Bool.false_ne_true
  · exact inv.distinct

theorem recorded_commit {effect : Effect} (inv : Invariant retention world)
    (found : world.active.lookup id = some tx) (asked : request retention tx.pc = .commit)
    (moved : ∀ effect, effect ∈ world.env.effects →
      Gone retention world effect.consumer effect.eventId effect.processedAt →
      Gone retention after effect.consumer effect.eventId effect.processedAt)
    (committed : after.committed = overlay world.committed tx.own)
    (member : effect ∈ (finished world.env tx.pc).effects) : effect.Recorded retention after := by
  rcases finished_effects member with before | ⟨delivery, now, place, rfl⟩
  · rcases inv.recorded effect before with ⟨row, present, time⟩ | gone
    · cases written : ownProcessed tx.own effect.consumer effect.eventId with
      | none =>
          refine .inl ⟨row, ?_, time⟩
          rw [committed, processed_overlay, written]
          exact present
      | some value =>
          rcases committed_processed (inv.asserted id tx found) asked written with
            rfl | ⟨delivery, now, place, claimed, sameConsumer, sameEvent, _⟩
          · obtain ⟨old, same, gone⟩ := inv.pruning id tx _ _ found written
            cases Option.some.inj (same.symm.trans present)
            rw [time] at gone
            exact .inr (moved effect before gone)
          · have others := claimed.first effect before
            exact absurd (others.symm.trans (concerns_iff.mpr ⟨sameConsumer, sameEvent⟩))
              Bool.false_ne_true
    · exact .inr (moved effect before gone)
  · have claimed := claimed_at inv found place
    refine .inl ⟨{ processedAt := now }, ?_, rfl⟩
    rw [committed, processed_overlay, claimed.written]
    rfl

theorem explained_commit {consumer : Consumer} {eventId : EventId} {row : Processed}
    (inv : Invariant retention world) (found : world.active.lookup id = some tx)
    (asked : request retention tx.pc = .commit)
    (present : processedRow (overlay world.committed tx.own) consumer eventId = some row) :
    { consumer, eventId, processedAt := row.processedAt } ∈
      (finished world.env tx.pc).effects := by
  rw [processed_overlay] at present
  cases written : ownProcessed tx.own consumer eventId with
  | none =>
      rw [written] at present
      exact finished_keeps tx.pc (inv.explained consumer eventId row present)
  | some value =>
      rw [written, Option.getD_some] at present
      rcases committed_processed (inv.asserted id tx found) asked written with
        deleted | ⟨delivery, now, place, claimed, rfl, rfl, same⟩
      · exact nomatch deleted.symm.trans present
      · cases Option.some.inj (same.symm.trans present)
        rw [place]
        exact List.mem_append_right _ List.mem_cons_self

theorem pruning_step (inv : Invariant retention world) (exclusive : Exclusive world)
    (onTime : late retention world event = false) (kept : prunedEarly world event = false)
    (moves : Moves (service retention) world event after) (other : Nat) (otherTx : Tx RowOf Pc)
    (consumer : Consumer) (eventId : EventId)
    (present : after.active.lookup other = some otherTx)
    (deleted : ownProcessed otherTx.own consumer eventId = some none) :
    ∃ row, processedRow after.committed consumer eventId = some row ∧
      Gone retention after consumer eventId row.processedAt := by
  have lift : ∀ committed, (∃ row, processedRow world.committed consumer eventId = some row ∧
      Gone retention world consumer eventId row.processedAt) →
      processedRow committed consumer eventId = processedRow world.committed consumer eventId →
      ∃ row, processedRow committed consumer eventId = some row ∧
        Gone retention after consumer eventId row.processedAt := by
    rintro committed ⟨row, stored, gone⟩ same
    exact ⟨row, same.trans stored,
      gone_step inv onTime moves (inv.explained consumer eventId row stored) gone⟩
  cases moves with
  | begin id pc fresh started =>
      rcases lookup_insert_cases present with ⟨_, rfl⟩ | ⟨_, before⟩
      · exact nomatch deleted
      · exact lift _ (inv.pruning other otherTx consumer eventId before deleted) rfl
  | run id pick tx moved found move =>
      rcases lookup_insert_cases present with ⟨_, rfl⟩ | ⟨_, before⟩
      · exact lift _ (pruning_run inv kept found move deleted) rfl
      · exact lift _ (inv.pruning other otherTx consumer eventId before deleted) rfl
  | answer id value tx next env found asked accepted =>
      rcases lookup_insert_cases present with ⟨_, rfl⟩ | ⟨_, before⟩
      · exact lift _ (inv.pruning id tx consumer eventId found deleted) rfl
      · exact lift _ (inv.pruning other otherTx consumer eventId before deleted) rfl
  | commit id tx found asked =>
      obtain ⟨different, before⟩ := lookup_erase_some present
      refine lift _ (inv.pruning other otherTx consumer eventId before deleted) ?_
      exact commit_frame exclusive different found before fun free =>
        nomatch free.symm.trans deleted
  | abort id =>
      exact lift _ (inv.pruning other otherTx consumer eventId (lookup_erase_some present).2
        deleted) rfl
  | stimulus value env accepted =>
      exact lift _ (inv.pruning other otherTx consumer eventId present deleted) rfl

theorem invariant_step (inv : Invariant retention world) (exclusive : Exclusive world)
    (onTime : late retention world event = false) (kept : prunedEarly world event = false)
    (moves : Moves (service retention) world event after) : Invariant retention after := by
  have lift : ∀ effect, effect ∈ world.env.effects →
      Gone retention world effect.consumer effect.eventId effect.processedAt →
      Gone retention after effect.consumer effect.eventId effect.processedAt :=
    fun effect known gone => gone_step inv onTime moves known gone
  have assertions := asserted_step inv exclusive moves
  have pruning := pruning_step inv exclusive onTime kept moves
  rcases effects_step moves with
    ⟨effects, committed⟩ | ⟨id, tx, rfl, found, asked, committed, finishes⟩
  · refine ⟨assertions, ?_, ?_, ?_, pruning⟩
    · rw [effects]
      exact inv.distinct
    · intro effect member
      rw [effects] at member
      rcases inv.recorded effect member with ⟨row, present, time⟩ | gone
      · exact .inl ⟨row, committed ▸ present, time⟩
      · exact .inr (lift effect member gone)
    · intro consumer eventId row present
      rw [committed] at present
      rw [effects]
      exact inv.explained consumer eventId row present
  · refine ⟨assertions, ?_, ?_, ?_, pruning⟩
    · rw [finishes]
      exact distinct_commit inv found
    · intro effect member
      rw [finishes] at member
      exact recorded_commit inv found asked lift committed member
    · intro consumer eventId row present
      rw [committed] at present
      rw [finishes]
      exact explained_commit inv found asked present

theorem invariant_opened (retention clock : Int) :
    Invariant retention (idle ∅ (opened clock)) := by
  constructor
  · intro id tx found
    exact nomatch found
  · exact List.nodup_nil
  · intro effect member
    exact nomatch member
  · intro consumer eventId row present
    exact nomatch present
  · intro id tx consumer eventId found
    exact nomatch found

end Steps

/-! ## At most once -/

section Runs

/-- Every duplicate reaches its consumer in time, or redriven. -/
def OnTime (retention : Int) (world : System) (event : Step) : Prop :=
  late retention world event = false

/-- Besides, no inbox row is pruned while a copy of its event is outstanding. -/
def Guarded (retention : Int) (world : System) (event : Step) : Prop :=
  late retention world event = false ∧ prunedEarly world event = false

instance (retention : Int) (world : System) (event : Step) :
    Decidable (OnTime retention world event) :=
  inferInstanceAs (Decidable (_ = _))

instance (retention : Int) (world : System) (event : Step) :
    Decidable (Guarded retention world event) :=
  inferInstanceAs (Decidable (_ ∧ _))

theorem processed_at_most_once (retention clock : Int) (world : System)
    (run : Run (service retention) (Guarded retention) (idle ∅ (opened clock)) world) :
    (world.env.effects.map Effect.key).Nodup := by
  have kept := invariant_run (fun world event after inv exclusive permitted moves =>
    invariant_step inv exclusive permitted.1 permitted.2 moves)
    (invariant_opened retention clock) (exclusive_idle ∅ (opened clock)) run
  exact kept.1.distinct

def trialId : IdText := { uuid := "activation", canonical := true }

def trialDelivery : Delivery := { consumer := "wallets", eventId := trialId, redriven := false }

/-- The copy is delivered, and its effect committed. -/
def handling (id copy : Nat) (delivery : Delivery) (now : Int) : List Step :=
  [.stimulus (.deliver copy), .begin id (.insertProcessed delivery now), .run id none,
    .answer id (.effect true), .commit id]

/-- One copy is handled, and a second finds the inbox row. -/
def repeated : List Step :=
  [.stimulus (.publish 1 "wallets" trialId), .stimulus (.publish 2 "wallets" trialId)] ++
    handling 1 1 trialDelivery 0 ++
    [.stimulus (.deliver 2), .begin 2 (.insertProcessed trialDelivery 0), .run 2 none, .commit 2]

theorem repeat_has_no_effect : ∃ world,
    Run (service 30) (Guarded 30) (idle ∅ (opened 0)) world ∧
    world.env.effects = [{ consumer := "wallets", eventId := "activation", processedAt := 0 }] ∧
    (world.env.effects.map Effect.key).Nodup := by
  have reached : (steps (service 30) (Guarded 30) (idle ∅ (opened 0)) repeated).map
      (fun world => world.env.effects) =
      some [{ consumer := "wallets", eventId := "activation", processedAt := 0 }] := by decide
  obtain ⟨world, stepped, effects⟩ := Option.map_eq_some_iff.mp reached
  have run := run_steps .refl _ stepped
  exact ⟨world, run, effects, processed_at_most_once 30 0 world run⟩

/-- One copy is handled; another is dead-lettered, parked and, after the
retention, redriven; the pruner comes before the redriven copy is handled. -/
def overtaken : List Step :=
  [.stimulus (.publish 1 "wallets" trialId), .stimulus (.publish 2 "wallets" trialId)] ++
    handling 1 1 trialDelivery 0 ++
    [.stimulus (.deliver 2), .stimulus (.resend 2 3 true), .stimulus (.settle 2),
      .begin 2 (.insertDeadLetter "parked" trialDelivery), .run 2 none, .commit 2,
      .stimulus (.settle 3), .stimulus (.tick 31),
      .begin 3 (.lockDeadLetter "parked" 31), .run 3 none, .run 3 (some (.letter "parked")),
      .run 3 none, .answer 3 (.published 4), .run 3 none, .run 3 (some (.letter "parked")),
      .run 3 none, .commit 3,
      .begin 4 (.pruneInbox 31 1000), .run 4 none,
      .run 4 (some (.processed "wallets" "activation")), .run 4 none, .commit 4] ++
    handling 5 4 { trialDelivery with redriven := true } 31

theorem pruned_redrive_repeats : ¬ ∀ retention clock world,
    Run (service retention) (OnTime retention) (idle ∅ (opened clock)) world →
    (world.env.effects.map Effect.key).Nodup := by
  intro atMostOnce
  have reached : (steps (service 30) (OnTime 30) (idle ∅ (opened 0)) overtaken).map
      (fun world => world.env.effects.map Effect.key) =
      some [("wallets", "activation"), ("wallets", "activation")] := by decide
  obtain ⟨world, stepped, effects⟩ := Option.map_eq_some_iff.mp reached
  have distinct := atMostOnce 30 0 world (run_steps .refl _ stepped)
  rw [effects] at distinct
  exact absurd distinct (by decide)

end Runs

end Foc.Inbox
