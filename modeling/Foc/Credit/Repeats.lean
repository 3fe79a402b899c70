import Foc.Credit.Records
import Mathlib

/-!
Requests that are sent again. Whatever else commits between them, a request that repeats a
recorded one is answered as that one was, and moves nothing; one that contradicts what is
recorded moves nothing either, and is reported.
-/
namespace Foc.Credit.Interleaving
open Library.Difference Library.EventLoop Library.LockTable
open Foc.Order (Micros Uuid idText)

/-! ## Requests and their answers -/

/-- The same request, whatever message brought it. -/
def Alike : Request → Request → Prop
  | .reserve one, .reserve two =>
      one.orderId = two.orderId ∧ one.requesterId = two.requesterId ∧ one.amount = two.amount
  | .transfer one, .transfer two =>
      one.orderId = two.orderId ∧ one.requesterId = two.requesterId ∧ one.amount = two.amount ∧
        one.courierId = two.courierId
  | .release one, .release two =>
      one.orderId = two.orderId ∧ one.requesterId = two.requesterId ∧ one.amount = two.amount
  | _, _ => False

/-- What a request is answered with, and does not undo: all but a conflict. -/
def Outcome.final : Outcome → Bool
  | .reservation (.rejected .conflictingRequest _) => false
  | .transfer (.rejected _) | .release (.rejected _) => false
  | _ => true

/-- The replies to a request. -/
def answer : Request → Outcome → List OutboxRow
  | .reserve input, .reservation outcome => [reservationReply input outcome]
  | .transfer input, .transfer (.transferred result) => [transferReply input result]
  | .release input, .release (.released result) => [releaseReply input result]
  | _, _ => []

/-- The request is recorded, with this outcome. -/
def Recorded (tables : Tables) : Request → Outcome → Prop
  | .reserve input, .reservation outcome => ∃ operation,
      tables.operations.lookup (input.orderId, .reserve) = some operation ∧
        operation.differs input = false ∧ recordedOutcome operation.outcome = some outcome
  | .transfer input, .transfer (.transferred result) => ∃ operation,
      tables.operations.lookup (input.orderId, .transfer) = some operation ∧
        operation.differs input.toReservationInput = false ∧
        operation.courierId = some input.courierId ∧ Paid input.orderId operation result
  | .release input, .release (.released result) => ∃ operation,
      tables.operations.lookup (input.orderId, .release) = some operation ∧
        operation.differs input = false ∧ Returned input.orderId operation result
  | _, _ => False

/-- The request contradicts what is recorded of its order. -/
def Contradicts (tables : Tables) : Request → Prop
  | .issueInitial _ _ => False
  | .reserve input => ∃ operation,
      tables.operations.lookup (input.orderId, .reserve) = some operation ∧
        operation.differs input = true
  | .transfer input => ∃ prior, findTerminalOperation tables input.orderId = some prior ∧
      (prior.1 ≠ .transfer ∨ prior.2.differs input.toReservationInput = true ∨
        prior.2.courierId ≠ some input.courierId)
  | .release input => ∃ prior, findTerminalOperation tables input.orderId = some prior ∧
      (prior.1 ≠ .release ∨ prior.2.differs input = true)

variable {tables after : Tables} {request again : Request} {outcome known : Outcome}

theorem differs_alike {operation : Operation} {one two : ReservationInput}
    (requester : one.requesterId = two.requesterId) (amount : one.amount = two.amount) :
    operation.differs one = operation.differs two := by
  simp only [Operation.differs, requester, amount]

theorem same_differs {operation : Operation} {input : ReservationInput}
    (requester : operation.requesterId = input.requesterId)
    (amount : operation.amount = input.amount) : operation.differs input = false := by
  simp [Operation.differs, requester, amount]

theorem recorded_alike (alike : Alike request again) (recorded : Recorded tables request outcome) :
    Recorded tables again outcome := by
  cases request with
  | issueInitial => exact recorded.elim
  | reserve one =>
      cases again with
      | issueInitial | transfer | release => exact alike.elim
      | reserve two =>
          obtain ⟨order, requester, amount⟩ := alike
          cases outcome with
          | issued | transfer | release => exact recorded.elim
          | reservation known =>
              obtain ⟨operation, found, same, answered⟩ := recorded
              exact ⟨operation, order ▸ found, differs_alike requester amount ▸ same, answered⟩
  | transfer one =>
      cases again with
      | issueInitial | reserve | release => exact alike.elim
      | transfer two =>
          obtain ⟨order, requester, amount, courier⟩ := alike
          cases outcome with
          | issued | reservation | release => exact recorded.elim
          | transfer known =>
              cases known with
              | rejected => exact recorded.elim
              | transferred result =>
                  obtain ⟨operation, found, same, paying, paid⟩ := recorded
                  exact ⟨operation, order ▸ found, differs_alike requester amount ▸ same,
                    courier ▸ paying, order ▸ paid⟩
  | release one =>
      cases again with
      | issueInitial | reserve | transfer => exact alike.elim
      | release two =>
          obtain ⟨order, requester, amount⟩ := alike
          cases outcome with
          | issued | reservation | transfer => exact recorded.elim
          | release known =>
              cases known with
              | rejected => exact recorded.elim
              | released result =>
                  obtain ⟨operation, found, same, returned⟩ := recorded
                  exact ⟨operation, order ▸ found, differs_alike requester amount ▸ same,
                    order ▸ returned⟩

theorem recorded_later {later : Tables} (onward : Later tables.operations later.operations)
    (recorded : Recorded tables request outcome) : Recorded later request outcome := by
  cases request with
  | issueInitial => exact recorded.elim
  | reserve input =>
      cases outcome with
      | issued | transfer | release => exact recorded.elim
      | reservation known =>
          obtain ⟨operation, found, rest⟩ := recorded
          exact ⟨operation, onward _ _ found, rest⟩
  | transfer input =>
      cases outcome with
      | issued | reservation | release => exact recorded.elim
      | transfer known =>
          cases known with
          | rejected => exact recorded.elim
          | transferred result =>
              obtain ⟨operation, found, rest⟩ := recorded
              exact ⟨operation, onward _ _ found, rest⟩
  | release input =>
      cases outcome with
      | issued | reservation | transfer => exact recorded.elim
      | release known =>
          cases known with
          | rejected => exact recorded.elim
          | released result =>
              obtain ⟨operation, found, rest⟩ := recorded
              exact ⟨operation, onward _ _ found, rest⟩

/-- The same answer to the same request says the same. -/
theorem answers_alike (alike : Alike request again) :
    (answer again outcome).map OutboxRow.payload =
      (answer request outcome).map OutboxRow.payload := by
  cases request with
  | issueInitial => exact alike.elim
  | reserve one =>
      cases again with
      | issueInitial | transfer | release => exact alike.elim
      | reserve two =>
          obtain ⟨order, requester, amount⟩ := alike
          cases outcome with
          | issued | transfer | release => rfl
          | reservation known =>
              simp only [answer, reservationReply, List.map_cons, List.map_nil, order, requester,
                amount]
  | transfer one =>
      cases again with
      | issueInitial | reserve | release => exact alike.elim
      | transfer two =>
          cases outcome with
          | issued | reservation | release => rfl
          | transfer known => cases known <;> rfl
  | release one =>
      cases again with
      | issueInitial | reserve | transfer => exact alike.elim
      | release two =>
          cases outcome with
          | issued | reservation | transfer => rfl
          | release known => cases known <;> rfl

/-! ## One commit -/

/-- Nothing but replies is added. -/
def Replied (tables after : Tables) (replies : List OutboxRow) : Prop :=
  after = { tables with outbox := tables.outbox ++ replies }

/-- Nothing but an alert is added, and the reply that tells of it. -/
def Reported (tables after : Tables) (replies : List OutboxRow) : Prop :=
  ∃ alert, after =
    { tables with alerts := tables.alerts ++ [alert], outbox := tables.outbox ++ replies }

theorem reject_reported (tables : Tables) (input : ReservationInput) (courierId : Option UserId)
    (operationType : OperationType) (reason : TerminalRejection) (details : AlertDetails) :
    Reported tables (rejectTerminal tables input courierId operationType reason details) [] := by
  refine ⟨{
    orderId := input.orderId
    operationType
    code := reason
    details
    requesterId := input.requesterId
    courierId
    amount := input.amount
    correlationId := input.correlationId }, ?_⟩
  rw [List.append_nil]
  rfl

/-- A settlement is found as the order's terminal operation. -/
theorem settled_found (records : Records tables) {orderId : OrderId}
    {operationType : OperationType} {operation : Operation} (settles : operationType ≠ .reserve)
    (found : tables.operations.lookup (orderId, operationType) = some operation) :
    findTerminalOperation tables orderId = some (operationType, operation) := by
  cases operationType with
  | reserve => exact absurd rfl settles
  | release => simp only [findTerminalOperation, found]
  | transfer =>
      have free := records.once orderId operation found
      simp only [findTerminalOperation, free, found, Option.map_some]

/-- What was settled is still valid. -/
theorem backed_valid {orderId : OrderId} {operation reservation : Operation}
    {input : ReservationInput} (backs : Backs tables.operations orderId operation)
    (found : tables.operations.lookup (orderId, .reserve) = some reservation)
    (same : operation.differs input = false) : validateReservation reservation input = none := by
  obtain ⟨stored, transactionId, there, succeeded, requester, amount, -⟩ := backs
  cases there.symm.trans found
  obtain ⟨asker, asked⟩ := same_parts same
  simp [validateReservation, succeeded, OperationOutcome.transactionId, Operation.differs,
    requester, amount, asker, asked]

theorem reserve_repeats {input : ReservationInput} {transactionId : TransactionId}
    {outcome known : ReservationOutcome}
    (reserved : Reserved tables input transactionId outcome after)
    (recorded : Recorded tables (.reserve input) (.reservation known)) :
    outcome = known ∧ Replied tables after [reservationReply input known] := by
  obtain ⟨operation, found, same, answered⟩ := recorded
  cases reserved with
  | conflict other there differs =>
      cases there.symm.trans found
      rw [same] at differs
      cases differs
  | replay other outcome there also given =>
      cases there.symm.trans found
      cases given.symm.trans answered
      exact ⟨rfl, rfl⟩
  | refuse reason available absent =>
      rw [absent] at found
      cases found
  | reserve wallet absent =>
      rw [absent] at found
      cases found

theorem transfer_repeats {input : TransferInput} {transactionId : TransactionId}
    {outcome : TransferOutcome} {result : TransferResult} (records : Records tables)
    (transferred : Transferred tables input transactionId outcome after)
    (recorded : Recorded tables (.transfer input) (.transfer (.transferred result))) :
    outcome = .transferred result ∧ Replied tables after [transferReply input result] := by
  obtain ⟨operation, found, same, paying, paid⟩ := recorded
  have backs := records.backed _ operation found (by simp)
  have terminal := settled_found records (by simp) found
  cases transferred with
  | invalid reservation reason details there invalid =>
      rw [backed_valid backs there same] at invalid
      cases invalid
  | participants equal =>
      obtain ⟨reservation, reservationId, there, succeeded, requester, amount, differs⟩ := backs
      rw [paying, (same_parts same).1, equal] at differs
      exact absurd rfl differs
  | conflict prior there differs =>
      cases there.symm.trans terminal
      rcases differs with kind | other | courier
      · exact absurd rfl kind
      · rw [same] at other
        cases other
      · exact absurd paying courier
  | replay prior given there also stored =>
      cases there.symm.trans terminal
      obtain rfl := paid_result paid stored
      exact ⟨rfl, rfl⟩
  | transfer reservation requester courier settleable =>
      rw [settleable.unsettled] at terminal
      cases terminal

theorem release_repeats {input : ReleaseInput} {transactionId : TransactionId}
    {outcome : ReleaseOutcome} {result : ReleaseResult} (records : Records tables)
    (released : Released tables input transactionId outcome after)
    (recorded : Recorded tables (.release input) (.release (.released result))) :
    outcome = .released result ∧ Replied tables after [releaseReply input result] := by
  obtain ⟨operation, found, same, returned⟩ := recorded
  have backs := records.backed _ operation found (by simp)
  have terminal := settled_found records (by simp) found
  cases released with
  | invalid reservation reason details there invalid =>
      rw [backed_valid backs there same] at invalid
      cases invalid
  | conflict prior there differs =>
      cases there.symm.trans terminal
      rcases differs with kind | other
      · exact absurd rfl kind
      · rw [same] at other
        cases other
  | replay prior payload given there also stored parsed =>
      cases there.symm.trans terminal
      obtain rfl := returned_result returned stored parsed
      exact ⟨rfl, rfl⟩
  | release reservation requester settleable =>
      rw [settleable.unsettled] at terminal
      cases terminal

/-- A request that is recorded is answered as it was, and moves nothing. -/
theorem lands_repeats (records : Records tables) (lands : Lands tables request outcome after)
    (recorded : Recorded tables request known) :
    outcome = known ∧ Replied tables after (answer request known) := by
  cases lands with
  | issue => exact recorded.elim
  | @reserve input transactionId given after reserved =>
      cases known with
      | issued | transfer | release => exact recorded.elim
      | reservation known =>
          obtain ⟨rfl, replied⟩ := reserve_repeats reserved recorded
          exact ⟨rfl, replied⟩
  | refuse reason available absent =>
      cases known with
      | issued | transfer | release => exact recorded.elim
      | reservation known =>
          obtain ⟨operation, found, -⟩ := recorded
          rw [absent] at found
          cases found
  | transfer transferred =>
      cases known with
      | issued | reservation | release => exact recorded.elim
      | transfer known =>
          cases known with
          | rejected => exact recorded.elim
          | transferred result =>
              obtain ⟨rfl, replied⟩ := transfer_repeats records transferred recorded
              exact ⟨rfl, replied⟩
  | release released =>
      cases known with
      | issued | reservation | transfer => exact recorded.elim
      | release known =>
          cases known with
          | rejected => exact recorded.elim
          | released result =>
              obtain ⟨rfl, replied⟩ := release_repeats records released recorded
              exact ⟨rfl, replied⟩

/-- A request that contradicts the records is reported, and moves nothing. -/
theorem lands_contradicts (lands : Lands tables request outcome after)
    (contradicts : Contradicts tables request) :
    Outcome.final outcome = false ∧ Reported tables after (answer request outcome) := by
  cases lands with
  | issue => exact contradicts.elim
  | reserve reserved =>
      obtain ⟨operation, found, differs⟩ := contradicts
      cases reserved with
      | conflict other there =>
          cases there.symm.trans found
          exact ⟨rfl, _, rfl⟩
      | replay other known there same =>
          cases there.symm.trans found
          rw [differs] at same
          cases same
      | refuse reason available absent =>
          rw [absent] at found
          cases found
      | reserve wallet absent =>
          rw [absent] at found
          cases found
  | refuse reason available absent =>
      obtain ⟨operation, found, -⟩ := contradicts
      rw [absent] at found
      cases found
  | transfer transferred =>
      obtain ⟨prior, found, differs⟩ := contradicts
      cases transferred with
      | invalid | participants | conflict => exact ⟨rfl, reject_reported _ _ _ _ _ _⟩
      | replay other result there same =>
          cases there.symm.trans found
          rcases differs with kind | other | courier
          · exact absurd rfl kind
          · rw [same.1] at other
            cases other
          · exact absurd same.2 courier
      | transfer reservation requester courier settleable =>
          rw [settleable.unsettled] at found
          cases found
  | release released =>
      obtain ⟨prior, found, differs⟩ := contradicts
      cases released with
      | invalid | conflict => exact ⟨rfl, reject_reported _ _ _ _ _ _⟩
      | replay other payload result there same =>
          cases there.symm.trans found
          rcases differs with kind | other
          · exact absurd rfl kind
          · rw [same] at other
            cases other
      | release reservation requester settleable =>
          rw [settleable.unsettled] at found
          cases found

/-- What a commit answers for good, it records. -/
theorem lands_recorded (records : Records tables) (lands : Lands tables request outcome after)
    (order : ∀ userId initialAllocation, request ≠ .issueInitial userId initialAllocation)
    (final : Outcome.final outcome = true) : Recorded after request outcome := by
  cases lands with
  | issue => exact absurd rfl (order _ _)
  | reserve reserved =>
      cases reserved with
      | conflict => cases final
      | replay operation known found same recorded => exact ⟨operation, found, same, recorded⟩
      | refuse reason available absent =>
          exact ⟨_, AList.lookup_insert _, same_differs rfl rfl, rfl⟩
      | reserve wallet absent => exact ⟨_, AList.lookup_insert _, same_differs rfl rfl, rfl⟩
  | refuse reason available absent => exact ⟨_, AList.lookup_insert _, same_differs rfl rfl, rfl⟩
  | transfer transferred =>
      cases transferred with
      | invalid | participants | conflict => cases final
      | replay prior result found same stored =>
          have there := terminal_lookup found
          obtain ⟨kept, paid⟩ := records.finished _ prior there
          obtain rfl := paid_result paid stored
          exact ⟨prior, there, same.1, same.2, paid⟩
      | transfer reservation requester courier settleable =>
          exact ⟨_, AList.lookup_insert _, same_differs rfl rfl, rfl,
            ⟨rfl, rfl, rfl, rfl, rfl, rfl⟩⟩
  | release released =>
      cases released with
      | invalid | conflict => cases final
      | replay prior payload result found same stored parsed =>
          have there := terminal_lookup found
          obtain ⟨kept, returned⟩ := records.finished _ prior there
          obtain rfl := returned_result returned stored parsed
          exact ⟨prior, there, same, returned⟩
      | release reservation requester settleable =>
          exact ⟨_, AList.lookup_insert _, same_differs rfl rfl, ⟨rfl, rfl, rfl, rfl, rfl⟩⟩

/-! ## Over every interleaving -/

/-- What is recorded is sound. -/
structure Kept (state : State) : Prop where
  sound : Sound state
  records : Records state.tables

theorem initial_kept (clock : Micros) : Kept (initial clock) :=
  ⟨sound_initial clock, empty_records⟩

variable {state next_ : State} {event : Event}

/-- Only a commit changes the tables, and as its method leaves them. -/
theorem turn_lands (sound : Sound state) (turned : turn state event = some next_) :
    next_.tables = state.tables ∨ ∃ index call outcome, event = .commit index ∧
      state.active[index]? = some call ∧ call.stage = .done outcome ∧
      next_ = commitActive state index call outcome ∧
      Lands state.tables call.request outcome next_.tables := by
  cases event with
  | tick now =>
      cases turned
      exact .inl rfl
  | start request =>
      cases turned
      exact .inl rfl
  | run index draw =>
      rw [turn] at turned
      split at turned
      · obtain ⟨call, found, ran⟩ := Option.bind_eq_some_iff.mp turned
        obtain ⟨result, stepped, is⟩ := Option.map_eq_some_iff.mp ran
        subst is
        cases result <;> exact .inl rfl
      · cases turned
  | commit index =>
      obtain ⟨call, found, committed⟩ := Option.bind_eq_some_iff.mp turned
      split at committed
      · rename_i outcome done
        cases committed
        exact .inr ⟨index, call, outcome, rfl, found, done, rfl, commit_lands sound found done⟩
      · cases committed
  | abort index =>
      obtain ⟨call, found, aborted⟩ := Option.bind_eq_some_iff.mp turned
      split at aborted
      · cases aborted
      · cases aborted
      · cases aborted
        exact .inl rfl

theorem turn_kept (kept : Kept state) (turned : turn state event = some next_) : Kept next_ := by
  refine ⟨turn_sound kept.sound turned, ?_⟩
  rcases turn_lands kept.sound turned with same | ⟨_, _, _, _, _, _, _, lands⟩
  · rw [same]
    exact kept.records
  · exact lands_records kept.records lands

/-- A commit records one operation more at most. -/
theorem lands_later (lands : Lands tables request outcome after) :
    Later tables.operations after.operations := by
  rcases lands_operations lands with same | ⟨key, operation, inserted, absent, -⟩
  · rw [same]
    exact later_refl _
  · rw [inserted]
    exact later_insert absent

theorem turn_later (sound : Sound state) (turned : turn state event = some next_) :
    Later state.tables.operations next_.tables.operations := by
  rcases turn_lands sound turned with same | ⟨_, _, _, _, _, _, _, lands⟩
  · rw [same]
    exact later_refl _
  · exact lands_later lands

/-- Whatever happens next, what is recorded stays. -/
theorem run_recorded (kept : Kept state) (run : Run turn state next_) :
    Later state.tables.operations next_.tables.operations :=
  @run_relates _ _ _ _ _ Kept
    (fun before after => Later before.tables.operations after.tables.operations)
    (fun _ _ _ kept turned => turn_kept kept turned) (fun _ => later_refl _)
    (fun first second key operation found => second key operation (first key operation found))
    (fun _ _ _ kept turned => turn_later kept.sound turned) kept run

/-- A transaction of the request commits with an outcome. -/
def Commits (state : State) (request : Request) (outcome : Outcome) (after : State) : Prop :=
  ∃ index call, state.active[index]? = some call ∧ call.request = request ∧
    call.stage = .done outcome ∧ after = commitActive state index call outcome

variable {start first between later last : State}

theorem commits_turn (commits : Commits first request outcome last) :
    ∃ event, turn first event = some last := by
  obtain ⟨index, call, found, -, done, rfl⟩ := commits
  exact ⟨.commit index, by simp [turn, found, done]⟩

theorem commits_lands (sound : Sound first) (commits : Commits first request outcome last) :
    Lands first.tables request outcome last.tables := by
  obtain ⟨index, call, found, rfl, done, rfl⟩ := commits
  exact commit_lands sound found done

/-- Whatever else commits in between, an order's request that was answered for good is answered
the same whenever it is sent again, and moves nothing: only the reply is sent again. And at any
time a request that contradicts what is recorded of its order moves nothing: it is refused, and
reported once. -/
theorem requests_answered_once (clock : Micros) (run : Run turn (initial clock) first)
    (commits : Commits first request outcome between) :
    (∀ later last again known, Outcome.final outcome = true → Alike request again →
      Run turn between later → Commits later again known last →
      known = outcome ∧ Replied later.tables last.tables (answer again outcome) ∧
        (answer again outcome).map OutboxRow.payload =
          (answer request outcome).map OutboxRow.payload) ∧
      (Contradicts first.tables request → Outcome.final outcome = false ∧
        Reported first.tables between.tables (answer request outcome)) := by
  have kept : Kept first :=
    run_keeps (fun _ _ _ kept turned => turn_kept kept turned) (initial_kept clock) run
  have lands := commits_lands kept.sound commits
  constructor
  · intro later last again known final alike onward repeated
    obtain ⟨event, turned⟩ := commits_turn commits
    have middle := turn_kept kept turned
    have order : ∀ userId initialAllocation, request ≠ .issueInitial userId initialAllocation := by
      rintro userId initialAllocation rfl
      exact alike.elim
    have recorded := recorded_later (run_recorded middle onward)
      (lands_recorded kept.records lands order final)
    have there : Kept later :=
      run_keeps (fun _ _ _ kept turned => turn_kept kept turned) middle onward
    obtain ⟨same, replied⟩ := lands_repeats there.records
      (commits_lands there.sound repeated) (recorded_alike alike recorded)
    exact ⟨same, replied, answers_alike alike⟩
  · exact lands_contradicts lands

def askedTwo : ReservationInput :=
  { orderId := "o", requesterId := "u", amount := 2, correlationId := "c", causationId := "e" }

/-- A UUID of version 4. -/
def drawn (number : Nat) : Uuid := 4 * 2 ^ 76 + 8 * 2 ^ 60 + number

/-- A wallet is issued, and a reservation is ready to commit. -/
def reserving : List Event :=
  [.start (.issueInitial "u" 10), .run 0 (drawn 1), .commit 0, .start (.reserve askedTwo),
    .run 1 (drawn 2), .run 1 (drawn 2)]

/-- The same request from another message. -/
def reservingAgain : List Event :=
  [.start (.reserve { askedTwo with causationId := "f" }), .run 2 (drawn 3), .run 2 (drawn 3)]

/-- A reservation of two is ready to commit, and succeeded. -/
def readyTwo (state : State) (index : Nat) (causationId : String) : Bool :=
  match state.active[index]? with
  | some ⟨.reserve input, _, .done (.reservation (.reserved transactionId)), _, _⟩ =>
      decide (input = { askedTwo with causationId }) && decide (transactionId = idText (drawn 2))
  | _ => false

theorem ready_commits {index : Nat} {causationId : String}
    (ready : readyTwo state index causationId = true) :
    ∃ after, turn state (.commit index) = some after ∧
      Commits state (.reserve { askedTwo with causationId })
        (.reservation (.reserved (idText (drawn 2)))) after := by
  unfold readyTwo at ready
  split at ready
  · rename_i input startedAt transactionId locks own found
    obtain ⟨asked, drew⟩ := Bool.and_eq_true_iff.mp ready
    simp only [decide_eq_true_eq] at asked drew
    subst asked drew
    exact ⟨_, by simp [turn, found], index, _, found, rfl, rfl, rfl⟩
  · cases ready

theorem reserved_once : ∃ later last : State, Replied later.tables last.tables
    (answer (.reserve { askedTwo with causationId := "f" })
      (.reservation (.reserved (idText (drawn 2))))) := by
  have reached : ((turns turn (initial 0) reserving).any fun first =>
      readyTwo first 1 "e" && (turn first (.commit 1)).any fun between =>
        (turns turn between reservingAgain).any fun later => readyTwo later 2 "f") = true := by
    decide +kernel
  obtain ⟨first, began, both⟩ := (Option.any_eq_true _ _).mp reached
  obtain ⟨ready, rest⟩ := Bool.and_eq_true_iff.mp both
  obtain ⟨between, turned, rest⟩ := (Option.any_eq_true _ _).mp rest
  obtain ⟨later, onward, again⟩ := (Option.any_eq_true _ _).mp rest
  obtain ⟨after, committed, commits⟩ := ready_commits ready
  cases turned.symm.trans committed
  obtain ⟨last, -, repeated⟩ := ready_commits again
  have alike : Alike (.reserve { askedTwo with causationId := "e" })
      (.reserve { askedTwo with causationId := "f" }) := ⟨rfl, rfl, rfl⟩
  exact ⟨later, last, ((requests_answered_once 0 (run_turns .refl _ began) commits).1 later last _ _
    rfl alike (run_turns .refl _ onward) repeated).2.1⟩

end Foc.Credit.Interleaving
