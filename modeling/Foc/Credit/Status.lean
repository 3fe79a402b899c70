import Foc.Credit.Repeats
import Mathlib

/-!
What Credit says of an order when it is asked: what its operations came to, and which
transactions moved credit for it. Whatever commits, in any order, what it says of an order only
goes on: from nothing to set aside, and from there to paid or to given back.
-/
namespace Foc.Credit.Interleaving
open Library.EventLoop
open Foc.Order (Micros Uuid idText)

/-! ## The status of an order -/

inductive CreditStatus where
  | none | reserved | released | transferred
  deriving DecidableEq, Repr

inductive StatusDetail where
  | unknown | inFlight | rejected
  deriving DecidableEq, Repr

structure TransactionReference where
  transactionId : TransactionId
  type : OperationType
  deriving DecidableEq, Repr

/-- The times of operations and transactions are left out. -/
structure OrderCreditStatus where
  orderId : OrderId
  status : CreditStatus
  detail : Option StatusDetail
  rejectionReason : Option ReservationRejection
  reservation : Option TransactionReference
  terminal : Option TransactionReference
  deriving DecidableEq, Repr

/-- The transaction that an operation names, if there is one. -/
def reference (tables : Tables) (type : OperationType) (row : Operation) :
    Option TransactionReference := do
  let transactionId ← row.outcome.transactionId
  let _ ← tables.transactions.lookup transactionId
  return { transactionId, type }

def rejectionReason : OperationOutcome → Option ReservationRejection
  | .rejected recorded _ => some recorded.reason
  | .pending | .succeeded _ => none

def pendingDetail : Option Operation → StatusDetail
  | none => .unknown
  | some row => if row.outcome.name = .rejected then .rejected else .inFlight

def orderStatus (tables : Tables) (orderId : OrderId) : OrderCreditStatus :=
  let reservation := tables.operations.lookup (orderId, .reserve)
  let terminal := findTerminalOperation tables orderId
  let reservationReference := reservation.bind fun row => reference tables .reserve row
  match terminal.bind fun row => reference tables row.1 row.2 with
  | some reference =>
      { orderId
        status := if reference.type = .transfer then .transferred else .released
        detail := none
        rejectionReason := none
        reservation := reservationReference
        terminal := some reference }
  | none =>
      match reservationReference with
      | some reference =>
          { orderId
            status := .reserved
            detail := none
            rejectionReason := none
            reservation := some reference
            terminal := none }
      | none =>
          { orderId
            status := .none
            detail := some (pendingDetail reservation)
            rejectionReason := reservation.bind fun row => rejectionReason row.outcome
            reservation := none
            terminal := none }

/-! ## By what is recorded -/

section Recorded

variable {tables : Tables} {orderId : OrderId} {operation reservation : Operation}
  {transactionId reserved : TransactionId}

theorem reference_moved (records : Records tables) {type : OperationType}
    (found : tables.operations.lookup (orderId, type) = some operation)
    (succeeded : operation.outcome = .succeeded transactionId) :
    reference tables type operation = some { transactionId, type } := by
  have moved := records.moved _ operation transactionId found succeeded
  simp [reference, succeeded, OperationOutcome.transactionId, moved]

theorem find_terminal_found {type : OperationType}
    (terminal : findTerminalOperation tables orderId = some (type, operation)) :
    tables.operations.lookup (orderId, type) = some operation ∧ type ≠ .reserve := by
  rw [findTerminalOperation] at terminal
  split at terminal
  · next released =>
      cases terminal
      exact ⟨released, by simp⟩
  · obtain ⟨row, found, is⟩ := Option.map_eq_some_iff.mp terminal
    cases is
    exact ⟨found, by simp⟩

/-- A terminal operation is one that moved the reward, from a reservation that set it aside. -/
theorem terminal_moved (records : Records tables) {type : OperationType}
    (found : tables.operations.lookup (orderId, type) = some operation)
    (terminal : type ≠ .reserve) : ∃ transactionId reservation reserved,
      operation.outcome = .succeeded transactionId ∧
        tables.operations.lookup (orderId, .reserve) = some reservation ∧
        reservation.outcome = .succeeded reserved := by
  obtain ⟨reservation, reserved, there, set, -⟩ := records.backed _ operation found terminal
  have finished := records.finished _ operation found
  cases type with
  | reserve => exact absurd rfl terminal
  | transfer =>
      obtain ⟨result, paid⟩ := finished
      exact ⟨_, reservation, reserved, paid.outcome, there, set⟩
  | release =>
      obtain ⟨result, returned⟩ := finished
      exact ⟨_, reservation, reserved, returned.outcome, there, set⟩

/-- How far an order's credit is, by its operations. -/
inductive Reaches (tables : Tables) (orderId : OrderId) : OrderCreditStatus → Prop
  | settled (type : OperationType) (operation reservation : Operation)
      (transactionId reserved : TransactionId) (terminal : type ≠ .reserve)
      (found : tables.operations.lookup (orderId, type) = some operation)
      (succeeded : operation.outcome = .succeeded transactionId)
      (there : tables.operations.lookup (orderId, .reserve) = some reservation)
      (set : reservation.outcome = .succeeded reserved) :
      Reaches tables orderId
        { orderId
          status := if type = .transfer then .transferred else .released
          detail := none
          rejectionReason := none
          reservation := some { transactionId := reserved, type := .reserve }
          terminal := some { transactionId, type } }
  | reserved (reservation : Operation) (reserved : TransactionId)
      (unsettled : findTerminalOperation tables orderId = none)
      (there : tables.operations.lookup (orderId, .reserve) = some reservation)
      (set : reservation.outcome = .succeeded reserved) :
      Reaches tables orderId
        { orderId
          status := .reserved
          detail := none
          rejectionReason := none
          reservation := some { transactionId := reserved, type := .reserve }
          terminal := none }
  | rejected (reservation : Operation) (recorded : RecordedRejection) (available : Option Int)
      (unsettled : findTerminalOperation tables orderId = none)
      (there : tables.operations.lookup (orderId, .reserve) = some reservation)
      (refused : reservation.outcome = .rejected recorded available) :
      Reaches tables orderId
        { orderId
          status := .none
          detail := some .rejected
          rejectionReason := some recorded.reason
          reservation := none
          terminal := none }
  | unknown (unsettled : findTerminalOperation tables orderId = none)
      (absent : tables.operations.lookup (orderId, .reserve) = none) :
      Reaches tables orderId
        { orderId
          status := .none
          detail := some .unknown
          rejectionReason := none
          reservation := none
          terminal := none }

theorem reaches (records : Records tables) (orderId : OrderId) :
    Reaches tables orderId (orderStatus tables orderId) := by
  unfold orderStatus
  cases terminal : findTerminalOperation tables orderId with
  | some row =>
      obtain ⟨type, operation⟩ := row
      obtain ⟨found, settles⟩ := find_terminal_found terminal
      obtain ⟨transactionId, reservation, reserved, succeeded, there, set⟩ :=
        terminal_moved records found settles
      rw [there]
      simp only [Option.bind_some, reference_moved records found succeeded,
        reference_moved records there set]
      exact .settled type operation reservation transactionId reserved settles found succeeded
        there set
  | none =>
      cases there : tables.operations.lookup (orderId, .reserve) with
      | none => exact .unknown terminal there
      | some reservation =>
          cases outcome : reservation.outcome with
          | pending => exact absurd outcome (records.finished _ reservation there)
          | succeeded reserved =>
              simp only [Option.bind_none, Option.bind_some, reference_moved records there outcome]
              exact .reserved reservation reserved terminal there outcome
          | rejected recorded available =>
              have nothing : reference tables .reserve reservation = none := by
                simp [reference, outcome, OperationOutcome.transactionId]
              simp only [Option.bind_none, Option.bind_some, nothing, pendingDetail, outcome,
                rejectionReason, OperationOutcome.name, if_true]
              exact .rejected reservation recorded available terminal there outcome

/-! What is recorded of an order leaves one thing to say of it. -/

theorem settled_same (records : Records tables) {type : OperationType}
    {status : OrderCreditStatus} (terminal : type ≠ .reserve)
    (found : tables.operations.lookup (orderId, type) = some operation)
    (succeeded : operation.outcome = .succeeded transactionId)
    (there : tables.operations.lookup (orderId, .reserve) = some reservation)
    (set : reservation.outcome = .succeeded reserved) (reaches : Reaches tables orderId status) :
    status =
      { orderId
        status := if type = .transfer then .transferred else .released
        detail := none
        rejectionReason := none
        reservation := some { transactionId := reserved, type := .reserve }
        terminal := some { transactionId, type } } := by
  have unsettled (none_ : findTerminalOperation tables orderId = none) : False := by
    obtain ⟨unreleased, untransferred⟩ := find_terminal_none none_
    cases type with
    | reserve => exact terminal rfl
    | transfer => cases untransferred.symm.trans found
    | release => cases unreleased.symm.trans found
  cases reaches with
  | settled other also backing id set_ settles present moved is aside =>
      have same : other = type := by
        cases other <;> cases type
        case transfer.release => cases (records.once _ _ present).symm.trans found
        case release.transfer => cases (records.once _ _ found).symm.trans present
        all_goals first | rfl | exact absurd rfl terminal | exact absurd rfl settles
      subst same
      cases present.symm.trans found
      cases is.symm.trans there
      cases moved.symm.trans succeeded
      cases aside.symm.trans set
      rfl
  | reserved _ _ none_ => exact (unsettled none_).elim
  | rejected _ _ _ none_ => exact (unsettled none_).elim
  | unknown none_ => exact (unsettled none_).elim

theorem reserved_kept {status : OrderCreditStatus}
    (there : tables.operations.lookup (orderId, .reserve) = some reservation)
    (set : reservation.outcome = .succeeded reserved) (reaches : Reaches tables orderId status) :
    status.status ≠ .none ∧
      status.reservation = some { transactionId := reserved, type := .reserve } := by
  cases reaches with
  | settled type _ other _ _ _ _ _ is aside =>
      cases is.symm.trans there
      cases aside.symm.trans set
      refine ⟨?_, rfl⟩
      cases type <;> simp
  | reserved other _ _ is aside =>
      cases is.symm.trans there
      cases aside.symm.trans set
      exact ⟨by simp, rfl⟩
  | rejected other _ _ _ is refused =>
      cases is.symm.trans there
      cases refused.symm.trans set
  | unknown _ absent => cases absent.symm.trans there

theorem rejected_same {status : OrderCreditStatus} {recorded : RecordedRejection}
    {available : Option Int}
    (there : tables.operations.lookup (orderId, .reserve) = some reservation)
    (refused : reservation.outcome = .rejected recorded available)
    (reaches : Reaches tables orderId status) :
    status =
      { orderId
        status := .none
        detail := some .rejected
        rejectionReason := some recorded.reason
        reservation := none
        terminal := none } := by
  cases reaches with
  | settled _ _ other _ _ _ _ _ is aside =>
      cases is.symm.trans there
      cases aside.symm.trans refused
  | reserved other _ _ is aside =>
      cases is.symm.trans there
      cases aside.symm.trans refused
  | rejected other _ _ _ is also =>
      cases is.symm.trans there
      cases also.symm.trans refused
      rfl
  | unknown _ absent => cases absent.symm.trans there

end Recorded

/-! ## What was moved for it -/

/-- Credit's economic effects for one order: its business transactions by type. The order in
which they are listed is left out. -/
def transactionsFor (tables : Tables) (orderId : OrderId) : List TransactionType :=
  (tables.transactions.entries.filter fun row => decide (row.2.orderId = some orderId)).map
    fun row => row.2.transactionType

def kinds : List OperationType := [.reserve, .transfer, .release]

/-- The transaction of an order's operation, where it has one that succeeded. -/
def effect (tables : Tables) (orderId : OrderId) (operationType : OperationType) :
    Option (Sigma fun _ : TransactionId => CreditTransaction) := do
  let operation ← tables.operations.lookup (orderId, operationType)
  let transactionId ← operation.outcome.transactionId
  return ⟨transactionId, movement (orderId, operationType) operation⟩

section Effects

variable {tables : Tables} {orderId : OrderId} {operationType : OperationType}
  {operation : Operation}

theorem effect_iff {row : Sigma fun _ : TransactionId => CreditTransaction} :
    effect tables orderId operationType = some row ↔ ∃ operation,
      tables.operations.lookup (orderId, operationType) = some operation ∧
        operation.outcome = .succeeded row.1 ∧ row.2 = movement (orderId, operationType) operation := by
  simp only [effect, Option.bind_eq_bind, Option.pure_def, Option.bind_eq_some_iff,
    Option.some.injEq]
  constructor
  · rintro ⟨operation, found, transactionId, succeeded, rfl⟩
    refine ⟨operation, found, ?_, rfl⟩
    cases outcome : operation.outcome <;> rw [outcome] at succeeded <;> cases succeeded
    rfl
  · rintro ⟨operation, found, succeeded, same⟩
    refine ⟨operation, found, row.1, by rw [succeeded]; rfl, ?_⟩
    rw [← same]

theorem effect_type {row : Sigma fun _ : TransactionId => CreditTransaction}
    (is : effect tables orderId operationType = some row) :
    row.2.transactionType = OperationType.moves operationType := by
  obtain ⟨operation, -, -, same⟩ := effect_iff.mp is
  rw [same]
  rfl

theorem moves_injective {one two : OperationType}
    (same : OperationType.moves one = OperationType.moves two) : one = two := by
  cases one <;> cases two <;> first | rfl | cases same

/-- An order's transactions are those of its operations that succeeded. -/
theorem transactions_effects (records : Records tables) (orderId : OrderId) :
    (transactionsFor tables orderId).Perm
      ((kinds.filterMap (effect tables orderId)).map fun row => row.2.transactionType) := by
  apply List.Perm.map
  apply (List.perm_ext_iff_of_nodup ?_ ?_).mpr
  · intro row
    rw [List.mem_filter, List.mem_filterMap, decide_eq_true_eq]
    constructor
    · rintro ⟨member, named⟩
      have found : tables.transactions.lookup row.1 = some row.2 := AList.mem_lookup_iff.mpr member
      obtain ⟨operationType, operation, recorded, succeeded⟩ :=
        records.caused row.1 row.2 orderId found named
      have moved := records.moved _ operation row.1 recorded succeeded
      refine ⟨operationType, ?_, effect_iff.mpr ⟨operation, recorded, succeeded, ?_⟩⟩
      · cases operationType <;> simp [kinds]
      · exact Option.some.inj (found.symm.trans moved)
    · rintro ⟨operationType, -, is⟩
      obtain ⟨operation, recorded, succeeded, same⟩ := effect_iff.mp is
      have moved := records.moved _ operation row.1 recorded succeeded
      rw [← same] at moved
      refine ⟨AList.mem_lookup_iff.mp moved, ?_⟩
      rw [same]
      rfl
  · exact List.Nodup.filter _ (List.NodupKeys.nodup tables.transactions.nodupKeys)
  · refine List.Nodup.filterMap ?_ (by decide)
    intro one two row first second
    exact moves_injective ((effect_type first).symm.trans (effect_type second))

/-- Whether an operation of the order succeeded. -/
def did (tables : Tables) (orderId : OrderId) (operationType : OperationType) : Bool :=
  (effect tables orderId operationType).isSome

theorem effects_did (orderId : OrderId) (types : List OperationType) :
    (types.filterMap (effect tables orderId)).map (fun row => row.2.transactionType) =
      (types.filter (did tables orderId)).map OperationType.moves := by
  induction types with
  | nil => rfl
  | cons operationType rest ih =>
      cases is : effect tables orderId operationType with
      | none => simpa [is, did] using ih
      | some row => simpa [is, did, effect_type is] using ih

theorem transactions_did (records : Records tables) (orderId : OrderId) :
    (transactionsFor tables orderId).Perm
      ((kinds.filter (did tables orderId)).map OperationType.moves) := by
  rw [← effects_did]
  exact transactions_effects records orderId

theorem undone {operationType : OperationType}
    (none_ : tables.operations.lookup (orderId, operationType) = none) :
    did tables orderId operationType = false := by
  simp [did, effect, none_]

theorem done_did {operationType : OperationType} {transactionId : TransactionId}
    (found : tables.operations.lookup (orderId, operationType) = some operation)
    (succeeded : operation.outcome = .succeeded transactionId) :
    did tables orderId operationType = true := by
  simp [did, effect, found, succeeded, OperationOutcome.transactionId]

theorem refused_did {operationType : OperationType} {recorded : RecordedRejection}
    {available : Option Int}
    (found : tables.operations.lookup (orderId, operationType) = some operation)
    (refused : operation.outcome = .rejected recorded available) :
    did tables orderId operationType = false := by
  simp [did, effect, found, refused, OperationOutcome.transactionId]

/-- What the list of transactions comes to, by which operations succeeded. -/
theorem transactions_are (records : Records tables) {types : List TransactionType}
    {reserve transfer release : Bool} (orderId : OrderId)
    (reserves : did tables orderId .reserve = reserve)
    (transfers : did tables orderId .transfer = transfer)
    (releases : did tables orderId .release = release)
    (are : ((if reserve then [TransactionType.reserve] else []) ++
      (if transfer then [.transfer] else []) ++ if release then [.release] else []) = types) :
    (transactionsFor tables orderId).Perm types := by
  have found := transactions_did records orderId
  rw [← are]
  cases reserve <;> cases transfer <;> cases release <;>
    simpa [kinds, reserves, transfers, releases, OperationType.moves] using found

/-- The transactions of an order, by what Credit says of it. -/
def CreditStatus.moved : CreditStatus → List TransactionType
  | .none => []
  | .reserved => [.reserve]
  | .released => [.reserve, .release]
  | .transferred => [.reserve, .transfer]

theorem status_moved (records : Records tables) (orderId : OrderId) :
    (transactionsFor tables orderId).Perm (orderStatus tables orderId).status.moved := by
  have reached := reaches records orderId
  generalize orderStatus tables orderId = status at reached ⊢
  cases reached with
  | settled type operation reservation transactionId reserved terminal found succeeded there set =>
      have reserves := done_did there set
      cases type with
      | reserve => exact absurd rfl terminal
      | transfer =>
          exact transactions_are records orderId reserves (done_did found succeeded)
            (undone (records.once _ _ found)) rfl
      | release =>
          have untransferred : tables.operations.lookup (orderId, .transfer) = none := by
            cases transferred : tables.operations.lookup (orderId, .transfer) with
            | none => rfl
            | some other =>
                rw [records.once _ _ transferred] at found
                cases found
          exact transactions_are records orderId reserves (undone untransferred)
            (done_did found succeeded) rfl
  | reserved reservation reserved unsettled there set =>
      obtain ⟨unreleased, untransferred⟩ := find_terminal_none unsettled
      exact transactions_are records orderId (done_did there set) (undone untransferred)
        (undone unreleased) rfl
  | rejected reservation recorded available unsettled there refused =>
      obtain ⟨unreleased, untransferred⟩ := find_terminal_none unsettled
      exact transactions_are records orderId (refused_did there refused) (undone untransferred)
        (undone unreleased) rfl
  | unknown unsettled absent =>
      obtain ⟨unreleased, untransferred⟩ := find_terminal_none unsettled
      exact transactions_are records orderId (undone absent) (undone untransferred)
        (undone unreleased) rfl

end Effects

/-! ## Over every interleaving -/

section Runs

variable {state later : State} {orderId : OrderId}

/-- What is said of an order, before and after. -/
structure Proceeding (before after : OrderCreditStatus) : Prop where
  settled : before.terminal ≠ none → after = before
  refused : before.detail = some .rejected → after = before
  reserved : before.status = .reserved →
    after.status ≠ .none ∧ after.reservation = before.reservation
  finished : before.detail ≠ some .inFlight

theorem reaches_proceeding {tables after : Tables} (records : Records after)
    (onward : Interleaving.Later tables.operations after.operations)
    {one two : OrderCreditStatus} (first : Reaches tables orderId one)
    (second : Reaches after orderId two) : Proceeding one two := by
  cases first with
  | settled type operation reservation transactionId reserved terminal found succeeded there set =>
      have same : two = _ := settled_same records terminal (onward _ _ found) succeeded
        (onward _ _ there) set second
      exact ⟨fun _ => same, fun refused => by simp at refused, fun is => by
        split at is <;> simp at is, by simp⟩
  | reserved reservation reserved unsettled there set =>
      refine ⟨fun settled => absurd rfl settled, fun refused => by simp at refused, fun _ => ?_,
        by simp⟩
      exact reserved_kept (onward _ _ there) set second
  | rejected reservation recorded available unsettled there refused =>
      refine ⟨fun settled => absurd rfl settled, fun _ => ?_, fun is => by simp at is, by simp⟩
      exact rejected_same (onward _ _ there) refused second
  | unknown unsettled absent =>
      exact ⟨fun settled => absurd rfl settled, fun refused => by simp at refused,
        fun is => by simp at is, by simp⟩

/-- Whatever the transactions under way do next and in whatever order, what Credit says of an
order does not go back: once paid, given back or refused it stays as it is, and once set aside
it stays so or is settled from the same reservation. It never says that a request is in flight,
and the order's business transactions are always those that go with what it says. -/
theorem order_status_proceeds (clock : Micros) (run : Run turn (initial clock) state)
    (onward : Run turn state later) (orderId : OrderId) :
    Proceeding (orderStatus state.tables orderId) (orderStatus later.tables orderId) ∧
      (transactionsFor later.tables orderId).Perm
        (orderStatus later.tables orderId).status.moved := by
  have kept : Kept state :=
    run_keeps (fun _ _ _ kept turned => turn_kept kept turned) (initial_kept clock) run
  have after : Kept later := run_keeps (fun _ _ _ kept turned => turn_kept kept turned) kept onward
  exact ⟨reaches_proceeding after.records (run_recorded kept onward)
    (reaches kept.records orderId) (reaches after.records orderId),
    status_moved after.records orderId⟩

theorem reserved_proceeds : ∃ state later : State,
    (orderStatus state.tables askedTwo.orderId).status = .reserved ∧
      Proceeding (orderStatus state.tables askedTwo.orderId)
        (orderStatus later.tables askedTwo.orderId) := by
  have reached : ((turns turn (initial 0) (reserving ++ [.commit 1])).any fun state =>
      decide ((orderStatus state.tables askedTwo.orderId).status = .reserved) &&
        (turns turn state reservingAgain).isSome) = true := by
    decide +kernel
  obtain ⟨state, began, both⟩ := (Option.any_eq_true _ _).mp reached
  obtain ⟨status, rest⟩ := Bool.and_eq_true_iff.mp both
  obtain ⟨later, onward⟩ := Option.isSome_iff_exists.mp rest
  exact ⟨state, later, of_decide_eq_true status,
    (order_status_proceeds 0 (run_turns .refl _ began) (run_turns .refl _ onward) _).1⟩

end Runs

end Foc.Credit.Interleaving
