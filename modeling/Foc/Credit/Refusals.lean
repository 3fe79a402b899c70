import Foc.Credit.Repeats
import Foc.Credit.Statements

/-!
What a refusal for insufficient credits says. The balance in it is read by a statement of
its own, after the `UPDATE` that found too little: it is below the amount as long as the
wallet, when it is read, is still one that the `UPDATE` would pass over.
-/
namespace Foc.Credit.Interleaving
open Library.Difference Library.EventLoop Library.LockTable
open Foc.Order (Micros Uuid idText)

/-! ## Truthful refusals -/

/-- The figure of a refusal is less than the amount asked. -/
def Short (amount : Int) (available : Option Int) : Prop :=
  ∃ held, available = some held ∧ held < amount

def TruthfulOperation (operation : Operation) : Prop :=
  ∀ available, operation.outcome = .rejected .insufficientCredits available →
    Short operation.amount available

def TruthfulReply (row : OutboxRow) : Prop :=
  ∀ orderId requesterId amount available,
    row.payload =
      .creditReservationRejected orderId requesterId amount .insufficientCredits available →
    Short amount available

/-- Every refusal for insufficient credits that is recorded or emitted. -/
structure Truthful (tables : Tables) : Prop where
  recorded : ∀ key operation, tables.operations.lookup key = some operation →
    TruthfulOperation operation
  emitted : ∀ row ∈ tables.outbox, TruthfulReply row

variable {tables after : Tables} {input : ReservationInput} {transactionId : TransactionId}

theorem truthful_same (truthful : Truthful tables)
    (operations : after.operations = tables.operations)
    (outbox : after.outbox = tables.outbox) : Truthful after := by
  constructor
  · rw [operations]
    exact truthful.recorded
  · rw [outbox]
    exact truthful.emitted

theorem truthful_settle (truthful : Truthful tables) {key : OrderId × OperationType}
    {operation : Operation} {reply : OutboxRow} (records : TruthfulOperation operation)
    (replies : TruthfulReply reply) : Truthful (tables.settle key operation reply) := by
  constructor
  · intro other found there
    rcases @patch_found _ _ _ tables.operations _ _ [(key, operation)] there with own | old
    · rw [List.mem_singleton] at own
      cases own
      exact records
    · exact truthful.recorded other found old
  · intro row member
    rcases List.mem_append.mp member with old | own
    · exact truthful.emitted row old
    · rw [List.mem_singleton.mp own]
      exact replies

theorem truthful_replied (truthful : Truthful tables) {alerts : List AuditAlert} {reply : OutboxRow}
    (replies : TruthfulReply reply) :
    Truthful { tables with alerts, outbox := tables.outbox ++ [reply] } := by
  refine ⟨truthful.recorded, ?_⟩
  intro row member
  rcases List.mem_append.mp member with old | own
  · exact truthful.emitted row old
  · rw [List.mem_singleton.mp own]
    exact replies

/-- A refusal with the reply that goes with it. -/
theorem truthful_refused (truthful : Truthful tables) {reason : RecordedRejection}
    {available : Option Int}
    (short : reason = .insufficientCredits → Short input.amount available) :
    Truthful (tables.settle (input.orderId, .reserve)
      { pendingOperation input.requesterId none input.amount with
        outcome := .rejected reason available }
      (reservationReply input (.rejected reason.reason available))) := by
  apply truthful_settle truthful
  · intro named is
    cases is
    exact short rfl
  · intro orderId requesterId amount named is
    cases reason with
    | amountOutOfRange => cases is
    | insufficientCredits =>
        cases is
        exact short rfl

/-- A success is no refusal. -/
theorem truthful_settled (truthful : Truthful tables) {key : OrderId × OperationType}
    {operation : Operation} {reply : OutboxRow} {settledBy : TransactionId}
    (succeeds : operation.outcome = .succeeded settledBy)
    (replies : ∀ orderId requesterId amount available,
      reply.payload ≠
        .creditReservationRejected orderId requesterId amount .insufficientCredits available) :
    Truthful (tables.settle key operation reply) := by
  apply truthful_settle truthful
  · intro available is
    rw [succeeds] at is
    cases is
  · intro orderId requesterId amount available is
    exact absurd is (replies orderId requesterId amount available)

theorem replay_truthful {operation : Operation} {outcome : ReservationOutcome}
    (records : TruthfulOperation operation) (same : operation.differs input = false)
    (recorded : recordedOutcome operation.outcome = some outcome) :
    TruthfulReply (reservationReply input outcome) := by
  intro orderId requesterId amount available is
  simp only [Operation.differs, Bool.or_eq_false_iff, decide_eq_false_iff_not, not_not] at same
  cases kept : operation.outcome with
  | pending =>
      rw [kept] at recorded
      cases recorded
  | succeeded settledBy =>
      rw [kept] at recorded
      cases recorded
      cases is
  | rejected reason figure =>
      rw [kept] at recorded
      cases recorded
      cases reason with
      | amountOutOfRange => cases is
      | insufficientCredits =>
          cases is
          rw [← same.2]
          exact records _ kept

theorem reserved_truthful (truthful : Truthful tables) {outcome : ReservationOutcome}
    (reserved : Reserved tables input transactionId outcome after) : Truthful after := by
  cases reserved with
  | conflict =>
      apply truthful_replied truthful
      intro orderId requesterId amount available is
      cases is
  | replay operation outcome found same recorded =>
      exact truthful_replied truthful (replay_truthful (truthful.recorded _ _ found) same recorded)
  | refuse reason available _ _ cause =>
      apply truthful_refused truthful
      intro insufficient
      rcases cause with ⟨-, ranged, -⟩ | ⟨wallet, -, short, -, is⟩
      · rw [ranged] at insufficient
        cases insufficient
      · exact ⟨wallet.available, is, short⟩
  | reserve =>
      apply truthful_settled
      · exact truthful_same truthful rfl rfl
      · rfl
      · intro orderId requesterId amount available is
        cases is

theorem transferred_truthful {input : TransferInput} (truthful : Truthful tables)
    {outcome : TransferOutcome}
    (transferred : Transferred tables input transactionId outcome after) : Truthful after := by
  cases transferred with
  | invalid | participants | conflict => exact truthful_same truthful rfl rfl
  | replay =>
      apply truthful_replied truthful
      intro orderId requesterId amount available is
      cases is
  | transfer =>
      apply truthful_settled
      · exact truthful_same truthful rfl rfl
      · rfl
      · intro orderId requesterId amount available is
        cases is

theorem released_truthful {input : ReleaseInput} (truthful : Truthful tables)
    {outcome : ReleaseOutcome} (released : Released tables input transactionId outcome after) :
    Truthful after := by
  cases released with
  | invalid | conflict => exact truthful_same truthful rfl rfl
  | replay =>
      apply truthful_replied truthful
      intro orderId requesterId amount available is
      cases is
  | release =>
      apply truthful_settled
      · exact truthful_same truthful rfl rfl
      · rfl
      · intro orderId requesterId amount available is
        cases is

theorem issued_truthful {userId : UserId} {initialAllocation : Int} {created : Bool}
    (truthful : Truthful tables)
    (issued : Issued tables userId initialAllocation transactionId created after) :
    Truthful after := by
  cases issued with
  | known => exact truthful
  | issue => exact truthful_same truthful rfl rfl

/-! ## What is written and not committed -/

structure TruthfulOwn (own : Changes) : Prop where
  recorded : ∀ row ∈ own.operations, TruthfulOperation row.2
  emitted : ∀ row ∈ own.outbox, TruthfulReply row

theorem changes_truthful (truthful : Truthful after) : TruthfulOwn (changes tables after) :=
  ⟨fun _ member => truthful.recorded _ _ (difference_found member),
    fun row member => truthful.emitted row (List.mem_of_mem_drop member)⟩

theorem none_truthful : TruthfulOwn .none :=
  ⟨fun _ member => absurd member List.not_mem_nil, fun _ member => absurd member List.not_mem_nil⟩

theorem apply_truthful {own : Changes} (truthful : Truthful tables) (writes : TruthfulOwn own) :
    Truthful (own.apply tables) := by
  constructor
  · intro key operation found
    rcases patch_found found with own | old
    · exact writes.recorded _ own
    · exact truthful.recorded key operation old
  · intro row member
    rcases List.mem_append.mp member with old | own
    · exact truthful.emitted row old
    · exact writes.emitted row own

/-- Whether a step keeps the wallet that a refusal reads from covering the amount: it is
not the `SELECT` of a wallet that the `UPDATE` before it would no longer pass over. -/
def candid (state : State) : Event → Bool
  | .run index _ =>
      match state.active[index]? with
      | some call =>
          match call.request, call.stage with
          | .reserve input, .short => !covers state.tables input
          | _, _ => true
      | none => true
  | .tick _ | .start _ | .commit _ | .abort _ => true

def candidTurn : Turn State Event := fun state event =>
  if candid state event then turn state event else none

variable {call moved : Active} {busy : Lock → Bool}

theorem not_covered {wallet : Wallet} (uncovered : covers tables input = false)
    (found : tables.wallets.lookup input.requesterId = some wallet) :
    wallet.available < input.amount := by
  rw [covers, found, Option.any_some, decide_eq_false_iff_not] at uncovered
  omega

theorem ran_truthful {outcome : Outcome} (truthful : Truthful tables)
    (candid : ∀ input, call.request = .reserve input → call.stage = .short →
      covers tables input = false)
    (ran : Ran tables transactionId call outcome after) : Truthful after := by
  cases ran with
  | issue asked returned => exact issued_truthful truthful (issue_initial_ok returned)
  | reserve asked returned => exact reserved_truthful truthful (reserve_ok returned)
  | @refuse input wallet _ _ asked short found returned =>
      obtain ⟨-, -, -, rfl⟩ := refuse_ok returned
      apply truthful_refused truthful
      intro _
      exact ⟨wallet.available, rfl, not_covered (candid input asked short) found⟩
  | transfer asked returned => exact transferred_truthful truthful (transfer_ok returned)
  | release asked returned => exact released_truthful truthful (release_ok returned)

/-! ## Over every interleaving -/

/-- No refusal misleads, neither a committed one nor one that is yet to commit. -/
def TruthfulState (state : State) : Prop := Holds Truthful TruthfulOwn state

variable {state next_ : State} {index : Nat}

theorem initial_truthful (clock : Micros) : TruthfulState (initial clock) := by
  apply initial_holds
  constructor
  · intro key operation found
    cases found
  · intro row member
    cases member

theorem candid_short {draw : Uuid} {input : ReservationInput}
    (is : candid state (.run index draw) = true) (found : state.active[index]? = some call)
    (asked : call.request = .reserve input) (short : call.stage = .short) :
    covers state.tables input = false := by
  rw [candid, found] at is
  dsimp only at is
  rw [asked, short] at is
  exact Bool.not_eq_true' _ ▸ is

theorem turn_truthful {event : Event} (truthful : TruthfulState state)
    (is : candid state event = true) (turned : turn state event = some next_) :
    TruthfulState next_ := by
  apply turn_holds none_truthful _ _ truthful turned
  · exact fun own writes => apply_truthful truthful.committed writes
  · intro index draw call transactionId outcome after runs found ran
    subst runs
    apply changes_truthful
    apply ran_truthful truthful.committed _ ran
    intro input asked short
    exact candid_short is found asked short

/-! ## Refusals that mislead -/

/-- A refusal of the transaction's own that names no less than was asked. -/
def Misleads (call : Active) : Prop := ∃ row ∈ call.own.outbox, ¬TruthfulReply row

def ended : Stage → Bool
  | .done _ | .committed _ | .rolledBack => true
  | _ => false

/-- The transaction has no statement left, and emits a refusal that misleads if it commits. -/
def Misled (index : Nat) (state : State) : Prop :=
  ∃ call, state.active[index]? = some call ∧ ended call.stage = true ∧
    ∀ outcome, call.stage = .done outcome → Misleads call

theorem ended_next (is : ended call.stage = true) : next tables busy call transactionId = none := by
  rw [next]
  cases stage : call.stage with
  | begun | claimed | conflicting | short | locked =>
      rw [stage] at is
      cases is
  | done | committed | rolledBack =>
      cases call.request <;> simp [runReserve, stage]

/-- The refusal reads a wallet that covers the amount by then. -/
theorem select_misleads (covered : covers tables input = true) (short : call.stage = .short)
    (ran : runReserve tables busy call input transactionId = some (.ok moved)) :
    ended moved.stage = true ∧ Misleads moved := by
  rw [runReserve, short] at ran
  dsimp only at ran
  split at ran
  · cases ran
  · next wallet found =>
    obtain ⟨outcome, after, refused, -, done, own, -⟩ := perform_moves ran
    obtain ⟨⟨result, left⟩, returned, mapped⟩ := map_ok refused
    cases mapped
    obtain ⟨absent, -, -, rfl⟩ := refuse_ok returned
    rw [covers, found, Option.any_some, decide_eq_true_eq] at covered
    constructor
    · rw [done]
      rfl
    · refine ⟨reservationReply input (.rejected .insufficientCredits (some wallet.available)),
        ?_, ?_⟩
      · rw [own, changes_settled absent]
        exact List.mem_singleton_self _
      · intro truthful
        obtain ⟨held, is, less⟩ := truthful _ _ _ _ rfl
        cases is
        omega

theorem misled_set {other : Nat} (misled : Misled index state)
    (found : state.active[other]? = some call)
    (changed : next_.active = state.active.set other moved)
    (own : other = index → ended moved.stage = true ∧ ∀ outcome, moved.stage ≠ .done outcome) :
    Misled index next_ := by
  obtain ⟨known, there, is, misleads⟩ := misled
  by_cases same : other = index
  · obtain ⟨ends, undone⟩ := own same
    refine ⟨moved, ?_, ends, fun outcome done => absurd done (undone outcome)⟩
    rw [changed]
    exact (get_set found).mpr (.inl ⟨same, rfl⟩)
  · refine ⟨known, ?_, is, misleads⟩
    rw [changed]
    exact (get_set found).mpr (.inr ⟨same, there⟩)

theorem turn_misled {event : Event} (misled : Misled index state)
    (turned : turn state event = some next_) : Misled index next_ := by
  cases event with
  | tick now =>
      cases turned
      exact misled
  | start request =>
      cases turned
      obtain ⟨known, there, kept⟩ := misled
      refine ⟨known, ?_, kept⟩
      exact List.getElem?_append_left (List.getElem?_eq_some_iff.mp there).1 ▸ there
  | run other draw =>
      rw [turn] at turned
      split at turned
      · obtain ⟨call, found, ran⟩ := Option.bind_eq_some_iff.mp turned
        obtain ⟨result, stepped, rfl⟩ := Option.map_eq_some_iff.mp ran
        have differs : other ≠ index := by
          rintro rfl
          obtain ⟨known, there, is, -⟩ := misled
          cases found.symm.trans there
          rw [ended_next is] at stepped
          cases stepped
        cases result with
        | error error => exact misled_set misled found rfl (absurd · differs)
        | ok moved => exact misled_set misled found rfl (absurd · differs)
      · cases turned
  | commit other =>
      obtain ⟨call, found, committed⟩ := Option.bind_eq_some_iff.mp turned
      split at committed
      · cases committed
        apply misled_set misled found rfl
        intro _
        refine ⟨rfl, fun outcome is => ?_⟩
        cases is
      · cases committed
  | abort other =>
      obtain ⟨call, found, aborted⟩ := Option.bind_eq_some_iff.mp turned
      split at aborted
      · cases aborted
      · cases aborted
      · cases aborted
        apply misled_set misled found rfl
        intro _
        refine ⟨rfl, fun outcome is => ?_⟩
        cases is

/-- Only the `SELECT` of a refusal is not candid. -/
theorem uncandid_misled {draw : Uuid} (isnt : candid state (.run index draw) = false)
    (turned : turn state (.run index draw) = some next_) : Misled index next_ := by
  rw [turn] at turned
  split at turned
  · obtain ⟨call, found, ran⟩ := Option.bind_eq_some_iff.mp turned
    obtain ⟨result, stepped, rfl⟩ := Option.map_eq_some_iff.mp ran
    rw [candid, found] at isnt
    dsimp only at isnt
    split at isnt
    · next input request short =>
      rw [next, request] at stepped
      rw [Bool.not_eq_false'] at isnt
      cases result with
      | error error =>
          refine ⟨_, (get_set found).mpr (.inl ⟨rfl, rfl⟩), rfl, fun outcome is => ?_⟩
          cases is
      | ok moved =>
          obtain ⟨is, misleads⟩ := select_misleads isnt short stepped
          exact ⟨moved, (get_set found).mpr (.inl ⟨rfl, rfl⟩), is, fun _ _ => misleads⟩
    · cases isnt
  · cases turned

theorem commit_misleads (misled : Misled index state)
    (turned : turn state (.commit index) = some next_) : ¬Truthful next_.tables := by
  obtain ⟨call, found, committed⟩ := Option.bind_eq_some_iff.mp turned
  obtain ⟨known, there, -, misleads⟩ := misled
  cases found.symm.trans there
  split at committed
  · next outcome done =>
    cases committed
    obtain ⟨row, member, misleads⟩ := misleads outcome done
    exact fun truthful => misleads (truthful.emitted row (List.mem_append_right _ member))
  · cases committed

/-- As long as no refusal reads a balance that covers the amount by then, every refusal for
insufficient credits that is recorded or emitted names less than was asked. One that does
read such a balance misleads once its transaction commits. -/
theorem refusals_truthful (clock : Micros) :
    (∀ state, Run candidTurn (initial clock) state → Truthful state.tables) ∧
      ∀ before index draw read later after, Run turn (initial clock) before →
        candid before (.run index draw) = false → turn before (.run index draw) = some read →
        Run turn read later → turn later (.commit index) = some after → ¬Truthful after.tables := by
  constructor
  · intro state run
    have truthful : TruthfulState state := by
      apply run_keeps _ (initial_truthful clock) run
      intro before event after truthful turned
      rw [candidTurn] at turned
      split at turned
      · next is => exact turn_truthful truthful is turned
      · cases turned
    exact truthful.committed
  · intro before index draw read later after _ isnt turned run committed
    have misled : Misled index later :=
      run_keeps (fun _ _ _ misled turned => turn_misled misled turned)
        (uncandid_misled isnt turned) run
    exact commit_misleads misled committed

/-! ## Runs -/

def reserveOf (orderId : OrderId) (amount : Int) : Request :=
  .reserve { askedTwo with orderId, amount }

/-- A wallet of four credits, and a reservation of five. -/
def refusing : List Event :=
  [.start (.issueInitial "u" 4), .run 0 (drawn 1), .commit 0, .start (reserveOf "o" 5),
    .run 1 (drawn 2), .run 1 (drawn 2), .run 1 (drawn 2), .commit 1]

/-- Five of five credits are reserved. They are released while a reservation of three is
between its `UPDATE` and its `SELECT`. -/
def releasing : List Event :=
  [.start (.issueInitial "u" 5), .run 0 (drawn 1), .commit 0, .start (reserveOf "o" 5),
    .run 1 (drawn 2), .run 1 (drawn 2), .commit 1, .start (reserveOf "p" 3), .run 2 (drawn 3),
    .run 2 (drawn 3), .start (.release { askedTwo with amount := 5 }), .run 3 (drawn 4),
    .run 3 (drawn 4), .commit 3, .run 2 (drawn 3), .commit 2]

/-- The amount asked for an errand and the figure of the refusal. -/
def refusal (tables : Tables) (orderId : OrderId) : Option (Int × Option Int) :=
  match tables.operations.lookup (orderId, .reserve) with
  | some ⟨_, _, amount, .rejected .insufficientCredits available, _⟩ => some (amount, available)
  | _ => none

theorem refusal_short {orderId : OrderId} {amount : Int} {available : Option Int}
    (truthful : Truthful tables) (refused : refusal tables orderId = some (amount, available)) :
    Short amount available := by
  rw [refusal] at refused
  split at refused
  · next found =>
    cases refused
    exact truthful.recorded _ _ found _ rfl
  · cases refused

/-- A reservation of three is refused because five credits are available. -/
theorem released_misleads : ¬∀ (clock : Micros) (state : State), Run turn (initial clock) state →
    Truthful state.tables := by
  intro truthful
  have reached : ((turns turn (initial 0) releasing).any fun state =>
      decide (refusal state.tables "p" = some (3, some 5))) = true := by
    decide +kernel
  obtain ⟨state, ran, refused⟩ := (Option.any_eq_true _ _).mp reached
  obtain ⟨held, is, less⟩ :=
    refusal_short (truthful 0 state (run_turns .refl _ ran)) (of_decide_eq_true refused)
  cases is
  omega

theorem five_of_four : ∃ state : State, refusal state.tables "o" = some (5, some 4) ∧
    Truthful state.tables := by
  have reached : ((turns candidTurn (initial 0) refusing).any fun state =>
      decide (refusal state.tables "o" = some (5, some 4))) = true := by
    decide +kernel
  obtain ⟨state, ran, refused⟩ := (Option.any_eq_true _ _).mp reached
  exact ⟨state, of_decide_eq_true refused,
    (refusals_truthful 0).1 state (run_turns .refl _ ran)⟩

end Foc.Credit.Interleaving
