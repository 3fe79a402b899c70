import Foc.Credit.Types
import Foc.Library.Double
import Foc.Order.Cursor
import Mathlib.Data.List.Sort
import Mathlib.Data.Prod.Lex

/-!
A wallet's ledger as it is read (`listLedger` of `credit.repository.ts`,
`wallets.service.ts`): one row for each transaction that touches the wallet, with the
balances after its last entry, newest first. A page is resumed from a cursor that holds
the time and the id of the last row shown. The time comes from `iso`, to the millisecond.
-/
namespace Foc.Credit
open Library Library.Calendar Library.UuidText Library.OpaqueText Library.JsonText
open Foc.Order (ApiException Dated Micros Uuid field idText uuid uuidSchema)

/-! ## Stored rows -/

structure StoredTransaction where
  transactionId : Uuid
  transactionType : TransactionType
  amount : Int
  orderId : Option OrderId
  occurredAt : Micros
  deriving DecidableEq, Repr

/-- `wallet` is the entry's wallet with the balances that resulted, null together. -/
structure StoredEntry where
  transactionId : Uuid
  entryNo : Int
  wallet : Option (UserId × Wallet)
  direction : Direction
  amount : Int
  deriving DecidableEq, Repr

/-- The tables a ledger is read from. Every id is one of `randomUUID`. -/
structure Ledger where
  wallets : List UserId
  transactions : List StoredTransaction
  entries : List StoredEntry
  identified : (transactions.map StoredTransaction.transactionId).Nodup
  versioned : ∀ transaction ∈ transactions, Versioned transaction.transactionId

inductive LedgerError where
  | refused (exception : ApiException)
  /-- PostgreSQL does not read a text as the type it is cast to. -/
  | databaseError
  /-- `toISOString` of a date out of the range of `Date`. -/
  | rangeError
  deriving DecidableEq, Repr

def walletNotFound : ApiException :=
  { status := 404, code := "WALLET_NOT_FOUND", message := "Wallet not found." }

def invalidPageSize : ApiException :=
  { status := 400, code := "INVALID_PAGE_SIZE"
    message := "Limit must be a whole number from 1 to 100." }

def invalidLedgerCursor : ApiException :=
  { status := 400, code := "INVALID_CURSOR", message := "The ledger cursor is invalid." }

/-! ## The rows of a wallet -/

def signedAmount (entry : StoredEntry) : Int :=
  match entry.direction with
  | .credit => entry.amount
  | .debit => -entry.amount

/-- The entries of a transaction on a wallet, with the balances, the last entry first. -/
def walletEntries (ledger : Ledger) (userId : UserId) (transactionId : Uuid) :
    List (StoredEntry × Wallet) :=
  (ledger.entries.filterMap fun entry =>
    match entry.wallet with
    | some (owner, balances) =>
        if entry.transactionId = transactionId ∧ owner = userId then some (entry, balances) else none
    | none => none).insertionSort fun first second => second.1.entryNo ≤ first.1.entryNo

structure ActivityRow where
  transactionId : Uuid
  transactionType : TransactionType
  amount : Int
  orderId : Option OrderId
  occurredAt : Micros
  resulting : Wallet
  totalChange : Int
  deriving DecidableEq, Repr

/-- What `DISTINCT ON (t.transaction_id)` keeps of a transaction, and the sum over it. -/
def activityRow (ledger : Ledger) (userId : UserId) (transaction : StoredTransaction) :
    Option ActivityRow :=
  let entries := walletEntries ledger userId transaction.transactionId
  entries.head?.map fun last =>
    { transactionId := transaction.transactionId
      transactionType := transaction.transactionType
      amount := transaction.amount
      orderId := transaction.orderId
      occurredAt := transaction.occurredAt
      resulting := last.2
      totalChange := (entries.map fun entry => signedAmount entry.1).sum }

def activity (ledger : Ledger) (userId : UserId) : List ActivityRow :=
  ledger.transactions.filterMap (activityRow ledger userId)

/-- What the rows are sorted by. -/
def ActivityRow.position (row : ActivityRow) : Micros ×ₗ Uuid :=
  toLex (row.occurredAt, row.transactionId)

/-! ## Items -/

/-- The times `Date` has: so many days on either side of 1970. -/
def inDateRange (time : Micros) : Bool :=
  decide (-8640000000000000 ≤ time / 1000) && decide (time / 1000 ≤ 8640000000000000)

/-- A stored time as the driver's `Date` shows it. -/
def iso (time : Micros) : String := String.ofList (isoMillis (ofMicros time))

structure LedgerItem where
  transactionId : Uuid
  type : TransactionType
  amount : Int
  orderId : Option OrderId
  occurredAt : String
  resultingAvailable : Int
  resultingReserved : Int
  resultingTotal : Int
  totalChange : Int
  deriving DecidableEq, Repr

def ledgerItem (row : ActivityRow) : LedgerItem :=
  { transactionId := row.transactionId
    type := row.transactionType
    amount := row.amount
    orderId := row.orderId
    occurredAt := iso row.occurredAt
    resultingAvailable := row.resulting.available
    resultingReserved := row.resulting.reserved
    resultingTotal := row.resulting.available + row.resulting.reserved
    totalChange := row.totalChange }

/-! ## Cursors -/

structure LedgerCursor where
  occurredAt : String
  transactionId : String
  deriving DecidableEq, Repr

def encodeLedgerCursor (cursor : LedgerCursor) : String :=
  encode [("occurredAt", cursor.occurredAt), ("transactionId", cursor.transactionId)]

/-- Members the schema does not name are passed over. -/
def cursorSchema : Parsed → Option LedgerCursor
  | .object members => do
      let occurredAt ← field members "occurredAt" fun text => (scanMoment text.toList).isSome
      let transactionId ← field members "transactionId" uuidSchema
      return { occurredAt, transactionId }
  | _ => none

def decodeLedgerCursor : Option String → Except LedgerError (Option LedgerCursor)
  | none => .ok none
  | some value =>
      if value = "" then .ok none
      else
        match (decode value).bind cursorSchema with
        | some cursor => .ok (some cursor)
        | none => .error (.refused invalidLedgerCursor)

/-- What PostgreSQL reads in a text it casts to `timestamptz`: it has no year 0000. -/
def timestamptz (text : String) : Option Micros :=
  (scanMoment text.toList).bind fun moment =>
    if moment.day.year = 0 then none else some (toMicros moment)

def LedgerCursor.position (cursor : LedgerCursor) : Option (Micros ×ₗ Uuid) := do
  let occurredAt ← timestamptz cursor.occurredAt
  let transactionId ← uuid cursor.transactionId
  return toLex (occurredAt, transactionId)

def castCursor : Option LedgerCursor → Except LedgerError (Option (Micros ×ₗ Uuid))
  | none => .ok none
  | some cursor =>
      match cursor.position with
      | some position => .ok (some position)
      | none => .error .databaseError

/-! ## Pages -/

/-- A limit that `parseLimit` gives. -/
def Limit : Type := { limit : Nat // 1 ≤ limit ∧ limit ≤ 100 }

/-- The number that `z.coerce` makes of the query's text, where there is one. -/
def parseLimit : Option Double → Except LedgerError Limit
  | none => .ok ⟨20, by decide⟩
  | some number =>
      match number.whole with
      | some whole =>
          if fits : 1 ≤ whole.toNat ∧ whole.toNat ≤ 100 then .ok ⟨whole.toNat, fits⟩
          else .error (.refused invalidPageSize)
      | none => .error (.refused invalidPageSize)

/-- The rows past a position, newest first. -/
def selectLedger (ledger : Ledger) (userId : UserId) (after : Option (Micros ×ₗ Uuid)) :
    List ActivityRow :=
  ((activity ledger userId).filter fun row =>
    after.all fun last => decide (row.position < last)).insertionSort fun first second =>
      second.position ≤ first.position

def listLedger (ledger : Ledger) (userId : UserId) (limit : Nat) (cursor : Option LedgerCursor) :
    Except LedgerError (List LedgerItem × Bool) := do
  let after ← castCursor cursor
  let found := (selectLedger ledger userId after).take (limit + 1)
  let rows := found.take limit
  -- `iso` is for the rows shown only.
  if rows.all fun row => inDateRange row.occurredAt then
    .ok (rows.map ledgerItem, decide (limit < found.length))
  else .error .rangeError

/-- `WalletsService.ledger`: the page's items and the next page's cursor. -/
def ledgerPage (userId : UserId) (limitValue : Option Double) (ledger : Ledger)
    (cursorValue : Option String) : Except LedgerError (List LedgerItem × Option String) := do
  if userId ∉ ledger.wallets then .error (.refused walletNotFound)
  else
    let limit ← parseLimit limitValue
    let cursor ← decodeLedgerCursor cursorValue
    let (items, hasMore) ← listLedger ledger userId limit.val cursor
    let next := if hasMore then items.getLast? else none
    .ok (items, next.map fun last =>
      encodeLedgerCursor { occurredAt := last.occurredAt, transactionId := idText last.transactionId })

end Foc.Credit
