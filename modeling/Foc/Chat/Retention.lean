import Mathlib
import Foc.Library.EventLoop
import Foc.Library.Keyset
import Foc.Library.WorkPool
import Foc.Chat.Sending

/-!
One sweep of the retention cleanup (`chat/retention.ts`): a page of the channels opened before
the cutoff is read, a few workers ask the Order Service about each of them and delete those past
retention, and the next page is read once all were tried. Channels are opened and deleted by
others in between. A UUID is compared as its number, as the database does.
-/
namespace Foc.Chat.Retention
open Library Library.EventLoop Library.WorkPool
open Sending (OrderForChat pastRetention dayMs)

/-- How many UUIDs there are. -/
def uuids : Nat := 2 ^ 128

structure OrderId where
  number : Nat
  bounded : number < uuids
  deriving DecidableEq, Repr

theorem number_injective : Function.Injective OrderId.number := by
  rintro ⟨first, _⟩ ⟨second, _⟩ same
  cases same
  rfl

instance : LinearOrder OrderId := LinearOrder.lift' OrderId.number number_injective

structure Channel where
  orderId : OrderId
  createdAt : Int
  deriving DecidableEq, Repr

/-- The table of channels, one for an errand. -/
structure Channels where
  rows : List Channel
  once : (rows.map (·.orderId)).Nodup

namespace Channels

def opened (channels : Channels) (channel : Channel) : Channels :=
  if new : channel.orderId ∈ channels.rows.map (·.orderId) then channels
  else
    { rows := channels.rows ++ [channel]
      once := by
        rw [List.map_append, List.nodup_append]
        refine ⟨channels.once, List.nodup_singleton _, ?_⟩
        rintro orderId before last member rfl
        rw [List.map_singleton, List.mem_singleton] at member
        exact new (member ▸ before) }

def deleteChannel (channels : Channels) (orderId : OrderId) : Channels where
  rows := channels.rows.filter (·.orderId ≠ orderId)
  once := channels.once.sublist (List.filter_sublist.map _)

/-- A page of the channels opened before `cutoff`, after the errand ID `after`. -/
def channelsOpenedBefore (channels : Channels) (cutoff : Int) (limit : Nat)
    (after : Option OrderId) : List OrderId :=
  ((Keyset.past Channel.orderId after
    (channels.rows.filter fun channel => channel.createdAt < cutoff)).take limit).map (·.orderId)

end Channels

/-- The sizes are at least 1 where they are given; the constructor refuses others. -/
structure RetentionOptions where
  retentionDays : Nat
  batchSize : Option Nat
  concurrency : Option Nat
  batches : ∀ size, batchSize = some size → 1 ≤ size
  workers : ∀ size, concurrency = some size → 1 ≤ size

def RetentionOptions.batch (options : RetentionOptions) : Nat := options.batchSize.getD 100

def RetentionOptions.limit (options : RetentionOptions) : Nat := options.concurrency.getD 5

structure CleanupResult where
  deleted : Nat
  kept : Nat
  skipped : Nat
  unknown : Nat
  deriving DecidableEq, Repr

def noResult : CleanupResult := ⟨0, 0, 0, 0⟩

def CleanupResult.total (result : CleanupResult) : Nat :=
  result.deleted + result.kept + result.skipped + result.unknown

/-- What a worker waits for: the Order Service, or the delete. -/
inductive Stage where
  | asking | deleting
  deriving DecidableEq, Repr

/-- How the Order Service answers about an errand. -/
inductive Answer where
  | failed
  | unknown
  | found (order : OrderForChat)
  deriving DecidableEq, Repr

inductive Phase where
  | reading
  | settling (page : List OrderId) (pool : Pool OrderId Stage) (failures : List OrderId)
  | returned
  | threw

structure Sweep where
  channels : Channels
  phase : Phase
  after : Option OrderId
  result : CleanupResult
  /-- Every channel of the pages read, in their order. -/
  pages : List OrderId
  /-- Every delete that was sent. -/
  deletes : List OrderId
  settled : List OrderId
  failed : List OrderId

namespace Sweep

def start (channels : Channels) : Sweep where
  channels := channels
  phase := .reading
  after := none
  result := noResult
  pages := []
  deletes := []
  settled := []
  failed := []

section Steps

variable (options : RetentionOptions) (now : Int)

/-- Every channel of the page was tried: the first failure is thrown, a short page is the last. -/
def endPage (sweep : Sweep) (page failures : List OrderId) : Sweep :=
  if failures ≠ [] then { sweep with phase := .threw }
  else if page.length < options.batch then { sweep with phase := .returned }
  else { sweep with phase := .reading, after := page.getLast? }

/-- The workers go on, or were the last. -/
def carry (sweep : Sweep) (page : List OrderId) (pool : Pool OrderId Stage)
    (failures : List OrderId) : Sweep :=
  if pool.busy = [] then sweep.endPage options page failures
  else { sweep with phase := .settling page pool failures }

def cutoff : Int := now - options.retentionDays * dayMs

/-- A page is there: `eachAtMost` takes it. -/
def paged (sweep : Sweep) : Sweep :=
  let page := sweep.channels.channelsOpenedBefore (cutoff options now) options.batch sweep.after
  carry options { sweep with pages := sweep.pages ++ page } page
    (Pool.start options.limit page .asking) []

/-- `settle` counted the channel, and its worker goes on. -/
def settles (sweep : Sweep) (page : List OrderId) (pool : Pool OrderId Stage)
    (failures : List OrderId) (orderId : OrderId) (result : CleanupResult) : Sweep :=
  carry options { sweep with result, settled := sweep.settled ++ [orderId] } page
    (pool.finish orderId .asking) failures

/-- `settle` once the Order Service has answered, or has not. -/
def answered (sweep : Sweep) (page : List OrderId) (pool : Pool OrderId Stage)
    (failures : List OrderId) (orderId : OrderId) : Answer → Sweep
  | .failed => settles options sweep page pool failures orderId
      { sweep.result with skipped := sweep.result.skipped + 1 }
  | .unknown => settles options sweep page pool failures orderId
      { sweep.result with unknown := sweep.result.unknown + 1 }
  | .found order =>
      if pastRetention order options.retentionDays now then
        { sweep with
          deletes := sweep.deletes ++ [orderId]
          phase := .settling page (pool.moves orderId .deleting) failures }
      else settles options sweep page pool failures orderId
        { sweep.result with kept := sweep.result.kept + 1 }

def deleted (sweep : Sweep) (page : List OrderId) (pool : Pool OrderId Stage)
    (failures : List OrderId) (orderId : OrderId) : Sweep :=
  settles options { sweep with channels := sweep.channels.deleteChannel orderId } page pool failures
    orderId { sweep.result with deleted := sweep.result.deleted + 1 }

/-- The delete threw; the database may have done it nevertheless. -/
def deleteFailed (sweep : Sweep) (page : List OrderId) (pool : Pool OrderId Stage)
    (failures : List OrderId) (orderId : OrderId) (removed : Bool) : Sweep :=
  carry options { sweep with
    channels := if removed then sweep.channels.deleteChannel orderId else sweep.channels
    failed := sweep.failed ++ [orderId] } page (pool.finish orderId .asking)
    (failures ++ [orderId])

end Steps

def ended (sweep : Sweep) : Bool :=
  match sweep.phase with
  | .returned => true
  | .threw => true
  | _ => false

def busy (sweep : Sweep) : List (OrderId × Stage) :=
  match sweep.phase with
  | .settling _ pool _ => pool.busy
  | _ => []

end Sweep

inductive Event where
  | page
  | pageFailed
  | answered (orderId : OrderId) (given : Answer)
  | deleted (orderId : OrderId)
  | deleteFailed (orderId : OrderId) (removed : Bool)
  | opened (channel : Channel)
  | removed (orderId : OrderId)
  deriving DecidableEq

/-- Whether an event is an answer the sweep waits for, and not what others do meanwhile. -/
def Event.awaited : Event → Bool
  | .opened _ => false
  | .removed _ => false
  | _ => true

/-- One event: something the sweep waits for comes, or others change the table. -/
def turn (options : RetentionOptions) (now : Int) (sweep : Sweep) (event : Event) : Option Sweep :=
  match event, sweep.phase with
  | .page, .reading => some (sweep.paged options now)
  | .pageFailed, .reading => some { sweep with phase := .threw }
  | .answered orderId given, .settling page pool failures =>
      if (orderId, .asking) ∈ pool.busy then
        some (sweep.answered options now page pool failures orderId given)
      else none
  | .deleted orderId, .settling page pool failures =>
      if (orderId, .deleting) ∈ pool.busy then
        some (sweep.deleted options page pool failures orderId)
      else none
  | .deleteFailed orderId removed, .settling page pool failures =>
      if (orderId, .deleting) ∈ pool.busy then
        some (sweep.deleteFailed options page pool failures orderId removed)
      else none
  | .opened channel, _ => some { sweep with channels := sweep.channels.opened channel }
  | .removed orderId, _ => some { sweep with channels := sweep.channels.deleteChannel orderId }
  | _, _ => none

end Foc.Chat.Retention
