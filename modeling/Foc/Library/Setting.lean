import Mathlib

/-! Requests dealt with one at a time, in the order they were made: some set a value that others,
later, start something under. Who makes a request waits for its answer before making another, so
the requests of several are mixed. -/
namespace Foc.Library.Setting

inductive Request (Item Value : Type) where
  | set (item : Item) (value : Value)
  | start (item : Item)
  deriving DecidableEq, Repr

namespace Request

variable {Item Value : Type}

def item : Request Item Value → Item
  | .set item _ => item
  | .start item => item

/-- The value in force once the requests are dealt with. -/
def latest (value : Value) : List (Request Item Value) → Value
  | [] => value
  | .set _ next :: rest => latest next rest
  | .start _ :: rest => latest value rest

/-- What the requests start, each under the value in force by then. -/
def started (value : Value) : List (Request Item Value) → List (Item × Value)
  | [] => []
  | .set _ next :: rest => started next rest
  | .start item :: rest => (item, value) :: started value rest

variable {value : Value} {queue more : List (Request Item Value)} {item : Item}

theorem latest_append : latest value (queue ++ more) = latest (latest value queue) more := by
  induction queue generalizing value with
  | nil => rfl
  | cons request rest ih =>
      cases request with
      | set item next => exact ih
      | start item => exact ih

theorem started_append :
    started value (queue ++ more) = started value queue ++ started (latest value queue) more := by
  induction queue generalizing value with
  | nil => rfl
  | cons request rest ih =>
      cases request with
      | set item next => exact ih
      | start item => exact congrArg ((item, value) :: ·) ih

/-- Asking for a value starts nothing. -/
theorem started_set (next : Value) :
    started value (queue ++ [.set item next]) = started value queue := by
  rw [started_append]
  exact List.append_nil _

/-- A start that is asked for comes under the last value asked for before it. -/
theorem started_start :
    started value (queue ++ [.start item]) = started value queue ++ [(item, latest value queue)] :=
  started_append

/-- Whatever is started was asked for. -/
theorem started_asked {pair : Item × Value} (starts : pair ∈ started value queue) :
    ∃ request ∈ queue, request.item = pair.1 := by
  induction queue generalizing value with
  | nil => cases starts
  | cons request rest ih =>
      cases request with
      | set item next =>
          obtain ⟨asked, later, same⟩ := ih starts
          exact ⟨asked, .tail _ later, same⟩
      | start item =>
          rcases List.mem_cons.mp starts with rfl | after
          · exact ⟨.start item, .head _, rfl⟩
          · obtain ⟨asked, later, same⟩ := ih after
            exact ⟨asked, .tail _ later, same⟩

end Request

end Foc.Library.Setting
