import Foc.Library.EventLoop

/-!
The session of one browser tab (`web-app/src/lib/session.ts`): refreshing once at a
time, signing in and out, the pending sign-out other tabs share, and calls retried
with a fresh token. Each stretch of code between two awaits is one event. A lock
runs its callback at most once and settles as it does, or refuses without running
it. Callbacks into the page are recorded; they come last in their stretch.
-/
namespace Foc.Web
open Library.EventLoop

abbrev Token := String
abbrev UserId := String

/-- What a call throws: an `ApiError`, or anything else. -/
inductive Failure where
  | api (status : Nat) (code : String)
  | other
  deriving DecidableEq, Repr

def asApiError : Failure → Failure
  | .api status code => .api status code
  | .other => .api 0 "NETWORK"

structure Current where
  token : Token
  userId : UserId
  deriving DecidableEq, Repr

inductive RefreshResult where
  | ok (found : Current)
  | ended
  | unavailable (error : Failure)
  deriving DecidableEq, Repr

inductive EndReason where
  | loggedOut | noSession
  deriving DecidableEq, Repr

/-- Where a refresh stands, from the lock to the settled promise its callers share. -/
inductive Stage where
  | queued
  | revoking (call : Nat)
  | asking (call : Nat)
  | resolved (result : RefreshResult)
  | applied (result : RefreshResult)
  | done (result : RefreshResult)
  deriving DecidableEq, Repr

/-- One run of `refresh`: the epoch it started in. -/
structure Refresh where
  started : Nat
  stage : Stage
  deriving DecidableEq, Repr

/-- What calls `revoke`. -/
inductive Revoker where
  | rotate (refresh : Nat)
  | logout (logout : Nat)
  | retryLogout
  deriving DecidableEq, Repr

/-- The calls to the service. -/
inductive Ask where
  | refresh (refresh : Nat)
  | logout (revoker : Revoker)
  deriving DecidableEq, Repr

inductive Reply where
  | refreshed (found : Current)
  | revoked
  | failed (error : Failure)
  deriving DecidableEq, Repr

inductive LogoutStage where
  | revoking
  | tried (revoked : Bool)
  | done (revoked : Bool)
  deriving DecidableEq, Repr

/-- Where a call of `authed` stands: its token and the account it was for. -/
inductive AuthedStage where
  | awaitsToken (refresh : Nat)
  | calls (used : Token) (owner : Option UserId)
  | awaitsRetry (owner : Option UserId) (refresh : Nat)
  | retries (used : Token)
  | returned
  | threw (error : Failure)
  deriving DecidableEq, Repr

/-- What the page and the other tabs were told. -/
inductive Said where
  | onEnded (reason : EndReason)
  | onUserChanged (token : Token)
  | posted (channel : Nat)
  deriving DecidableEq, Repr

structure Tab where
  current : Option Current
  inflight : Option Nat
  channel : Option Nat
  listening : List Nat
  epoch : Nat
  logoutPending : Bool
  refreshes : List Refresh
  logouts : List LogoutStage
  authed : List AuthedStage
  calls : Calls Ask Reply
  said : List Said

namespace Tab

def initial (logoutPending : Bool) : Tab where
  current := none
  inflight := none
  channel := none
  listening := []
  epoch := 0
  logoutPending := logoutPending
  refreshes := []
  logouts := []
  authed := []
  calls := []
  said := []

def say (tab : Tab) (said : Said) : Tab := { tab with said := tab.said ++ [said] }

/-- `end`. -/
def endSession (tab : Tab) (reason : EndReason) : Tab :=
  { tab with current := none, epoch := tab.epoch + 1 }.say (.onEnded reason)

def setStage (tab : Tab) (refresh : Nat) (stage : Stage) : Tab :=
  { tab with refreshes := tab.refreshes.modify refresh fun run => { run with stage } }

def setAuthed (tab : Tab) (call : Nat) (stage : AuthedStage) : Tab :=
  { tab with authed := tab.authed.set call stage }

/-- `rotate` up to its await: a sign-out that never reached the service comes first. -/
def rotate (tab : Tab) (refresh : Nat) : Tab :=
  if tab.logoutPending then
    { tab.setStage refresh (.revoking tab.calls.length) with
      calls := ask tab.calls (.logout (.rotate refresh)) }
  else
    { tab.setStage refresh (.asking tab.calls.length) with
      calls := ask tab.calls (.refresh refresh) }

/-- A refresh in flight, from now until its promise settles. -/
def begun (tab : Tab) : Tab :=
  { tab with
    refreshes := tab.refreshes ++ [⟨tab.epoch, .queued⟩]
    inflight := some tab.refreshes.length }

/-- `refresh`, and the run whose promise it returns. Without locks the run starts at once. -/
def refresh (locks : Bool) (tab : Tab) : Tab × Nat :=
  match tab.inflight with
  | some running => (tab, running)
  | none =>
      if locks then (tab.begun, tab.refreshes.length)
      else (tab.begun.rotate tab.refreshes.length, tab.refreshes.length)

/-- What `rotate` makes of a failed `api.refresh`. -/
def refused (error : Failure) : RefreshResult :=
  match error with
  | .api 401 _ => .ended
  | .api 403 _ => .ended
  | _ => .unavailable (asApiError error)

/-- The first `.then`: the result counts only in the epoch the refresh started in. -/
def apply (tab : Tab) (refresh : Nat) (started : Nat) (result : RefreshResult) : Tab :=
  if tab.epoch ≠ started then
    tab.setStage refresh (.applied
      (match tab.current with
        | some current => .ok current
        | none => .ended))
  else
    match result with
    | .ok found =>
        let signed := { tab.setStage refresh (.applied result) with current := some found }
        match tab.current with
        | some previous =>
            if previous.userId ≠ "" ∧ previous.userId ≠ found.userId then
              signed.say (.onUserChanged found.token)
            else signed
        | none => signed
    | .ended => (tab.setStage refresh (.applied result)).endSession .noSession
    | .unavailable _ => tab.setStage refresh (.applied result)

/-- `logout` up to its await. -/
def logout (tab : Tab) : Tab :=
  { tab with
    logoutPending := true
    logouts := tab.logouts ++ [.revoking]
    calls := ask tab.calls (.logout (.logout tab.logouts.length)) }

/-- `revoke` returns to what called it. -/
def revoked (tab : Tab) (revoker : Revoker) (success : Bool) : Tab :=
  match revoker with
  | .rotate refresh => tab.setStage refresh (.resolved .ended)
  | .logout logout => { tab with logouts := tab.logouts.set logout (.tried success) }
  | .retryLogout => tab

/-- The rest of `logout`. -/
def leave (tab : Tab) (logout : Nat) (success : Bool) : Tab :=
  let ended := { tab with logouts := tab.logouts.set logout (.done success) }.endSession .loggedOut
  match ended.channel with
  | some channel => ended.say (.posted channel)
  | none => ended

def signedIn (tab : Tab) (token : Token) (userId : UserId) : Tab :=
  { tab with current := some ⟨token, userId⟩, epoch := tab.epoch + 1, logoutPending := false }

def retryLogout (tab : Tab) : Tab :=
  if tab.logoutPending then { tab with calls := ask tab.calls (.logout .retryLogout) } else tab

def connect (tab : Tab) (channel : Nat) : Tab :=
  { tab with channel := some channel, listening := channel :: tab.listening }

def disconnect (tab : Tab) (channel : Nat) : Tab :=
  { tab with
    listening := tab.listening.filter (· ≠ channel)
    channel := if tab.channel = some channel then none else tab.channel }

def message (tab : Tab) (text : String) : Tab :=
  if text = "logout" then tab.endSession .loggedOut else tab

/-- The answer of the service goes to what awaits it; `none` is an answer to another call. -/
def answered (tab : Tab) (call : Nat) (asked : Ask) (reply : Reply) : Option Tab :=
  let known := { tab with calls := answer tab.calls call reply }
  match asked, reply with
  | .refresh refresh, .refreshed found => some (known.setStage refresh (.resolved (.ok found)))
  | .refresh refresh, .failed error => some (known.setStage refresh (.resolved (refused error)))
  | .logout revoker, .revoked => some ({ known with logoutPending := false }.revoked revoker true)
  | .logout revoker, .failed _ => some (known.revoked revoker false)
  | _, _ => none

/-! ### Calls with a token -/

def notAboutTheToken : List String := ["STEP_UP_REQUIRED", "INVALID_CREDENTIALS"]

/-- `fresh`, once the refresh it awaits has settled. -/
def fresh : RefreshResult → Except Failure Token
  | .ok found => .ok found.token
  | .unavailable error => .error error
  | .ended => .error (.api 401 "UNAUTHENTICATED")

def begin (locks : Bool) (tab : Tab) : Tab :=
  match tab.current with
  | some current => { tab with authed := tab.authed ++ [.calls current.token (some current.userId)] }
  | none =>
      let (asked, refresh) := tab.refresh locks
      { asked with authed := asked.authed ++ [.awaitsToken refresh] }

/-- Never replay a call as someone else. -/
def replay (tab : Tab) (call : Nat) (owner : Option UserId) (token : Token) : Tab :=
  match owner with
  | some owner =>
      if owner ≠ "" ∧ tab.current.map (·.userId) ≠ some owner then
        tab.setAuthed call (.threw (.api 409 "SESSION_CHANGED"))
      else tab.setAuthed call (.retries token)
  | none => tab.setAuthed call (.retries token)

/-- What a failed first call does: it is retried with a newer token, or a fresh one. -/
def retry (locks : Bool) (tab : Tab) (call : Nat) (used : Token) (owner : Option UserId) : Tab :=
  match tab.current with
  | some current =>
      if current.token ≠ "" ∧ current.token ≠ used then tab.replay call owner current.token
      else
        let (asked, refresh) := tab.refresh locks
        asked.setAuthed call (.awaitsRetry owner refresh)
  | none =>
      let (asked, refresh) := tab.refresh locks
      asked.setAuthed call (.awaitsRetry owner refresh)

/-- The function `authed` was given answers. -/
def ran (locks : Bool) (tab : Tab) (call : Nat) (result : Except Failure Unit) : Option Tab :=
  match tab.authed[call]?, result with
  | some (.calls _ _), .ok _ => some (tab.setAuthed call .returned)
  | some (.calls used owner), .error error =>
      match error with
      | .api 401 code =>
          if code ∈ notAboutTheToken then some (tab.setAuthed call (.threw error))
          else some (tab.retry locks call used owner)
      | _ => some (tab.setAuthed call (.threw error))
  | some (.retries _), .ok _ => some (tab.setAuthed call .returned)
  | some (.retries _), .error error => some (tab.setAuthed call (.threw error))
  | _, _ => none

/-- The refresh an `authed` call awaits has settled. -/
def refreshed (tab : Tab) (call : Nat) : Option Tab :=
  match tab.authed[call]? with
  | some (.awaitsToken refresh) =>
      match tab.refreshes[refresh]? with
      | some ⟨_, .done result⟩ =>
          match fresh result with
          | .ok token => some (tab.setAuthed call (.calls token (tab.current.map (·.userId))))
          | .error error => some (tab.setAuthed call (.threw error))
      | _ => none
  | some (.awaitsRetry owner refresh) =>
      match tab.refreshes[refresh]? with
      | some ⟨_, .done result⟩ =>
          match fresh result with
          | .ok token => some (tab.replay call owner token)
          | .error error => some (tab.setAuthed call (.threw error))
      | _ => none
  | _ => none

end Tab

inductive Event where
  | refresh
  | lockGranted (refresh : Nat)
  | lockRefused (refresh : Nat) (error : Failure)
  | answered (call : Nat) (reply : Reply)
  | applies (refresh : Nat)
  | settles (refresh : Nat)
  | signedIn (token : Token) (userId : UserId)
  | logout
  | leaves (logout : Nat)
  | retryLogout
  | connect (channel : Nat)
  | disconnect (channel : Nat)
  | message (channel : Nat) (text : String)
  | otherTab (logoutPending : Bool)
  | authed
  | refreshed (call : Nat)
  | ran (call : Nat) (result : Except Failure Unit)

/-- One event in the tab. -/
def turn (locks : Bool) (tab : Tab) : Event → Option Tab
  | .refresh => some (tab.refresh locks).1
  | .lockGranted refresh =>
      match tab.refreshes[refresh]? with
      | some ⟨_, .queued⟩ => some (tab.rotate refresh)
      | _ => none
  | .lockRefused refresh error =>
      match tab.refreshes[refresh]? with
      | some ⟨_, .queued⟩ => some (tab.setStage refresh (.resolved (.unavailable (asApiError error))))
      | _ => none
  | .answered call reply =>
      (waiting tab.calls call).bind fun asked => tab.answered call asked reply
  | .applies refresh =>
      match tab.refreshes[refresh]? with
      | some ⟨started, .resolved result⟩ => some (tab.apply refresh started result)
      | _ => none
  | .settles refresh =>
      match tab.refreshes[refresh]? with
      | some ⟨_, .applied result⟩ =>
          some { tab.setStage refresh (.done result) with inflight := none }
      | _ => none
  | .signedIn token userId => some (tab.signedIn token userId)
  | .logout => some tab.logout
  | .leaves logout =>
      match tab.logouts[logout]? with
      | some (.tried success) => some (tab.leave logout success)
      | _ => none
  | .retryLogout => some tab.retryLogout
  | .connect channel => some (tab.connect channel)
  | .disconnect channel => some (tab.disconnect channel)
  | .message channel text => if channel ∈ tab.listening then some (tab.message text) else none
  | .otherTab logoutPending => some { tab with logoutPending }
  | .authed => some (tab.begin locks)
  | .refreshed call => tab.refreshed call
  | .ran call result => tab.ran locks call result

end Foc.Web
