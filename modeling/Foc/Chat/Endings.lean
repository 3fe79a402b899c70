import Foc.Chat.SocketHub

/-! The sets and the timers of the hub: which sockets are listed for a user, whose task
a timer's handle is for, and what ending sockets changes of both. -/
namespace Foc.Chat
open Library.EventLoop

/-! ## What the helpers leave alone -/
namespace Hub

variable {hub : Hub} {socket other : SocketId} {state : SocketState} {handle : TimerId}

@[simp] theorem stateOf_setTimeout (delay : Nat) (task : Task) :
    (hub.setTimeout delay task).stateOf socket = hub.stateOf socket := rfl

@[simp] theorem stateOf_clearTimeout : (hub.clearTimeout handle).stateOf socket = hub.stateOf socket :=
  rfl

@[simp] theorem stateOf_tell (sent : Sent) :
    (hub.tell other sent).stateOf socket = hub.stateOf socket := rfl

@[simp] theorem stateOf_unlist (userId : UserId) :
    (hub.unlist userId other).stateOf socket = hub.stateOf socket := rfl

theorem stateOf_setState : (hub.setState other state).stateOf socket =
    if other = socket then (hub.stateOf socket).map fun _ => state else hub.stateOf socket := by
  unfold stateOf setState
  rw [List.getElem?_modify]
  split
  · cases hub.objects[socket]? <;> rfl
  · cases hub.objects[socket]? <;> rfl

@[simp] theorem stateOf_setAlive (alive : Bool) :
    (hub.setAlive other alive).stateOf socket = hub.stateOf socket := by
  unfold stateOf setAlive
  rw [List.getElem?_modify]
  split
  · cases hub.objects[socket]? <;> rfl
  · cases hub.objects[socket]? <;> rfl

@[simp] theorem stateOf_release :
    (hub.release other state).stateOf socket = hub.stateOf socket := by
  cases state with
  | openFor _ _ _ expiryTimer => cases expiryTimer <;> rfl
  | _ => rfl

@[simp] theorem stateOf_stopHeart : hub.stopHeart.stateOf socket = hub.stateOf socket := by
  unfold stopHeart
  split <;> rfl

end Hub

/-! ## Timers -/

/-- A handle that was given out for a task, whether its timer is still set or not. -/
structure Held (hub : Hub) (handle : TimerId) (task : Task) : Prop where
  old : handle < hub.handles
  only : ∀ timer, hub.timers handle = some timer → timer.task = task

/-- The handles a socket's state names are the socket's own. -/
def HeldBy (hub : Hub) (socket : SocketId) : SocketState → Prop
  | .awaitingAuth authTimer => Held hub authTimer (.authTimeout socket)
  | .authenticating authTimer => Held hub authTimer (.authTimeout socket)
  | .openFor _ _ recheckTimer expiryTimer =>
      Held hub recheckTimer (.recheck socket) ∧
        ∀ handle, expiryTimer = some handle → Held hub handle (.expiry socket)
  | .closed => True

/-- The sockets listed for a user are the open ones, and every handle has one owner. -/
structure Timed (hub : Hub) : Prop where
  listed : ∀ userId socket, socket ∈ hub.byUser userId ↔
    ∃ token recheckTimer expiryTimer,
      hub.stateOf socket = some (.openFor userId token recheckTimer expiryTimer)
  held : ∀ socket state, hub.stateOf socket = some state → HeldBy hub socket state
  beating : ∀ handle, hub.heartbeat = some handle → Held hub handle .beat
  fresh : ∀ handle, hub.handles ≤ handle → hub.timers handle = none

/-- Timers that were set before are cleared or set again for the same task. -/
structure Rearms (hub after : Hub) : Prop where
  handles : hub.handles ≤ after.handles
  same : ∀ handle timer, handle < hub.handles → after.timers handle = some timer →
    ∃ armed, hub.timers handle = some armed ∧ armed.task = timer.task
  fresh : ∀ handle, after.handles ≤ handle → after.timers handle = none

section Timers

variable {hub after : Hub} {socket : SocketId} {handle : TimerId} {task : Task}
  {state : SocketState}

theorem Held.rearmed (held : Held hub handle task) (rearms : Rearms hub after) :
    Held after handle task where
  old := Nat.lt_of_lt_of_le held.old rearms.handles
  only timer found := by
    obtain ⟨armed, before, same⟩ := rearms.same handle timer held.old found
    rw [← same]
    exact held.only armed before

theorem HeldBy.rearmed (held : HeldBy hub socket state) (rearms : Rearms hub after) :
    HeldBy after socket state := by
  cases state with
  | awaitingAuth authTimer => exact Held.rearmed held rearms
  | authenticating authTimer => exact Held.rearmed held rearms
  | openFor userId token recheckTimer expiryTimer =>
      exact ⟨held.1.rearmed rearms, fun handle is => (held.2 handle is).rearmed rearms⟩
  | closed => trivial

/-- Handles of different tasks differ, while the timer of one of them is set. -/
theorem held_apart {mine : TimerId} {timer : Timer} {other : Task} (held : Held hub handle task)
    (found : hub.timers mine = some timer) (is : timer.task = other) (apart : other ≠ task) :
    mine ≠ handle := by
  intro same
  subst same
  exact apart (is.symm.trans (held.only timer found))

end Timers

/-! ## Ending sockets -/

/-- The handles a state names. -/
def handlesOf : SocketState → List TimerId
  | .awaitingAuth authTimer => [authTimer]
  | .authenticating authTimer => [authTimer]
  | .openFor _ _ recheckTimer expiryTimer => recheckTimer :: expiryTimer.toList
  | .closed => []

/-- After some sockets were closed and nothing else was decided. -/
structure Closes (hub after : Hub) : Prop where
  calls : after.calls = hub.calls
  states : ∀ socket, after.stateOf socket = hub.stateOf socket ∨
    hub.stateOf socket ≠ none ∧ after.stateOf socket = some .closed
  listed : ∀ userId socket, socket ∈ after.byUser userId ↔
    socket ∈ hub.byUser userId ∧ after.stateOf socket ≠ some .closed
  heartbeat : after.heartbeat = hub.heartbeat ∨ after.heartbeat = none
  rearms : Rearms hub after
  checks : ∀ socket userId token recheckTimer expiryTimer,
    after.stateOf socket = some (.openFor userId token recheckTimer expiryTimer) →
      after.timers recheckTimer = hub.timers recheckTimer

section Endings

variable {hub after last : Hub} {socket other : SocketId} {state : SocketState}
  {ending : Ending}

theorem end_closed (found : hub.stateOf socket = none ∨ hub.stateOf socket = some .closed) :
    hub.endSocket socket ending = hub := by
  unfold Hub.endSocket
  rcases found with none | closed
  · rw [none]
  · rw [closed]

/-- What ending a live socket changes. -/
structure Ends (hub : Hub) (socket : SocketId) (state : SocketState) (after : Hub) : Prop where
  calls : after.calls = hub.calls
  handles : after.handles = hub.handles
  states : ∀ other, after.stateOf other =
    if socket = other then some .closed else hub.stateOf other
  byUser : after.byUser = (hub.release socket state).byUser
  heartbeat : after.heartbeat = hub.heartbeat ∨ after.heartbeat = none
  timers : ∀ handle, after.timers handle = hub.timers handle ∨
    after.timers handle = none ∧ (handle ∈ handlesOf state ∨ hub.heartbeat = some handle)

theorem clear_timers {handle cleared : TimerId} : (hub.clearTimeout cleared).timers handle =
    if handle = cleared then none else hub.timers handle :=
  Function.update_apply hub.timers cleared none handle

theorem release_timers (handle : TimerId) :
    (hub.release socket state).timers handle = hub.timers handle ∨
      (hub.release socket state).timers handle = none ∧ handle ∈ handlesOf state := by
  cases state with
  | awaitingAuth authTimer =>
      simp only [Hub.release, clear_timers, handlesOf, List.mem_singleton]
      split
      · exact .inr ⟨rfl, ‹_›⟩
      · exact .inl rfl
  | authenticating authTimer =>
      simp only [Hub.release, clear_timers, handlesOf, List.mem_singleton]
      split
      · exact .inr ⟨rfl, ‹_›⟩
      · exact .inl rfl
  | openFor userId token recheckTimer expiryTimer =>
      cases expiryTimer with
      | none =>
          simp only [Hub.release, Hub.unlist, clear_timers, handlesOf, Option.toList,
            List.mem_singleton]
          split
          · exact .inr ⟨rfl, ‹_›⟩
          · exact .inl rfl
      | some expiryTimer =>
          simp only [Hub.release, Hub.unlist, clear_timers, handlesOf, Option.toList,
            List.mem_cons, List.not_mem_nil, or_false]
          split
          · exact .inr ⟨rfl, .inr ‹_›⟩
          · split
            · exact .inr ⟨rfl, .inl ‹_›⟩
            · exact .inl rfl
  | closed => exact .inl rfl

theorem release_same : (hub.release socket state).calls = hub.calls ∧
    (hub.release socket state).handles = hub.handles ∧
    (hub.release socket state).heartbeat = hub.heartbeat := by
  cases state with
  | openFor _ _ _ expiryTimer => cases expiryTimer <;> exact ⟨rfl, rfl, rfl⟩
  | _ => exact ⟨rfl, rfl, rfl⟩

/-- What forgetting and the farewell leave alone. -/
structure Quiets (hub after : Hub) : Prop where
  objects : after.objects = hub.objects
  byUser : after.byUser = hub.byUser
  calls : after.calls = hub.calls
  handles : after.handles = hub.handles
  heartbeat : after.heartbeat = hub.heartbeat ∨ after.heartbeat = none
  timers : ∀ handle, after.timers handle = hub.timers handle ∨
    after.timers handle = none ∧ hub.heartbeat = some handle

theorem stop_quiets : Quiets hub hub.stopHeart := by
  unfold Hub.stopHeart
  split
  · rename_i beat is
    refine ⟨rfl, rfl, rfl, rfl, .inr rfl, ?_⟩
    intro handle
    simp only [clear_timers]
    split
    · rename_i same
      exact .inr ⟨rfl, by rw [is, same]⟩
    · exact .inl rfl
  · exact ⟨rfl, rfl, rfl, rfl, .inl rfl, fun _ => .inl rfl⟩

theorem forget_quiets : Quiets hub (hub.forget socket) := by
  unfold Hub.forget
  dsimp only
  split
  · exact ⟨stop_quiets.objects, stop_quiets.byUser, stop_quiets.calls, stop_quiets.handles,
      stop_quiets.heartbeat, stop_quiets.timers⟩
  · exact ⟨rfl, rfl, rfl, rfl, .inl rfl, fun _ => .inl rfl⟩

theorem farewell_quiets (quiets : Quiets hub after) :
    Quiets hub (after.farewell socket ending) := by
  cases ending with
  | noPong => exact ⟨quiets.objects, quiets.byUser, quiets.calls, quiets.handles,
      quiets.heartbeat, quiets.timers⟩
  | clientClosed => exact ⟨quiets.objects, quiets.byUser, quiets.calls, quiets.handles,
      quiets.heartbeat, quiets.timers⟩
  | closed reason => exact ⟨quiets.objects, quiets.byUser, quiets.calls, quiets.handles,
      quiets.heartbeat, quiets.timers⟩

theorem end_ends (found : hub.stateOf socket = some state) (live : state ≠ .closed) :
    Ends hub socket state (hub.endSocket socket ending) := by
  have is : hub.endSocket socket ending =
      (((hub.setState socket .closed).release socket state).forget socket).farewell socket
        ending := by
    unfold Hub.endSocket
    rw [found]
    cases state with
    | closed => exact absurd rfl live
    | _ => rfl
  have listed : ((hub.setState socket .closed).release socket state).byUser =
      (hub.release socket state).byUser := by
    cases state with
    | openFor _ _ _ expiryTimer => cases expiryTimer <;> rfl
    | _ => rfl
  have freed := @release_same (hub.setState socket .closed) socket state
  have timers := @release_timers (hub.setState socket .closed) socket state
  have quiets : Quiets ((hub.setState socket .closed).release socket state)
      (hub.endSocket socket ending) := by
    rw [is]
    exact farewell_quiets forget_quiets
  refine ⟨quiets.calls.trans freed.1, quiets.handles.trans freed.2.1, ?_,
    quiets.byUser.trans listed, ?_, ?_⟩
  · intro other
    have same : (hub.endSocket socket ending).stateOf other =
        ((hub.setState socket .closed).release socket state).stateOf other := by
      unfold Hub.stateOf
      rw [quiets.objects]
    rw [same, Hub.stateOf_release, Hub.stateOf_setState]
    by_cases this : socket = other
    · subst this
      simp [found]
    · simp [this]
  · rw [← show ((hub.setState socket .closed).release socket state).heartbeat = hub.heartbeat
      from freed.2.2]
    exact quiets.heartbeat
  · intro handle
    have beats : ((hub.setState socket .closed).release socket state).heartbeat = hub.heartbeat :=
      freed.2.2
    rcases quiets.timers handle with same | ⟨none, beat⟩
    · rcases timers handle with kept | ⟨gone, mine⟩
      · exact .inl (same.trans kept)
      · exact .inr ⟨same.trans gone, .inl mine⟩
    · exact .inr ⟨none, .inr (beats ▸ beat)⟩

theorem Rearms.refl (timed : Timed hub) : Rearms hub hub where
  handles := Nat.le_refl _
  same _ timer _ found := ⟨timer, found, rfl⟩
  fresh := timed.fresh

theorem Rearms.trans (first : Rearms hub after) (second : Rearms after last) :
    Rearms hub last where
  handles := Nat.le_trans first.handles second.handles
  same handle timer old found := by
    obtain ⟨middle, between, same⟩ :=
      second.same handle timer (Nat.lt_of_lt_of_le old first.handles) found
    obtain ⟨armed, before, earlier⟩ := first.same handle middle old between
    exact ⟨armed, before, earlier.trans same⟩
  fresh := second.fresh

theorem Closes.refl (timed : Timed hub) : Closes hub hub where
  calls := rfl
  states _ := .inl rfl
  listed userId socket := by
    constructor
    · intro member
      obtain ⟨token, recheckTimer, expiryTimer, opened⟩ := (timed.listed userId socket).mp member
      exact ⟨member, by simp [opened]⟩
    · exact And.left
  heartbeat := .inl rfl
  rearms := Rearms.refl timed
  checks _ _ _ _ _ _ := rfl

theorem Closes.before (closes : Closes hub after) (live : state ≠ .closed)
    (found : after.stateOf socket = some state) : hub.stateOf socket = some state := by
  rcases closes.states socket with same | ⟨_, closed⟩
  · exact same.symm.trans found
  · rw [closed] at found
    exact absurd (Option.some.inj found).symm live

theorem Closes.trans (first : Closes hub after) (second : Closes after last) :
    Closes hub last where
  calls := second.calls.trans first.calls
  states socket := by
    rcases second.states socket with same | ⟨known, closed⟩
    · rw [same]
      exact first.states socket
    · refine .inr ⟨?_, closed⟩
      intro none
      rcases first.states socket with same | ⟨known', _⟩
      · exact known (same.trans none)
      · exact known' none
  listed userId socket := by
    rw [second.listed, first.listed]
    constructor
    · rintro ⟨⟨member, _⟩, open'⟩
      exact ⟨member, open'⟩
    · rintro ⟨member, open'⟩
      refine ⟨⟨member, ?_⟩, open'⟩
      intro closed
      rcases second.states socket with same | ⟨_, closed'⟩
      · exact open' (same.trans closed)
      · exact open' closed'
  heartbeat := by
    rcases second.heartbeat with same | none
    · rw [same]
      exact first.heartbeat
    · exact .inr none
  rearms := first.rearms.trans second.rearms
  checks socket userId token recheckTimer expiryTimer found := by
    rw [second.checks socket userId token recheckTimer expiryTimer found]
    apply first.checks socket userId token recheckTimer expiryTimer
    exact second.before (by simp) found

theorem Closes.timed (closes : Closes hub after) (timed : Timed hub) : Timed after where
  listed userId socket := by
    rw [closes.listed, timed.listed]
    constructor
    · rintro ⟨⟨token, recheckTimer, expiryTimer, opened⟩, live⟩
      rcases closes.states socket with same | ⟨_, closed⟩
      · exact ⟨token, recheckTimer, expiryTimer, same.trans opened⟩
      · exact absurd closed live
    · rintro ⟨token, recheckTimer, expiryTimer, opened⟩
      exact ⟨⟨token, recheckTimer, expiryTimer, closes.before (by simp) opened⟩, by simp [opened]⟩
  held socket state found := by
    cases state with
    | closed => trivial
    | _ => exact (timed.held socket _ (closes.before (by simp) found)).rearmed closes.rearms
  beating handle is := by
    rcases closes.heartbeat with same | none
    · exact (timed.beating handle (same.symm.trans is)).rearmed closes.rearms
    · rw [none] at is
      cases is
  fresh := closes.rearms.fresh

/-- The handles of a socket are for the tasks of that socket. -/
theorem own_task {handle : TimerId} {timer : Timer} (held : HeldBy hub socket state)
    (mine : handle ∈ handlesOf state) (found : hub.timers handle = some timer) :
    timer.task = .authTimeout socket ∨ timer.task = .recheck socket ∨
      timer.task = .expiry socket := by
  cases state with
  | awaitingAuth authTimer =>
      have same := List.mem_singleton.mp mine
      exact .inl (Held.only held timer (same ▸ found))
  | authenticating authTimer =>
      have same := List.mem_singleton.mp mine
      exact .inl (Held.only held timer (same ▸ found))
  | openFor userId token recheckTimer expiryTimer =>
      rcases List.mem_cons.mp mine with same | expires
      · exact .inr (.inl (held.1.only timer (same ▸ found)))
      · exact .inr (.inr ((held.2 handle (Option.mem_toList.mp expires)).only timer found))
  | closed => cases mine

theorem release_listed {userId : UserId} : other ∈ (hub.release socket state).byUser userId ↔
    other ∈ hub.byUser userId ∧
      ¬ (other = socket ∧ ∃ token recheckTimer expiryTimer,
        state = .openFor userId token recheckTimer expiryTimer) := by
  cases state with
  | openFor owner token recheckTimer expiryTimer =>
      have is : (hub.release socket (.openFor owner token recheckTimer expiryTimer)).byUser =
          Function.update hub.byUser owner ((hub.byUser owner).filter (· ≠ socket)) := by
        cases expiryTimer <;> rfl
      rw [is]
      by_cases same : userId = owner
      · subst same
        simp
      · simp [same, Ne.symm same]
  | _ => simp [Hub.release, Hub.clearTimeout]

theorem end_closes (timed : Timed hub) : Closes hub (hub.endSocket socket ending) := by
  cases found : hub.stateOf socket with
  | none =>
      rw [end_closed (.inl found)]
      exact Closes.refl timed
  | some state =>
      by_cases live : state = .closed
      · rw [end_closed (.inr (live ▸ found))]
        exact Closes.refl timed
      · have ends : Ends hub socket state (hub.endSocket socket ending) := end_ends found live
        refine ⟨ends.calls, ?_, ?_, ends.heartbeat, ?_, ?_⟩
        · intro other
          rw [ends.states]
          by_cases same : socket = other
          · subst same
            exact .inr ⟨by simp [found], by simp⟩
          · exact .inl (by simp [same])
        · intro userId other
          rw [ends.byUser, release_listed, ends.states]
          constructor
          · rintro ⟨member, kept⟩
            obtain ⟨token, recheckTimer, expiryTimer, opened⟩ :=
              (timed.listed userId other).mp member
            refine ⟨member, ?_⟩
            have apart : socket ≠ other := by
              intro same
              subst same
              rw [found] at opened
              exact kept ⟨rfl, token, recheckTimer, expiryTimer, Option.some.inj opened⟩
            simp [apart, opened]
          · rintro ⟨member, live⟩
            refine ⟨member, ?_⟩
            rintro ⟨same, _⟩
            exact live (by simp [same])
        · refine ⟨Nat.le_of_eq ends.handles.symm, ?_, ?_⟩
          · intro handle timer old armed
            rcases ends.timers handle with same | ⟨none, _⟩
            · exact ⟨timer, same.symm.trans armed, rfl⟩
            · rw [none] at armed
              cases armed
          · intro handle past
            rw [ends.handles] at past
            rcases ends.timers handle with same | ⟨none, _⟩
            · exact same.trans (timed.fresh handle past)
            · exact none
        · intro other userId token recheckTimer expiryTimer opened
          rw [ends.states] at opened
          by_cases same : socket = other
          · simp [same] at opened
          · rw [if_neg same] at opened
            have checks : Held hub recheckTimer (.recheck other) := (timed.held other _ opened).1
            rcases ends.timers recheckTimer with kept | ⟨cleared, mine⟩
            · exact kept
            · rw [cleared]
              -- What was cleared had another owner, so it was not this socket's timer.
              cases armed : hub.timers recheckTimer with
              | none => rfl
              | some timer =>
                  have task := checks.only timer armed
                  rcases mine with mine | beats
                  · have own := own_task (timed.held socket state found) mine armed
                    rw [task] at own
                    simp [Ne.symm same] at own
                  · have beat := (timed.beating recheckTimer beats).only timer armed
                    rw [task] at beat
                    cases beat

theorem end_all_closes (timed : Timed hub) (sockets : List SocketId) :
    Closes hub (hub.endAll ending sockets) := by
  induction sockets generalizing hub with
  | nil => exact Closes.refl timed
  | cons socket rest ih =>
      have first : Closes hub (hub.endSocket socket ending) := end_closes timed
      exact first.trans (ih (first.timed timed))

theorem Closes.stays (closes : Closes hub after) (closed : hub.stateOf socket = some .closed) :
    after.stateOf socket = some .closed := by
  rcases closes.states socket with same | ⟨_, closed'⟩
  · exact same.trans closed
  · exact closed'

theorem end_ended (known : hub.stateOf socket ≠ none) :
    (hub.endSocket socket ending).stateOf socket = some .closed := by
  cases found : hub.stateOf socket with
  | none => exact absurd found known
  | some state =>
      by_cases live : state = .closed
      · subst live
        rw [end_closed (.inr found)]
        exact found
      · rw [(end_ends found live).states, if_pos rfl]

theorem end_all_ended (timed : Timed hub) (sockets : List SocketId) (member : socket ∈ sockets)
    (known : hub.stateOf socket ≠ none) :
    (hub.endAll ending sockets).stateOf socket = some .closed := by
  induction sockets generalizing hub with
  | nil => cases member
  | cons first rest ih =>
      have closes : Closes hub (hub.endSocket first ending) := end_closes timed
      rcases List.mem_cons.mp member with rfl | later
      · exact (end_all_closes (closes.timed timed) rest).stays (end_ended known)
      · apply ih (closes.timed timed) later
        rcases closes.states socket with same | ⟨_, closed⟩
        · rw [same]
          exact known
        · simp [closed]

/-- No socket of the user is open once the identity change was handled. -/
theorem identity_changed (timed : Timed hub) (userId : UserId) (token : Token)
    (recheckTimer : TimerId) (expiryTimer : Option TimerId) :
    (hub.identityChanged userId).stateOf socket ≠
      some (.openFor userId token recheckTimer expiryTimer) := by
  intro opened
  have closes := @end_all_closes _ (.closed .identityChanged) timed (hub.byUser userId)
  have before := closes.before (by simp) opened
  have member := (timed.listed userId socket).mpr ⟨token, recheckTimer, expiryTimer, before⟩
  have closed := @end_all_ended _ _ (.closed .identityChanged) timed _ member
    (by simp [before])
  unfold Hub.identityChanged at opened
  rw [closed] at opened
  cases opened

/-- A step that touches neither sockets' states, nor calls, nor timers. -/
theorem same_closes (timed : Timed hub) (calls : after.calls = hub.calls)
    (states : ∀ socket, after.stateOf socket = hub.stateOf socket)
    (byUser : after.byUser = hub.byUser) (heartbeat : after.heartbeat = hub.heartbeat)
    (timers : after.timers = hub.timers) (handles : after.handles = hub.handles) :
    Closes hub after := by
  have refl := Closes.refl timed
  refine ⟨calls, fun socket => .inl (states socket), ?_, .inl heartbeat, ?_, ?_⟩
  · intro userId socket
    rw [byUser, states]
    exact refl.listed userId socket
  · refine ⟨Nat.le_of_eq handles.symm, ?_, ?_⟩
    · rw [timers]
      exact refl.rearms.same
    · rw [timers, handles]
      exact timed.fresh
  · intro socket userId token recheckTimer expiryTimer _
    rw [timers]

theorem alive_closes (timed : Timed hub) (alive : Bool) :
    Closes hub (hub.setAlive socket alive) :=
  same_closes timed rfl (fun _ => Hub.stateOf_setAlive alive) rfl rfl rfl rfl

theorem beat_one_closes (timed : Timed hub) : Closes hub (hub.beatOne socket) := by
  unfold Hub.beatOne
  split
  · exact same_closes timed rfl (fun _ => Hub.stateOf_setAlive false) rfl rfl rfl rfl
  · exact end_closes timed
  · exact Closes.refl timed

theorem beat_closes (timed : Timed hub) : Closes hub hub.beat := by
  unfold Hub.beat
  generalize hub.sockets = sockets
  induction sockets generalizing hub with
  | nil => exact Closes.refl timed
  | cons socket rest ih =>
      have first : Closes hub (hub.beatOne socket) := beat_one_closes timed
      exact first.trans (ih (first.timed timed))

/-- The timer of a handle that is no recheck's is cleared, or set again for its task. -/
theorem rearm_closes {handle : TimerId} {task : Task} (timed : Timed hub)
    (held : Held hub handle task) (plain : ∀ socket, task ≠ .recheck socket)
    (again : Option Timer) (same : ∀ armed, again = some armed →
      ∃ timer, hub.timers handle = some timer ∧ timer.task = armed.task) :
    Closes hub { hub with timers := Function.update hub.timers handle again } := by
  refine ⟨rfl, fun _ => .inl rfl, (Closes.refl timed).listed, .inl rfl, ?_, ?_⟩
  · refine ⟨Nat.le_refl _, ?_, ?_⟩
    · intro other armed old set
      simp only [Function.update_apply] at set
      split at set
      · rename_i is
        rw [is]
        exact same armed set
      · exact ⟨armed, set, rfl⟩
    · intro other past
      have apart : other ≠ handle := Nat.ne_of_gt (Nat.lt_of_lt_of_le held.old past)
      simp only [Function.update_apply, if_neg apart]
      exact timed.fresh other past
  · intro socket userId token recheckTimer expiryTimer opened
    have checks : Held hub recheckTimer (.recheck socket) := (timed.held socket _ opened).1
    by_cases is : recheckTimer = handle
    · subst is
      -- A handle of two tasks has no timer left to clear.
      have unset : ∀ timer, hub.timers recheckTimer ≠ some timer := by
        intro timer found
        exact plain socket ((held.only timer found).symm.trans (checks.only timer found))
      have none : hub.timers recheckTimer = none := Option.eq_none_iff_forall_ne_some.mpr unset
      cases again with
      | none => simp [none]
      | some armed =>
          obtain ⟨timer, found, _⟩ := same armed rfl
          exact absurd found (unset timer)
    · simp [is]

theorem clear_closes {handle : TimerId} {task : Task} (timed : Timed hub)
    (held : Held hub handle task) (plain : ∀ socket, task ≠ .recheck socket) :
    Closes hub (hub.clearTimeout handle) :=
  rearm_closes timed held plain none (by simp)

theorem timer_held {handle : TimerId} {timer : Timer} (timed : Timed hub)
    (found : hub.timers handle = some timer) : Held hub handle timer.task := by
  constructor
  · apply Nat.lt_of_not_le
    intro past
    rw [timed.fresh handle past] at found
    cases found
  · intro other same
    rw [found] at same
    rw [Option.some.inj same]

theorem clear_timed {handle : TimerId} (timed : Timed hub) : Timed (hub.clearTimeout handle) := by
  have rearms : Rearms hub (hub.clearTimeout handle) := by
    refine ⟨Nat.le_refl _, ?_, ?_⟩
    · intro other timer old found
      rw [clear_timers] at found
      split at found
      · cases found
      · exact ⟨timer, found, rfl⟩
    · intro other past
      rw [clear_timers]
      split
      · rfl
      · exact timed.fresh other past
  refine ⟨timed.listed, ?_, ?_, rearms.fresh⟩
  · intro socket state found
    exact (timed.held socket state found).rearmed rearms
  · intro other is
    exact (timed.beating other is).rearmed rearms

theorem set_rearms (timed : Timed hub) (delay : Nat) (task : Task) :
    Rearms hub (hub.setTimeout delay task) := by
  refine ⟨Nat.le_succ _, ?_, ?_⟩
  · intro handle timer old found
    have apart : handle ≠ hub.handles := Nat.ne_of_lt old
    simp only [Hub.setTimeout, Function.update_apply, if_neg apart] at found
    exact ⟨timer, found, rfl⟩
  · intro handle past
    have later : hub.handles + 1 ≤ handle := past
    have apart : handle ≠ hub.handles := Nat.ne_of_gt later
    simp only [Hub.setTimeout, Function.update_apply, if_neg apart]
    exact timed.fresh handle (Nat.le_of_succ_le later)

theorem set_held (delay : Nat) (task : Task) :
    Held (hub.setTimeout delay task) hub.handles task := by
  refine ⟨Nat.lt_succ_self _, ?_⟩
  intro timer found
  simp only [Hub.setTimeout, Function.update_self, Option.some.injEq] at found
  rw [← found]

theorem set_timed (timed : Timed hub) (delay : Nat) (task : Task) :
    Timed (hub.setTimeout delay task) := by
  have rearms := set_rearms timed delay task
  refine ⟨timed.listed, ?_, ?_, rearms.fresh⟩
  · intro socket state found
    exact (timed.held socket state found).rearmed rearms
  · intro handle is
    exact (timed.beating handle is).rearmed rearms

theorem same_timed (timed : Timed hub) (states : ∀ socket, after.stateOf socket = hub.stateOf socket)
    (byUser : after.byUser = hub.byUser) (heartbeat : after.heartbeat = hub.heartbeat)
    (timers : after.timers = hub.timers) (handles : after.handles = hub.handles) :
    Timed after := by
  have rearms : Rearms hub after := by
    refine ⟨Nat.le_of_eq handles.symm, ?_, ?_⟩
    · rw [timers]
      exact (Rearms.refl timed).same
    · rw [timers, handles]
      exact timed.fresh
  refine ⟨?_, ?_, ?_, rearms.fresh⟩
  · intro userId socket
    rw [byUser, states]
    exact timed.listed userId socket
  · intro socket state found
    rw [states] at found
    exact (timed.held socket state found).rearmed rearms
  · intro handle is
    rw [heartbeat] at is
    exact (timed.beating handle is).rearmed rearms

/-- One socket moves on to a state whose handles are its own. -/
theorem change_timed {old new : SocketState} (timed : Timed hub)
    (found : hub.stateOf socket = some old) (held : HeldBy hub socket new)
    (byUser : UserId → List SocketId)
    (listed : ∀ userId other, other ∈ byUser userId ↔
      other ≠ socket ∧ other ∈ hub.byUser userId ∨
        other = socket ∧ ∃ token recheckTimer expiryTimer,
          new = .openFor userId token recheckTimer expiryTimer) :
    Timed { hub.setState socket new with byUser } := by
  have states : ∀ other, Hub.stateOf { hub.setState socket new with byUser } other =
      if socket = other then some new else hub.stateOf other := by
    intro other
    have is : Hub.stateOf { hub.setState socket new with byUser } other =
        (hub.setState socket new).stateOf other := rfl
    rw [is, Hub.stateOf_setState]
    by_cases same : socket = other
    · subst same
      simp [found]
    · simp [same]
  have rearms : Rearms hub { hub.setState socket new with byUser } :=
    ⟨Nat.le_refl _, (Rearms.refl timed).same, timed.fresh⟩
  refine ⟨?_, ?_, ?_, timed.fresh⟩
  · intro userId other
    rw [states]
    by_cases same : socket = other
    · subst same
      simp [listed]
    · simp only [listed, if_neg same]
      rw [timed.listed]
      simp [Ne.symm same]
  · intro other state is
    rw [states] at is
    by_cases same : socket = other
    · subst same
      rw [if_pos rfl, Option.some.injEq] at is
      subst is
      exact held.rearmed rearms
    · rw [if_neg same] at is
      exact (timed.held other state is).rearmed rearms
  · intro handle is
    exact (timed.beating handle is).rearmed rearms

end Endings

end Foc.Chat
