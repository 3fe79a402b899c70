import Mathlib
import Foc.Chat.Bookkeeping

/-! The books over every event: signing in, opening, checking again, the timers and the
shutdown; and what they say of the hub after every run. -/
namespace Foc.Chat
open Library.EventLoop

section HeldSockets

variable {options : SocketOptions} {tokenExpiry : Token → Option Millis} {hub after : Hub}
  {socket other : SocketId} {token : Token} {handle : TimerId}

/-! ## Signing in -/

/-- One live socket moves on to another live state. -/
theorem moves_booked {old new : SocketState} (booked : Booked none hub)
    (found : hub.stateOf socket = some old) (live : old ≠ .closed) (lives : new ≠ .closed)
    (states : ∀ other, after.stateOf other = if socket = other then some new else hub.stateOf other)
    (sockets : after.sockets = hub.sockets) (once : after.pending.Nodup)
    (waits : ∀ other, other ∈ after.pending ↔ if socket = other
      then ∃ authTimer, new = .awaitingAuth authTimer ∨ new = .authenticating authTimer
      else other ∈ hub.pending)
    (listed : ∀ userId, (after.byUser userId).Nodup)
    (armed : ∀ handle timer other, after.timers handle = some timer →
      timer.task.socket? = some other →
        if socket = other then handle ∈ handlesOf new else hub.timers handle = some timer)
    (unset : ∀ other userId token recheckTimer expiryTimer,
      after.stateOf other = some (.openFor userId token recheckTimer expiryTimer) →
      (∃ call token, waiting after.calls call = some ⟨other, token, .scheduleRecheck⟩) →
        after.timers recheckTimer = none)
    (asks : ∀ one two other token another,
      waiting after.calls one = some ⟨other, token, .scheduleRecheck⟩ →
      waiting after.calls two = some ⟨other, another, .scheduleRecheck⟩ → two = one) :
    Booked none after := by
  refine ⟨?_, ?_, ?_, once, listed, ?_, ?_⟩
  · intro other
    rw [sockets, booked.live, states]
    by_cases same : socket = other
    · subst same
      simp [found, live, lives]
    · simp [same]
  · intro other
    rw [waits, states]
    by_cases same : socket = other
    · simp [same]
    · simp only [if_neg same]
      exact booked.waits other
  · rw [sockets]
    exact booked.sockets
  · intro handle timer other set mine
    have owned := armed handle timer other set mine
    rw [states]
    by_cases same : socket = other
    · rw [if_pos same] at owned
      exact ⟨new, if_pos same, owned⟩
    · rw [if_neg same] at owned
      rw [if_neg same]
      exact booked.armed handle timer other owned mine
  · intro call other token waits
    refine ⟨?_, fun two another again => asks call two other token another waits again⟩
    intro userId mine recheckTimer expiryTimer at_
    exact unset other userId mine recheckTimer expiryTimer at_ ⟨call, token, waits⟩

/-- The timer of a check that waits for its answer has fired. -/
theorem Booked.unset (booked : Booked none hub) {userId : UserId} {recheckTimer : TimerId}
    {expiryTimer : Option TimerId} {call : Nat} {another : Token}
    (at_ : hub.stateOf socket = some (.openFor userId token recheckTimer expiryTimer))
    (waits : waiting hub.calls call = some ⟨socket, another, .scheduleRecheck⟩) :
    hub.timers recheckTimer = none :=
  (booked.checks call socket another waits).1 userId token recheckTimer expiryTimer at_

/-- A timer of a socket whose state is known is one of those the state names. -/
theorem Booked.named (booked : Booked none hub) {state : SocketState} {timer : Timer}
    (found : hub.stateOf socket = some state) (set : hub.timers handle = some timer)
    (mine : timer.task.socket? = some socket) : handle ∈ handlesOf state := by
  obtain ⟨is, at_, named⟩ := booked.armed handle timer socket set mine
  rw [found] at at_
  cases at_
  exact named

theorem received_booked (booked : Booked none hub) (frame : Inbound) :
    Booked none (hub.received socket frame) := by
  unfold Hub.received
  split
  · rename_i authTimer token found
    have new : ∀ call other another, waiting (ask hub.calls ⟨socket, token, .received⟩) call =
        some ⟨other, another, .scheduleRecheck⟩ →
          waiting hub.calls call = some ⟨other, another, .scheduleRecheck⟩ := by
      intro call other another waits
      rcases waiting_ask.mp waits with before | ⟨-, is⟩
      · exact before
      · cases is
    have states : ∀ other, (hub.setState socket (.authenticating authTimer)).stateOf other =
        if socket = other then some (.authenticating authTimer) else hub.stateOf other := by
      intro other
      rw [Hub.stateOf_setState]
      by_cases same : socket = other
      · subst same
        simp [found]
      · simp [same]
    refine moves_booked booked found (by simp) (by simp) states rfl booked.pending ?_
      booked.listed ?_ ?_ ?_
    · intro other
      have waits : socket ∈ hub.pending := (booked.waits socket).mpr ⟨by simp, authTimer, .inl found⟩
      by_cases same : socket = other
      · subst same
        rw [if_pos rfl]
        exact ⟨fun _ => ⟨authTimer, .inr rfl⟩, fun _ => waits⟩
      · rw [if_neg same]
        exact Iff.rfl
    · intro handle timer other set mine
      split
      · rename_i same
        subst same
        have named : handle ∈ handlesOf (.awaitingAuth authTimer) := booked.named found set mine
        exact named
      · exact set
    · rintro other userId mine recheckTimer expiryTimer at_ ⟨call, another, waits⟩
      have before := (states other).symm.trans at_
      split at before
      · cases before
      · exact booked.unset before (new call other another waits)
    · intro one two other first second waits again
      exact (booked.checks one other first (new one other first waits)).2 two second
        (new two other second again)
  · exact end_booked booked
  · exact booked

theorem received_shrinks (frame : Inbound) : Shrinks hub (hub.received socket frame) := by
  unfold Hub.received
  split
  · exact ⟨List.Sublist.refl _, List.Sublist.refl _, fun _ => List.Sublist.refl _, rfl⟩
  · exact end_shrinks
  · exact Shrinks.refl hub

/-! ## Opening -/

/-- A socket that has signed in is no longer waited for. -/
def Hub.leave (hub : Hub) (socket : SocketId) (authTimer : TimerId) : Hub :=
  { hub.clearTimeout authTimer with
    pending := (hub.clearTimeout authTimer).pending.filter (· ≠ socket) }

/-- Where `open` refuses the socket, it is ended as it would have been before. -/
theorem leave_end {authTimer : TimerId} {ending : Ending}
    (found : hub.stateOf socket = some (.authenticating authTimer)) :
    (hub.leave socket authTimer).endSocket socket ending = hub.endSocket socket ending := by
  have left : (hub.leave socket authTimer).stateOf socket = some (.authenticating authTimer) := found
  unfold Hub.endSocket
  rw [found, left]
  simp [Hub.leave, Hub.release, Hub.clearTimeout, Hub.forget, Hub.setState, Hub.stopHeart]

theorem open_is {authTimer : TimerId} {userId : UserId}
    (found : hub.stateOf socket = some (.authenticating authTimer)) :
    (∃ reason, hub.openSocket options tokenExpiry socket authTimer userId token =
      hub.endSocket socket (.closed reason)) ∨
    (hub.byUser userId).length < options.perUser ∧ ∃ untilExpiry,
      hub.openSocket options tokenExpiry socket authTimer userId token =
        ((((hub.leave socket authTimer).scheduleExpiry socket untilExpiry).1.opens options socket
          userId token ((hub.leave socket authTimer).scheduleExpiry socket untilExpiry).2).tell
            socket .ready) := by
  unfold Hub.openSocket
  dsimp only
  split
  · exact .inl ⟨_, leave_end found⟩
  · rename_i space
    split
    · exact .inl ⟨_, leave_end found⟩
    · exact .inr ⟨Nat.lt_of_not_le space, _, rfl⟩

/-- What scheduling the expiry changes in the books: one timer, the socket's own. -/
theorem expiry_books (untilExpiry : Option Int) :
    (hub.scheduleExpiry socket untilExpiry).1.sockets = hub.sockets ∧
    (hub.scheduleExpiry socket untilExpiry).1.pending = hub.pending ∧
    (hub.scheduleExpiry socket untilExpiry).1.stopping = hub.stopping ∧
    (hub.scheduleExpiry socket untilExpiry).1.closes = hub.closes ∧
    (hub.scheduleExpiry socket untilExpiry).1.told = hub.told ∧
    hub.handles ≤ (hub.scheduleExpiry socket untilExpiry).1.handles ∧
    (∀ handle timer, (hub.scheduleExpiry socket untilExpiry).1.timers handle = some timer →
      hub.timers handle = some timer ∨
        timer.task = .expiry socket ∧ (hub.scheduleExpiry socket untilExpiry).2 = some handle) ∧
    ∀ handle, handle < hub.handles →
      (hub.scheduleExpiry socket untilExpiry).1.timers handle = hub.timers handle := by
  unfold Hub.scheduleExpiry
  split
  · exact ⟨rfl, rfl, rfl, rfl, rfl, Nat.le_refl _, fun _ _ set => .inl set, fun _ _ => rfl⟩
  · split
    · exact ⟨rfl, rfl, rfl, rfl, rfl, Nat.le_refl _, fun _ _ set => .inl set, fun _ _ => rfl⟩
    · refine ⟨rfl, rfl, rfl, rfl, rfl, Nat.le_succ _, ?_, ?_⟩
      · intro handle timer set
        simp only [Hub.setTimeout, Function.update_apply] at set
        split at set
        · rename_i is
          cases set
          exact .inr ⟨rfl, congrArg some is.symm⟩
        · exact .inl set
      · intro handle old
        simp only [Hub.setTimeout, Function.update_apply, if_neg (Nat.ne_of_lt old)]

/-- A socket that is signing in has not been checked yet. -/
theorem unchecked {authTimer : TimerId} (coherent : Coherent options hub)
    (found : hub.stateOf socket = some (.authenticating authTimer)) (call : Nat) (another : Token) :
    waiting hub.calls call ≠ some ⟨socket, another, .scheduleRecheck⟩ := by
  intro waits
  have asked : Asked hub.calls call ⟨socket, another, .scheduleRecheck⟩ :=
    ⟨none, waiting_iff.mp waits⟩
  rcases (coherent.signed socket).checked call another asked with ⟨_, _, _, state, -⟩ | state
  · rw [found] at state
    cases state
  · rw [found] at state
    cases state

theorem open_booked {authTimer : TimerId} {userId : UserId} (timed : Timed hub)
    (booked : Booked none hub) (found : hub.stateOf socket = some (.authenticating authTimer))
    (unchecked : ∀ call another,
      waiting hub.calls call ≠ some ⟨socket, another, .scheduleRecheck⟩) :
    Booked none (hub.openSocket options tokenExpiry socket authTimer userId token) := by
  rcases @open_is options tokenExpiry hub socket token authTimer userId found with
    ⟨reason, is⟩ | ⟨-, untilExpiry, is⟩
  · rw [is]
    exact end_booked booked
  · rw [is]
    obtain ⟨sockets, pending, -, -, -, longer, timers, older⟩ :=
      @expiry_books (hub.leave socket authTimer) socket untilExpiry
    obtain ⟨calls, -, byUser, states⟩ := @expiry_same (hub.leave socket authTimer) socket untilExpiry
    generalize (hub.leave socket authTimer).scheduleExpiry socket untilExpiry = scheduled at *
    obtain ⟨base, expiryTimer⟩ := scheduled
    dsimp only at *
    have known : base.stateOf socket ≠ none := by
      rw [states]
      exact (congrArg (· ≠ none) found).mpr (by simp)
    have moved : ∀ other, ((base.opens options socket userId token expiryTimer).tell socket
        .ready).stateOf other = if socket = other
          then some (.openFor userId token base.handles expiryTimer) else hub.stateOf other := by
      intro other
      have is := @opens_state options base socket other token userId expiryTimer known
      rw [states other] at is
      exact is
    have unlisted : socket ∉ hub.byUser userId := by
      intro member
      obtain ⟨_, _, _, opened⟩ := (timed.listed userId socket).mp member
      rw [found] at opened
      cases opened
    refine moves_booked booked found (by simp) (by simp) moved sockets ?_ ?_ ?_ ?_ ?_ ?_
    · have is : ((base.opens options socket userId token expiryTimer).tell socket .ready).pending =
          hub.pending.filter (· ≠ socket) := pending
      rw [is]
      exact booked.pending.filter _
    · intro other
      have is : ((base.opens options socket userId token expiryTimer).tell socket .ready).pending =
          hub.pending.filter (· ≠ socket) := pending
      rw [is, List.mem_filter]
      by_cases same : socket = other
      · simp [same]
      · simp [same, Ne.symm same]
    · intro owner
      have is : ((base.opens options socket userId token expiryTimer).tell socket .ready).byUser =
          Function.update hub.byUser userId (hub.byUser userId ++ [socket]) := by
        have opened : ((base.opens options socket userId token expiryTimer).tell socket
            .ready).byUser = Function.update base.byUser userId (base.byUser userId ++ [socket]) := rfl
        rw [opened, byUser]
        rfl
      rw [is, Function.update_apply]
      split
      · exact nodup_append_one (booked.listed userId) unlisted
      · exact booked.listed owner
    · intro handle timer other set mine
      have set : Function.update base.timers base.handles
          (some ⟨base.now + options.recheckMs, .recheck socket⟩) handle = some timer := set
      rw [Function.update_apply] at set
      split at set
      · rename_i is
        cases set
        rw [if_pos (Option.some.inj mine), is]
        exact List.mem_cons_self
      · rcases timers handle timer set with before | ⟨task, expires⟩
        · have before : (hub.clearTimeout authTimer).timers handle = some timer := before
          rw [clear_timers] at before
          obtain ⟨apart, before⟩ := Option.ite_none_left_eq_some.mp before
          split
          · rename_i same
            subst same
            have named := booked.named found before mine
            exact absurd (List.mem_singleton.mp named) apart
          · exact before
        · rw [task] at mine
          rw [if_pos (Option.some.inj mine), expires]
          exact List.mem_cons_of_mem _ (List.mem_singleton_self _)
    · rintro other owner mine recheckTimer expiry at_ ⟨call, another, waits⟩
      have waits : waiting hub.calls call = some ⟨other, another, .scheduleRecheck⟩ := by
        rw [← waits]
        exact congrArg (waiting · call) calls.symm
      rw [moved] at at_
      split at at_
      · rename_i same
        subst same
        exact absurd waits (unchecked call another)
      · have old : recheckTimer < hub.handles := (timed.held other _ at_).1.old
        have apart : recheckTimer ≠ base.handles := Nat.ne_of_lt (Nat.lt_of_lt_of_le old longer)
        have is : ((base.opens options socket userId token expiryTimer).tell socket .ready).timers
            recheckTimer = base.timers recheckTimer := Function.update_of_ne apart _ _
        have cleared : (hub.leave socket authTimer).timers recheckTimer =
            if recheckTimer = authTimer then none else hub.timers recheckTimer := clear_timers
        rw [is, older recheckTimer old, cleared, booked.unset at_ waits, ite_self]
    · intro one two other first second waits again
      have same : ((base.opens options socket userId token expiryTimer).tell socket .ready).calls =
          hub.calls := calls
      rw [same] at waits again
      exact (booked.checks one other first waits).2 two second again

theorem open_sized {authTimer : TimerId} {userId : UserId} (sized : Sized options hub)
    (found : hub.stateOf socket = some (.authenticating authTimer)) :
    Sized options (hub.openSocket options tokenExpiry socket authTimer userId token) := by
  rcases @open_is options tokenExpiry hub socket token authTimer userId found with
    ⟨reason, is⟩ | ⟨space, untilExpiry, is⟩
  · rw [is]
    exact end_shrinks.sized sized
  · rw [is]
    obtain ⟨sockets, pending, stopping, -⟩ :=
      @expiry_books (hub.leave socket authTimer) socket untilExpiry
    obtain ⟨-, -, byUser, -⟩ := @expiry_same (hub.leave socket authTimer) socket untilExpiry
    generalize (hub.leave socket authTimer).scheduleExpiry socket untilExpiry = scheduled at *
    obtain ⟨base, expiryTimer⟩ := scheduled
    dsimp only at *
    refine ⟨?_, ?_, ?_, ?_⟩
    · exact (congrArg (List.length · ≤ options.perInstance) sockets).mpr sized.sockets
    · have fewer : (hub.pending.filter (· ≠ socket)).length ≤ hub.pending.length :=
        List.length_filter_le _ _
      exact (congrArg (List.length · ≤ options.pendingPerInstance) pending).mpr
        (fewer.trans sized.pending)
    · intro owner
      have opened : ((base.opens options socket userId token expiryTimer).tell socket
          .ready).byUser = Function.update base.byUser userId (base.byUser userId ++ [socket]) := rfl
      have same : base.byUser = hub.byUser := byUser
      rw [opened, same, Function.update_apply]
      split
      · rw [List.length_append]
        exact space
      · exact sized.byUser owner
    · intro stopped
      have before : hub.stopping = true := stopping.symm.trans stopped
      exact sockets.trans (sized.stopped before)

/-! ## Checking again -/

theorem again_booked {userId : UserId} {recheckTimer : TimerId} {expiryTimer : Option TimerId}
    {call : Nat} {reply : Reply} (coherent : Coherent options hub) (booked : Booked none hub)
    (found : hub.stateOf socket = some (.openFor userId token recheckTimer expiryTimer))
    (waits : waiting hub.calls call = some ⟨socket, token, .scheduleRecheck⟩) :
    Booked none ((hub.known call reply).checksAgain options socket userId token expiryTimer) := by
  have known : (hub.known call reply).stateOf socket ≠ none := by
    have same : (hub.known call reply).stateOf socket = hub.stateOf socket := rfl
    rw [same, found]
    simp
  have moved : ∀ other, ((hub.known call reply).checksAgain options socket userId token
      expiryTimer).stateOf other = if socket = other
        then some (.openFor userId token hub.handles expiryTimer) else hub.stateOf other :=
    fun other => again_state known
  have fired : hub.timers recheckTimer = none := booked.unset found waits
  have before : ∀ other one another, waiting ((hub.known call reply).checksAgain options socket
      userId token expiryTimer).calls one = some ⟨other, another, .scheduleRecheck⟩ →
        one ≠ call ∧ waiting hub.calls one = some ⟨other, another, .scheduleRecheck⟩ :=
    fun other one another waits => waiting_answer.mp waits
  refine moves_booked booked found (by simp) (by simp) moved rfl booked.pending ?_ booked.listed
    ?_ ?_ ?_
  · intro other
    by_cases same : socket = other
    · subst same
      have out : socket ∉ hub.pending := by
        intro member
        obtain ⟨-, _, state | state⟩ := (booked.waits socket).mp member
        · rw [found] at state
          cases state
        · rw [found] at state
          cases state
      rw [if_pos rfl]
      constructor
      · intro member
        exact absurd member out
      · rintro ⟨_, state | state⟩
        · cases state
        · cases state
    · rw [if_neg same]
      exact Iff.rfl
  · intro handle timer other set mine
    have set : Function.update hub.timers hub.handles
        (some ⟨hub.now + options.recheckMs, .recheck socket⟩) handle = some timer := set
    rw [Function.update_apply] at set
    split at set
    · rename_i is
      cases set
      rw [if_pos (Option.some.inj mine), is]
      exact List.mem_cons_self
    · split
      · rename_i same
        subst same
        rcases List.mem_cons.mp (booked.named found set mine) with is | expires
        · rw [is, fired] at set
          cases set
        · exact List.mem_cons_of_mem _ expires
      · exact set
  · rintro other owner mine checkTimer expiry at_ ⟨one, another, asked⟩
    obtain ⟨apart, asked⟩ := before other one another asked
    rw [moved] at at_
    split at at_
    · rename_i same
      subst same
      exact absurd ((booked.checks call socket token waits).2 one another asked) apart
    · have old : checkTimer < hub.handles := (coherent.timed.held other _ at_).1.old
      have is : ((hub.known call reply).checksAgain options socket userId token
          expiryTimer).timers checkTimer = hub.timers checkTimer :=
        Function.update_of_ne (Nat.ne_of_lt old) _ _
      rw [is]
      exact booked.unset at_ asked
  · intro one two other first second waits again
    exact (booked.checks one other first (before other one first waits).2).2 two second
      (before other two second again).2

/-- A check that comes due is asked, and its timer is the one the socket names. -/
theorem due_booked {timer : Timer} (coherent : Coherent options hub) (booked : Booked none hub)
    (set : hub.timers handle = some timer) (task : timer.task = .recheck socket) :
    Booked none ((hub.clearTimeout handle).recheckDue socket) := by
  have cleared : Booked none (hub.clearTimeout handle) := clear_aside.booked booked
  unfold Hub.recheckDue
  split
  · rename_i userId token recheckTimer expiryTimer at_
    have at_ : hub.stateOf socket = some (.openFor userId token recheckTimer expiryTimer) := at_
    have held : HeldBy hub socket (.openFor userId token recheckTimer expiryTimer) :=
      coherent.timed.held socket _ at_
    have is : handle = recheckTimer := by
      have named := booked.named at_ set (congrArg Task.socket? task)
      rcases List.mem_cons.mp named with is | expires
      · exact is
      · have other := (held.2 handle (Option.mem_toList.mp expires)).only timer set
        cases task.symm.trans other
    have unasked : ∀ call another,
        waiting hub.calls call ≠ some ⟨socket, another, .scheduleRecheck⟩ := by
      intro call another waits
      have fired := booked.unset at_ waits
      rw [← is, set] at fired
      cases fired
    refine ⟨cleared.live, cleared.waits, cleared.sockets, cleared.pending, cleared.listed,
      cleared.armed, ?_⟩
    intro call other another waits
    rcases waiting_ask.mp waits with before | ⟨last, asked⟩
    · obtain ⟨unset, once⟩ := cleared.checks call other another before
      refine ⟨unset, ?_⟩
      intro two second again
      rcases waiting_ask.mp again with again | ⟨-, asked⟩
      · exact once two second again
      · cases asked
        exact absurd before (unasked call another)
    · cases asked
      constructor
      · intro owner mine checkTimer expiry opened
        have same := at_.symm.trans opened
        cases same
        exact clear_timers.trans (if_pos is.symm)
      · intro two second again
        rcases waiting_ask.mp again with again | ⟨first, -⟩
        · exact absurd again (unasked two second)
        · exact first.trans last.symm
  · exact cleared

/-! ## Every event -/

theorem answered_books {call : Nat} {given : Except AuthError UserId} {asked : Ask}
    (coherent : Coherent options hub) (booked : Booked none hub) (sized : Sized options hub)
    (waits : waiting hub.calls call = some asked) :
    Booked none (hub.answered options tokenExpiry call asked given) ∧
      Sized options (hub.answered options tokenExpiry call asked given) := by
  have known : Aside hub (hub.known call ⟨given, hub.now⟩) := known_aside
  have kept : Booked none (hub.known call ⟨given, hub.now⟩) := known.booked booked
  have fits : Sized options (hub.known call ⟨given, hub.now⟩) := known.sized rfl sized
  obtain ⟨socket, token, purpose⟩ := asked
  cases purpose with
  | received =>
    have is : hub.answered options tokenExpiry call ⟨socket, token, .received⟩ given =
        (hub.known call ⟨given, hub.now⟩).authenticated options tokenExpiry socket token given := rfl
    rw [is]
    unfold Hub.authenticated
    split
    · exact ⟨end_booked kept, end_shrinks.sized fits⟩
    · rename_i authTimer userId found
      refine ⟨open_booked (known_timed coherent.timed _ _) kept found ?_, open_sized fits found⟩
      intro other another waits
      exact unchecked coherent found other another (known.calls other socket another waits)
    · exact ⟨kept, fits⟩
  | scheduleRecheck =>
    have is : hub.answered options tokenExpiry call ⟨socket, token, .scheduleRecheck⟩ given =
        (hub.known call ⟨given, hub.now⟩).rechecked options socket given := rfl
    rw [is]
    unfold Hub.rechecked
    split
    · exact ⟨end_booked kept, end_shrinks.sized fits⟩
    · rename_i userId owner recheckTimer expiryTimer ok found
      have at_ : hub.stateOf socket = some (.openFor userId owner recheckTimer expiryTimer) := found
      rcases (coherent.signed socket).checked call token ⟨none, waiting_iff.mp waits⟩ with
        ⟨_, _, _, opened, -⟩ | closed
      · cases at_.symm.trans opened
        exact ⟨again_booked coherent booked at_ waits, fits.sockets, fits.pending, fits.byUser,
          fits.stopped⟩
      · cases at_.symm.trans closed
    · exact ⟨kept, fits⟩

theorem fired_books {timer : Timer} (coherent : Coherent options hub) (booked : Booked none hub)
    (sized : Sized options hub) (set : hub.timers handle = some timer) :
    Booked none (hub.fired options handle timer) ∧ Sized options (hub.fired options handle timer) := by
  have cleared : Aside hub (hub.clearTimeout handle) := clear_aside
  have kept : Booked none (hub.clearTimeout handle) := cleared.booked booked
  have fits : Sized options (hub.clearTimeout handle) := cleared.sized rfl sized
  unfold Hub.fired
  cases task : timer.task with
  | authTimeout socket => exact ⟨end_booked kept, end_shrinks.sized fits⟩
  | expiry socket => exact ⟨end_booked kept, end_shrinks.sized fits⟩
  | recheck socket =>
    refine ⟨due_booked coherent booked set task, ?_⟩
    dsimp only
    unfold Hub.recheckDue
    split
    · exact ⟨fits.sockets, fits.pending, fits.byUser, fits.stopped⟩
    · exact fits
  | beat =>
    have again := again_aside set (hub.now + options.pingMs)
    exact ⟨beat_booked (again.booked booked), beat_shrinks.sized (again.sized rfl sized)⟩

theorem destroy_books (timed : Timed hub) (booked : Booked none hub) (sized : Sized options hub) :
    Booked none hub.onModuleDestroy ∧ Sized options hub.onModuleDestroy := by
  have stopped : Timed { hub with stopping := true } :=
    same_timed timed (fun _ => rfl) rfl rfl rfl rfl
  have kept : Booked none { hub with stopping := true } :=
    ⟨booked.live, booked.waits, booked.sockets, booked.pending, booked.listed, booked.armed,
      booked.checks⟩
  have ended : Booked none hub.onModuleDestroy := end_all_booked kept hub.sockets
  have shrinks : Shrinks { hub with stopping := true } hub.onModuleDestroy :=
    end_all_shrinks hub.sockets
  refine ⟨ended, shrinks.sockets.length_le.trans sized.sockets,
    shrinks.pending.length_le.trans sized.pending,
    fun userId => (shrinks.byUser userId).length_le.trans (sized.byUser userId), ?_⟩
  intro _
  apply List.eq_nil_iff_forall_not_mem.mpr
  intro socket member
  obtain ⟨-, state, found, live⟩ := (ended.live socket).mp member
  have held : socket ∈ hub.sockets := shrinks.sockets.subset member
  obtain ⟨-, before, known, -⟩ := (booked.live socket).mp held
  have closed : hub.onModuleDestroy.stateOf socket = some .closed :=
    end_all_ended stopped hub.sockets held fun unknown => by cases known.symm.trans unknown
  rw [closed] at found
  exact live (Option.some.inj found).symm

/-- Every event keeps the books. -/
theorem turn_books (hub : Hub) (event : Event) (after : Hub)
    (books : Coherent options hub ∧ Booked none hub ∧ Sized options hub)
    (turned : turn options tokenExpiry hub event = some after) :
    Coherent options after ∧ Booked none after ∧ Sized options after := by
  obtain ⟨coherent, booked, sized⟩ := books
  refine ⟨turn_coherent hub event after coherent turned, ?_⟩
  cases event with
  | connect =>
    cases turned
    exact connect_books coherent booked sized
  | received socket frame =>
    cases turned
    exact ⟨received_booked booked frame, (received_shrinks frame).sized sized⟩
  | answered call given =>
    obtain ⟨asked, waits, rfl⟩ := Option.map_eq_some_iff.mp turned
    exact answered_books coherent booked sized waits
  | fired handle =>
    simp only [turn] at turned
    split at turned
    · rename_i timer found
      split at turned
      · cases turned
        exact fired_books coherent booked sized found
      · cases turned
    · cases turned
  | pong socket =>
    cases turned
    exact ⟨(alive_aside true).booked booked, (alive_aside true).sized rfl sized⟩
  | disconnected socket =>
    cases turned
    exact ⟨end_booked booked, end_shrinks.sized sized⟩
  | notify userIds nudge broken =>
    cases turned
    have aside := @notify_aside hub userIds nudge broken
    exact ⟨aside.booked booked, aside.sized rfl sized⟩
  | identityChanged userId =>
    cases turned
    exact ⟨end_all_booked booked _, (end_all_shrinks _).sized sized⟩
  | onModuleDestroy =>
    cases turned
    exact destroy_books coherent.timed booked sized
  | passes ms =>
    cases turned
    exact ⟨⟨booked.live, booked.waits, booked.sockets, booked.pending, booked.listed, booked.armed,
      booked.checks⟩, sized.sockets, sized.pending, sized.byUser, sized.stopped⟩

theorem initial_books (now : Millis) : Booked none (Hub.initial now) ∧
    Sized options (Hub.initial now) := by
  refine ⟨⟨?_, ?_, List.nodup_nil, List.nodup_nil, fun _ => List.nodup_nil, ?_, ?_⟩,
    Nat.zero_le _, Nat.zero_le _, fun _ => Nat.zero_le _, fun _ => rfl⟩
  · intro socket
    simp [Hub.initial, Hub.stateOf]
  · intro socket
    simp [Hub.initial, Hub.stateOf]
  · intro handle timer socket set
    cases set
  · intro call socket token waits
    simp [Hub.initial, waiting] at waits

theorem run_books {now : Millis} (run : Run (turn options tokenExpiry) (Hub.initial now) hub) :
    Coherent options hub ∧ Booked none hub ∧ Sized options hub :=
  @run_keeps _ _ _ _ _ (fun hub => Coherent options hub ∧ Booked none hub ∧ Sized options hub)
    turn_books ⟨initial_coherent now, initial_books now⟩ run

/-! ## Endings are counted -/

/-- No socket ended. -/
theorem counts_none (closed : ∀ socket, after.stateOf socket = some .closed ↔
      hub.stateOf socket = some .closed) (closes : after.closes = hub.closes)
    (told : after.told.filter (·.2.isLast) = hub.told.filter (·.2.isLast)) :
    Counts hub after [] where
  once := List.nodup_nil
  newly socket member := by cases member
  closed socket := (closed socket).trans (by simp)
  closes := closes.trans (List.append_nil _).symm
  told := told.trans (List.append_nil _).symm

theorem Aside.counts (aside : Aside hub after) : Counts hub after [] :=
  counts_none (fun socket => by rw [aside.states]) aside.closes aside.told

/-- What was ended before is not ended again. -/
theorem Counts.trans {last : Hub} {before later : List (SocketId × Ending)}
    (first : Counts hub after before) (second : Counts after last later) :
    Counts hub last (before ++ later) where
  once := by
    rw [List.map_append, List.nodup_append]
    refine ⟨first.once, second.once, ?_⟩
    rintro socket ended again late rfl
    exact second.newly socket late ((first.closed socket).mpr (.inr ended))
  newly := by
    intro socket member
    rw [List.map_append, List.mem_append] at member
    rcases member with early | late
    · exact first.newly socket early
    · intro closed
      exact second.newly socket late ((first.closed socket).mpr (.inl closed))
  closed := by
    intro socket
    rw [second.closed, first.closed, List.map_append, List.mem_append, or_assoc]
  closes := by rw [second.closes, first.closes, List.map_append, List.append_assoc]
  told := by rw [second.told, first.told, List.filterMap_append, List.append_assoc]

theorem end_counts {ending : Ending} : ∃ ended, Counts hub (hub.endSocket socket ending) ended := by
  cases found : hub.stateOf socket with
  | none =>
    rw [end_closed (.inl found)]
    exact ⟨_, counts_none (fun _ => Iff.rfl) rfl rfl⟩
  | some state =>
    by_cases live : state = .closed
    · rw [end_closed (.inr (live ▸ found))]
      exact ⟨_, counts_none (fun _ => Iff.rfl) rfl rfl⟩
    · have ends : Ends hub socket state (hub.endSocket socket ending) := end_ends found live
      have leaves : Leaves hub socket state ending (hub.endSocket socket ending) :=
        end_leaves found live
      refine ⟨[(socket, ending)], List.nodup_singleton _, ?_, ?_, leaves.closes, ?_⟩
      · intro other member
        rw [List.mem_singleton.mp member, found]
        exact fun closed => live (Option.some.inj closed)
      · intro other
        rw [ends.states, List.map_singleton, List.mem_singleton]
        by_cases same : socket = other
        · simp [same]
        · simp [same, Ne.symm same]
      · rw [leaves.told, List.filter_append]
        congr 1
        cases ending <;> rfl

theorem end_all_counts {ending : Ending} (sockets : List SocketId) :
    ∃ ended, Counts hub (hub.endAll ending sockets) ended := by
  induction sockets generalizing hub with
  | nil => exact ⟨_, counts_none (fun _ => Iff.rfl) rfl rfl⟩
  | cons socket rest ih =>
    obtain ⟨one, first⟩ := @end_counts hub socket ending
    obtain ⟨more, later⟩ := @ih (hub.endSocket socket ending)
    exact ⟨_, first.trans later⟩

theorem beat_counts : ∃ ended, Counts hub hub.beat ended := by
  unfold Hub.beat
  generalize hub.sockets = sockets
  induction sockets generalizing hub with
  | nil => exact ⟨_, counts_none (fun _ => Iff.rfl) rfl rfl⟩
  | cons socket rest ih =>
    have one : ∃ ended, Counts hub (hub.beatOne socket) ended := by
      unfold Hub.beatOne
      split
      · exact ⟨_, (alive_aside false).counts.trans (tell_aside rfl).counts⟩
      · exact end_counts
      · exact ⟨_, counts_none (fun _ => Iff.rfl) rfl rfl⟩
    obtain ⟨ended, first⟩ := one
    obtain ⟨more, later⟩ := @ih (hub.beatOne socket)
    exact ⟨_, first.trans later⟩

/-- A live socket that moves on to another live state has not ended. -/
theorem moves_counts {old new : SocketState} (found : hub.stateOf socket = some old)
    (live : old ≠ .closed) (lives : new ≠ .closed)
    (states : ∀ other, after.stateOf other = if socket = other then some new else hub.stateOf other)
    (closes : after.closes = hub.closes)
    (told : after.told.filter (·.2.isLast) = hub.told.filter (·.2.isLast)) :
    Counts hub after [] := by
  refine counts_none ?_ closes told
  intro other
  rw [states]
  by_cases same : socket = other
  · subst same
    simp [found, live, lives]
  · rw [if_neg same]

theorem connect_counts : ∃ ended, Counts hub (hub.connect options) ended := by
  have accepted : Counts hub (hub.accept options) [] := by
    refine counts_none ?_ rfl rfl
    intro other
    rw [accept_state]
    by_cases new : other = hub.objects.length
    · simp [new, new_unknown]
    · rw [if_neg new]
  obtain ⟨room, refused, taken, is⟩ := @connect_is options hub
  have roomed : ∃ ended, Counts hub room ended := by
    rcases @accommodate_cases options (hub.accept options) with
      ⟨_, kept⟩ | ⟨-, -, ⟨-, kept⟩ | ⟨oldest, _, -, -, kept⟩⟩
    · cases kept.symm.trans taken
      exact ⟨_, accepted⟩
    · cases kept.symm.trans taken
      exact ⟨_, accepted⟩
    · cases kept.symm.trans taken
      obtain ⟨ended, counts⟩ := @end_counts (hub.accept options) oldest (.closed .tooManyPending)
      exact ⟨_, accepted.trans counts⟩
  obtain ⟨before, counts⟩ := roomed
  have entered : Counts room (room.enter hub.objects.length) [] :=
    counts_none (fun _ => Iff.rfl) rfl rfl
  rw [is]
  cases refused with
  | some reason =>
    obtain ⟨ended, last⟩ :=
      @end_counts (room.enter hub.objects.length) hub.objects.length (.closed reason)
    exact ⟨_, (counts.trans entered).trans last⟩
  | none =>
    have beats : Counts (room.enter hub.objects.length)
        ((room.enter hub.objects.length).startHeart options) [] := by
      unfold Hub.startHeart
      split
      · exact counts_none (fun _ => Iff.rfl) rfl rfl
      · exact counts_none (fun _ => Iff.rfl) rfl rfl
    exact ⟨_, (counts.trans entered).trans beats⟩

theorem received_counts (frame : Inbound) :
    ∃ ended, Counts hub (hub.received socket frame) ended := by
  unfold Hub.received
  split
  · rename_i authTimer token found
    refine ⟨_, @moves_counts _ _ _ _ (.authenticating authTimer) found (by simp) (by simp) ?_ rfl
      rfl⟩
    intro other
    have same : ∀ calls, Hub.stateOf { hub.setState socket (.authenticating authTimer) with
        calls := calls } other = (hub.setState socket (.authenticating authTimer)).stateOf other :=
      fun _ => rfl
    rw [same, Hub.stateOf_setState]
    by_cases is : socket = other
    · subst is
      simp [found]
    · simp [is]
  · exact end_counts
  · exact ⟨_, counts_none (fun _ => Iff.rfl) rfl rfl⟩

theorem open_counts {authTimer : TimerId} {userId : UserId}
    (found : hub.stateOf socket = some (.authenticating authTimer)) : ∃ ended,
      Counts hub (hub.openSocket options tokenExpiry socket authTimer userId token) ended := by
  rcases @open_is options tokenExpiry hub socket token authTimer userId found with
    ⟨reason, is⟩ | ⟨-, untilExpiry, is⟩
  · rw [is]
    exact end_counts
  · rw [is]
    obtain ⟨-, -, -, closes, told, -⟩ := @expiry_books (hub.leave socket authTimer) socket untilExpiry
    obtain ⟨-, -, -, states⟩ := @expiry_same (hub.leave socket authTimer) socket untilExpiry
    generalize (hub.leave socket authTimer).scheduleExpiry socket untilExpiry = scheduled at *
    obtain ⟨base, expiryTimer⟩ := scheduled
    dsimp only at *
    have known : base.stateOf socket ≠ none := by
      rw [states]
      exact (congrArg (· ≠ none) found).mpr (by simp)
    have opened : Counts hub (base.opens options socket userId token expiryTimer) [] := by
      refine @moves_counts _ _ _ _ (.openFor userId token base.handles expiryTimer) found (by simp)
        (by simp) ?_ closes (congrArg (List.filter (·.2.isLast)) told)
      intro other
      rw [opens_state known, states other]
      rfl
    exact ⟨_, opened.trans (tell_aside rfl).counts⟩

theorem answered_counts {call : Nat} {given : Except AuthError UserId} {asked : Ask} : ∃ ended,
    Counts hub (hub.answered options tokenExpiry call asked given) ended := by
  have known : Counts hub (hub.known call ⟨given, hub.now⟩) [] := known_aside.counts
  suffices later : ∃ ended, Counts (hub.known call ⟨given, hub.now⟩)
      (hub.answered options tokenExpiry call asked given) ended by
    obtain ⟨ended, counts⟩ := later
    exact ⟨_, known.trans counts⟩
  obtain ⟨socket, token, purpose⟩ := asked
  cases purpose with
  | received =>
    have is : hub.answered options tokenExpiry call ⟨socket, token, .received⟩ given =
        (hub.known call ⟨given, hub.now⟩).authenticated options tokenExpiry socket token given := rfl
    rw [is]
    unfold Hub.authenticated
    split
    · exact end_counts
    · exact open_counts ‹_›
    · exact ⟨_, counts_none (fun _ => Iff.rfl) rfl rfl⟩
  | scheduleRecheck =>
    have is : hub.answered options tokenExpiry call ⟨socket, token, .scheduleRecheck⟩ given =
        (hub.known call ⟨given, hub.now⟩).rechecked options socket given := rfl
    rw [is]
    unfold Hub.rechecked
    split
    · exact end_counts
    · rename_i userId owner recheckTimer expiryTimer ok found
      refine ⟨_, @moves_counts _ _ _ _ (.openFor userId owner hub.handles expiryTimer) found
        (by simp) (by simp) ?_ rfl rfl⟩
      intro other
      exact again_state (by rw [found]; simp)
    · exact ⟨_, counts_none (fun _ => Iff.rfl) rfl rfl⟩

theorem fired_counts {timer : Timer} (set : hub.timers handle = some timer) :
    ∃ ended, Counts hub (hub.fired options handle timer) ended := by
  have cleared : Counts hub (hub.clearTimeout handle) [] := clear_aside.counts
  unfold Hub.fired
  cases timer.task with
  | authTimeout socket =>
    obtain ⟨ended, counts⟩ := @end_counts (hub.clearTimeout handle) socket (.closed .authTimeout)
    exact ⟨_, cleared.trans counts⟩
  | expiry socket =>
    obtain ⟨ended, counts⟩ := @end_counts (hub.clearTimeout handle) socket (.closed .unauthenticated)
    exact ⟨_, cleared.trans counts⟩
  | recheck socket =>
    dsimp only
    unfold Hub.recheckDue
    split
    · exact ⟨_, counts_none (fun _ => Iff.rfl) rfl rfl⟩
    · exact ⟨_, cleared⟩
  | beat =>
    have again := again_aside set (hub.now + options.pingMs)
    obtain ⟨ended, counts⟩ := @beat_counts { hub with
      timers := Function.update hub.timers handle (some ⟨hub.now + options.pingMs, .beat⟩) }
    exact ⟨_, again.counts.trans counts⟩

/-- Every event counts the sockets it ends, each once. -/
theorem turn_counts (hub : Hub) (event : Event) (after : Hub)
    (turned : turn options tokenExpiry hub event = some after) :
    ∃ ended, Counts hub after ended := by
  cases event with
  | connect =>
    cases turned
    exact connect_counts
  | received socket frame =>
    cases turned
    exact received_counts frame
  | answered call given =>
    obtain ⟨asked, -, rfl⟩ := Option.map_eq_some_iff.mp turned
    exact answered_counts
  | fired handle =>
    simp only [turn] at turned
    split at turned
    · rename_i timer found
      split at turned
      · cases turned
        exact fired_counts found
      · cases turned
    · cases turned
  | pong socket =>
    cases turned
    exact ⟨_, (alive_aside true).counts⟩
  | disconnected socket =>
    cases turned
    exact end_counts
  | notify userIds nudge broken =>
    cases turned
    exact ⟨_, (notify_aside userIds nudge broken).counts⟩
  | identityChanged userId =>
    cases turned
    exact end_all_counts _
  | onModuleDestroy =>
    cases turned
    have stopped : Counts hub { hub with stopping := true } [] :=
      counts_none (fun _ => Iff.rfl) rfl rfl
    obtain ⟨ended, counts⟩ := @end_all_counts { hub with stopping := true } (.closed .shutdown)
      hub.sockets
    exact ⟨_, stopped.trans counts⟩
  | passes ms =>
    cases turned
    exact ⟨_, counts_none (fun _ => Iff.rfl) rfl rfl⟩

/-- Over a run, every socket that ended was counted once and told at most once. -/
theorem run_counts (run : Run (turn options tokenExpiry) hub after) :
    ∃ ended, Counts hub after ended := by
  induction run with
  | refl => exact ⟨_, counts_none (fun _ => Iff.rfl) rfl rfl⟩
  | next event run turned ih =>
    obtain ⟨before, first⟩ := ih
    obtain ⟨later, second⟩ := turn_counts _ event _ turned
    exact ⟨_, first.trans second⟩

/-- What the peer of one socket was told of its ending: nothing or one thing. -/
theorem told_once {ended : List (SocketId × Ending)} (once : (ended.map Prod.fst).Nodup)
    (socket : SocketId) : ((ended.filterMap goodbye).filter (·.1 = socket)).length ≤ 1 := by
  have own : ∀ ending told, goodbye ending = some told → told.1 = ending.1 := by
    rintro ⟨other, ending⟩ told is
    cases ending <;> cases is <;> rfl
  induction ended with
  | nil => exact Nat.zero_le 1
  | cons first rest ih =>
    obtain ⟨out, once⟩ := List.nodup_cons.mp once
    rw [List.filterMap_cons]
    cases is : goodbye first with
    | none => exact ih once
    | some told =>
      dsimp only
      by_cases same : told.1 = socket
      · have none_ : (rest.filterMap goodbye).filter (·.1 = socket) = [] := by
          rw [List.filter_eq_nil_iff]
          intro other member
          obtain ⟨ending, later, its⟩ := List.mem_filterMap.mp member
          rw [decide_eq_true_eq]
          intro also
          apply out
          rw [← own first told is, same, ← also, own ending other its]
          exact List.mem_map_of_mem later
        rw [List.filter_cons_of_pos (by simpa using same), none_]
        exact Nat.le_refl 1
      · rw [List.filter_cons_of_neg (by simpa using same)]
        exact ih once

/-- Letting a socket in closes no socket whose token is being checked. -/
theorem connect_spares {authTimer : TimerId}
    (found : hub.stateOf socket = some (.authenticating authTimer)) :
    (hub.connect options).stateOf socket = some (.authenticating authTimer) := by
  have apart : hub.objects.length ≠ socket := by
    rintro rfl
    rw [new_unknown] at found
    cases found
  have accepted : (hub.accept options).stateOf socket = some (.authenticating authTimer) := by
    rw [accept_state, if_neg (Ne.symm apart), found]
  obtain ⟨room, refused, taken, is⟩ := @connect_is options hub
  have roomed : room.stateOf socket = some (.authenticating authTimer) := by
    rcases @accommodate_cases options (hub.accept options) with
      ⟨_, kept⟩ | ⟨-, -, ⟨-, kept⟩ | ⟨oldest, other, -, waits, kept⟩⟩
    · cases kept.symm.trans taken
      exact accepted
    · cases kept.symm.trans taken
      exact accepted
    · cases kept.symm.trans taken
      rw [end_others, accepted]
      rintro rfl
      cases waits.symm.trans accepted
  rw [is]
  cases refused with
  | some reason => exact (end_others apart).trans roomed
  | none =>
    dsimp only
    unfold Hub.startHeart
    split
    · exact roomed
    · exact roomed

/-! ## After every run -/

/-- The sets are within their bounds and hold each socket once; the waiting room is the sockets
that have not signed in, a user's set its open ones, and both are held. A closed socket is in no
set and no timer that is set is for it; it was counted once, when it ended, and its peer told at
most once. A connection spares the sockets whose token is checked, and none is held once the
shutdown began. -/
theorem hub_keeps_books (options : SocketOptions) (tokenExpiry : Token → Option Millis) (now : Millis)
    (hub : Hub) (run : Run (turn options tokenExpiry) (Hub.initial now) hub) :
    (hub.sockets.length ≤ options.perInstance ∧ hub.pending.length ≤ options.pendingPerInstance ∧
      ∀ userId, (hub.byUser userId).length ≤ options.perUser) ∧
    (hub.sockets.Nodup ∧ hub.pending.Nodup ∧ ∀ userId, (hub.byUser userId).Nodup) ∧
    (∀ socket, socket ∈ hub.pending ↔ ∃ authTimer,
      hub.stateOf socket = some (.awaitingAuth authTimer) ∨
        hub.stateOf socket = some (.authenticating authTimer)) ∧
    (∀ userId socket, socket ∈ hub.byUser userId ↔ ∃ token recheckTimer expiryTimer,
      hub.stateOf socket = some (.openFor userId token recheckTimer expiryTimer)) ∧
    (∀ socket ∈ hub.pending, socket ∈ hub.sockets) ∧
    (∀ userId, ∀ socket ∈ hub.byUser userId, socket ∈ hub.sockets) ∧
    (∀ socket, hub.stateOf socket = some .closed →
      (socket ∉ hub.sockets ∧ socket ∉ hub.pending ∧ ∀ userId, socket ∉ hub.byUser userId) ∧
      ∀ handle timer, hub.timers handle = some timer → timer.task.socket? ≠ some socket) ∧
    (∃ ended, Counts (Hub.initial now) hub ended) ∧
    (∀ event after, turn options tokenExpiry hub event = some after →
      ∃ ended, Counts hub after ended) ∧
    (∀ socket, (hub.told.filter fun sent => sent.2.isLast && sent.1 = socket).length ≤ 1) ∧
    (∀ socket authTimer after, turn options tokenExpiry hub .connect = some after →
      hub.stateOf socket = some (.authenticating authTimer) →
        after.stateOf socket = some (.authenticating authTimer)) ∧
    (hub.stopping = true → hub.sockets = []) := by
  obtain ⟨coherent, booked, sized⟩ := run_books run
  obtain ⟨ended, counts⟩ := run_counts run
  have held : ∀ socket, socket ∈ hub.sockets ↔
      ∃ state, hub.stateOf socket = some state ∧ state ≠ .closed := by
    intro socket
    rw [booked.live]
    simp
  have waits : ∀ socket, socket ∈ hub.pending ↔ ∃ authTimer,
      hub.stateOf socket = some (.awaitingAuth authTimer) ∨
        hub.stateOf socket = some (.authenticating authTimer) := by
    intro socket
    rw [booked.waits]
    simp
  refine ⟨⟨sized.sockets, sized.pending, sized.byUser⟩,
    ⟨booked.sockets, booked.pending, booked.listed⟩, waits, coherent.timed.listed, ?_, ?_, ?_,
    ⟨ended, counts⟩, fun event after => turn_counts hub event after, ?_, ?_, sized.stopped⟩
  · intro socket member
    rw [held]
    obtain ⟨authTimer, found | found⟩ := (waits socket).mp member
    · exact ⟨_, found, by simp⟩
    · exact ⟨_, found, by simp⟩
  · intro userId socket member
    rw [held]
    obtain ⟨_, _, _, found⟩ := (coherent.timed.listed userId socket).mp member
    exact ⟨_, found, by simp⟩
  · intro socket closed
    refine ⟨⟨?_, ?_, ?_⟩, ?_⟩
    · intro member
      obtain ⟨state, found, live⟩ := (held socket).mp member
      exact live (Option.some.inj (found.symm.trans closed))
    · intro member
      obtain ⟨authTimer, found | found⟩ := (waits socket).mp member
      · cases found.symm.trans closed
      · cases found.symm.trans closed
    · intro userId member
      obtain ⟨_, _, _, found⟩ := (coherent.timed.listed userId socket).mp member
      cases found.symm.trans closed
    · -- A timer that is set is named by the state of its socket, and a closed one names none.
      intro handle timer set mine
      have named := booked.named closed set mine
      cases named
  · intro socket
    have told : hub.told.filter (·.2.isLast) = ended.filterMap goodbye := counts.told
    rw [← List.filter_filter, List.filter_comm, told]
    exact told_once counts.once socket
  · intro socket authTimer after turned found
    cases turned
    exact connect_spares found

/-- A socket that signed in too late is counted once and told once. -/
theorem late_socket_booked : ∃ hub, hub.stateOf 0 = some .closed ∧ hub.sockets = [] ∧
    (∃ ended, Counts (Hub.initial 0) hub ended) ∧
    (hub.told.filter fun sent => sent.2.isLast && sent.1 = 0).length ≤ 1 := by
  have ran : (turns plainTurn (Hub.initial 0)
      [.connect, .passes 5000, .fired 0]).map (fun hub => (hub.stateOf 0, hub.sockets)) =
        some (some .closed, []) := by rfl
  obtain ⟨hub, reached, ends⟩ := Option.map_eq_some_iff.mp ran
  obtain ⟨closed, sockets⟩ := Prod.mk.inj ends
  have books := hub_keeps_books plainOptions (fun _ => none) 0 hub (run_turns .refl _ reached)
  obtain ⟨-, -, -, -, -, -, -, counts, -, told, -⟩ := books
  exact ⟨hub, closed, sockets, counts, told 0⟩

end HeldSockets

end Foc.Chat
