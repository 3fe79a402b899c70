import Mathlib
import Foc.Chat.SignIn

/-! The hub's books: what each of its sets holds and how large it may grow, and whose timers
are set; what ending sockets, and letting one in, changes of them. -/
namespace Foc.Chat
open Library.EventLoop

/-- The socket that a timer is for. -/
def Task.socket? : Task → Option SocketId
  | .authTimeout socket => some socket
  | .recheck socket => some socket
  | .expiry socket => some socket
  | .beat => none

/-- A close or a termination, after which nothing is sent. -/
def Sent.isLast : Sent → Bool
  | .close _ _ => true
  | .terminate => true
  | _ => false

/-- What a peer is told of its ending. -/
def goodbye (ended : SocketId × Ending) : Option (SocketId × Sent) :=
  match ended.2 with
  | .closed reason => some (ended.1, .close reason.told.1 reason.told.2)
  | .noPong => some (ended.1, .terminate)
  | .clientClosed => none

/-- The sockets that ended from one hub to another and how: each is counted, and told if at
all, as often as it stands in the list, which is once. -/
structure Counts (hub after : Hub) (ended : List (SocketId × Ending)) : Prop where
  once : (ended.map Prod.fst).Nodup
  newly : ∀ socket ∈ ended.map Prod.fst, hub.stateOf socket ≠ some .closed
  closed : ∀ socket, after.stateOf socket = some .closed ↔
    hub.stateOf socket = some .closed ∨ socket ∈ ended.map Prod.fst
  closes : after.closes = hub.closes ++ ended.map Prod.snd
  told : after.told.filter (·.2.isLast) =
    hub.told.filter (·.2.isLast) ++ ended.filterMap goodbye

/-- The books, of every socket but the one that is still being let in. -/
structure Booked (fresh : Option SocketId) (hub : Hub) : Prop where
  live : ∀ socket, socket ∈ hub.sockets ↔
    fresh ≠ some socket ∧ ∃ state, hub.stateOf socket = some state ∧ state ≠ .closed
  waits : ∀ socket, socket ∈ hub.pending ↔ fresh ≠ some socket ∧ ∃ authTimer,
    hub.stateOf socket = some (.awaitingAuth authTimer) ∨
      hub.stateOf socket = some (.authenticating authTimer)
  sockets : hub.sockets.Nodup
  pending : hub.pending.Nodup
  listed : ∀ userId, (hub.byUser userId).Nodup
  armed : ∀ handle timer socket, hub.timers handle = some timer →
    timer.task.socket? = some socket →
      ∃ state, hub.stateOf socket = some state ∧ handle ∈ handlesOf state
  checks : ∀ call socket token, waiting hub.calls call = some ⟨socket, token, .scheduleRecheck⟩ →
    (∀ userId mine recheckTimer expiryTimer,
      hub.stateOf socket = some (.openFor userId mine recheckTimer expiryTimer) →
        hub.timers recheckTimer = none) ∧
    ∀ other another, waiting hub.calls other = some ⟨socket, another, .scheduleRecheck⟩ →
      other = call

/-- How large the sets may be. -/
structure Sized (options : SocketOptions) (hub : Hub) : Prop where
  sockets : hub.sockets.length ≤ options.perInstance
  pending : hub.pending.length ≤ options.pendingPerInstance
  byUser : ∀ userId, (hub.byUser userId).length ≤ options.perUser
  stopped : hub.stopping = true → hub.sockets = []

section Books

variable {options : SocketOptions} {hub after : Hub} {socket other : SocketId}
  {fresh : Option SocketId} {state : SocketState} {ending : Ending} {handle : TimerId}

/-! ## Ending a socket -/

/-- What ending a live socket changes in the books. -/
structure Leaves (hub : Hub) (socket : SocketId) (state : SocketState) (ending : Ending)
    (after : Hub) : Prop where
  sockets : after.sockets = hub.sockets.filter (· ≠ socket)
  pending : after.pending = hub.pending.filter (· ≠ socket)
  stopping : after.stopping = hub.stopping
  closes : after.closes = hub.closes ++ [ending]
  told : after.told = hub.told ++ (goodbye (socket, ending)).toList
  cleared : ∀ handle ∈ handlesOf state, after.timers handle = none

theorem release_clears (mine : handle ∈ handlesOf state) :
    (hub.release socket state).timers handle = none := by
  cases state with
  | awaitingAuth authTimer =>
    rw [handlesOf, List.mem_singleton] at mine
    simp [Hub.release, clear_timers, mine]
  | authenticating authTimer =>
    rw [handlesOf, List.mem_singleton] at mine
    simp [Hub.release, clear_timers, mine]
  | openFor userId token recheckTimer expiryTimer =>
    cases expiryTimer with
    | none =>
      simp only [handlesOf, Option.toList, List.mem_singleton] at mine
      simp [Hub.release, Hub.unlist, clear_timers, mine]
    | some expiryTimer =>
      simp only [handlesOf, Option.toList, List.mem_cons, List.not_mem_nil, or_false] at mine
      rcases mine with rfl | rfl
      · simp [Hub.release, Hub.unlist, clear_timers]
      · simp [Hub.release, Hub.unlist, clear_timers]
  | closed => cases mine

theorem release_books : (hub.release socket state).sockets = hub.sockets ∧
    (hub.release socket state).pending = hub.pending ∧
    (hub.release socket state).stopping = hub.stopping ∧
    (hub.release socket state).closes = hub.closes ∧
    (hub.release socket state).told = hub.told := by
  cases state with
  | openFor _ _ _ expiryTimer => cases expiryTimer <;> exact ⟨rfl, rfl, rfl, rfl, rfl⟩
  | _ => exact ⟨rfl, rfl, rfl, rfl, rfl⟩

theorem forget_books : (hub.forget socket).sockets = hub.sockets.filter (· ≠ socket) ∧
    (hub.forget socket).pending = hub.pending.filter (· ≠ socket) ∧
    (hub.forget socket).stopping = hub.stopping ∧ (hub.forget socket).closes = hub.closes ∧
    (hub.forget socket).told = hub.told := by
  unfold Hub.forget Hub.stopHeart
  dsimp only
  split
  · split <;> exact ⟨rfl, rfl, rfl, rfl, rfl⟩
  · exact ⟨rfl, rfl, rfl, rfl, rfl⟩

theorem farewell_books : (hub.farewell socket ending).sockets = hub.sockets ∧
    (hub.farewell socket ending).pending = hub.pending ∧
    (hub.farewell socket ending).stopping = hub.stopping ∧
    (hub.farewell socket ending).timers = hub.timers ∧
    (hub.farewell socket ending).closes = hub.closes ++ [ending] ∧
    (hub.farewell socket ending).told = hub.told ++ (goodbye (socket, ending)).toList := by
  cases ending with
  | closed reason => exact ⟨rfl, rfl, rfl, rfl, rfl, rfl⟩
  | clientClosed => exact ⟨rfl, rfl, rfl, rfl, rfl, (List.append_nil _).symm⟩
  | noPong => exact ⟨rfl, rfl, rfl, rfl, rfl, rfl⟩

theorem end_leaves (found : hub.stateOf socket = some state) (live : state ≠ .closed) :
    Leaves hub socket state ending (hub.endSocket socket ending) := by
  have is : hub.endSocket socket ending =
      (((hub.setState socket .closed).release socket state).forget socket).farewell socket
        ending := by
    unfold Hub.endSocket
    rw [found]
    cases state with
    | closed => exact absurd rfl live
    | _ => rfl
  obtain ⟨sockets, pending, stopping, closes, told⟩ :=
    @release_books (hub.setState socket .closed) socket state
  obtain ⟨sockets', pending', stopping', closes', told'⟩ :=
    @forget_books ((hub.setState socket .closed).release socket state) socket
  obtain ⟨lastly, waiting_, stops, timers, counted, farewell⟩ :=
    @farewell_books (((hub.setState socket .closed).release socket state).forget socket) socket ending
  rw [is]
  refine ⟨?_, ?_, ?_, ?_, ?_, ?_⟩
  · rw [lastly, sockets', sockets]
    rfl
  · rw [waiting_, pending', pending]
    rfl
  · rw [stops, stopping', stopping]
    rfl
  · rw [counted, closes', closes]
    rfl
  · rw [farewell, told', told]
    rfl
  · intro handle mine
    rw [timers]
    have gone := @release_clears (hub.setState socket .closed) socket state handle mine
    rcases (@forget_quiets _ socket).timers handle with same | ⟨none_, -⟩
    · exact same.trans gone
    · exact none_

theorem end_booked (booked : Booked fresh hub) : Booked fresh (hub.endSocket socket ending) := by
  cases found : hub.stateOf socket with
  | none =>
    rw [end_closed (.inl found)]
    exact booked
  | some state =>
    by_cases live : state = .closed
    · rw [end_closed (.inr (live ▸ found))]
      exact booked
    · have ends : Ends hub socket state (hub.endSocket socket ending) := end_ends found live
      have leaves : Leaves hub socket state ending (hub.endSocket socket ending) :=
        end_leaves found live
      refine ⟨?_, ?_, ?_, ?_, ?_, ?_, ?_⟩
      · intro other
        rw [leaves.sockets, List.mem_filter, booked.live, ends.states]
        by_cases same : socket = other
        · simp [same]
        · simp [same, Ne.symm same]
      · intro other
        rw [leaves.pending, List.mem_filter, booked.waits, ends.states]
        by_cases same : socket = other
        · simp [same]
        · simp [same, Ne.symm same]
      · rw [leaves.sockets]
        exact booked.sockets.filter _
      · rw [leaves.pending]
        exact booked.pending.filter _
      · intro userId
        rw [ends.byUser]
        cases state with
        | openFor owner token recheckTimer expiryTimer =>
          have is : (hub.release socket (.openFor owner token recheckTimer expiryTimer)).byUser =
              Function.update hub.byUser owner ((hub.byUser owner).filter (· ≠ socket)) := by
            cases expiryTimer <;> rfl
          rw [is, Function.update_apply]
          split
          · exact (booked.listed owner).filter _
          · exact booked.listed userId
        | _ => exact booked.listed userId
      · intro handle timer other set mine
        rcases ends.timers handle with same | ⟨none_, -⟩
        · obtain ⟨state', at_, named⟩ := booked.armed handle timer other (same.symm.trans set) mine
          rw [ends.states]
          by_cases is : socket = other
          · subst is
            rw [found] at at_
            cases at_
            rw [leaves.cleared handle named] at set
            cases set
          · exact ⟨state', by rw [if_neg is, at_], named⟩
        · rw [none_] at set
          cases set
      · intro call other token waits
        rw [ends.calls] at waits ⊢
        obtain ⟨unset, once⟩ := booked.checks call other token waits
        refine ⟨?_, once⟩
        intro userId mine recheckTimer expiryTimer at_
        rw [ends.states] at at_
        split at at_
        · cases at_
        · rcases ends.timers recheckTimer with same | ⟨none_, -⟩
          · exact same.trans (unset userId mine recheckTimer expiryTimer at_)
          · exact none_

theorem end_all_booked (booked : Booked fresh hub) (sockets : List SocketId) :
    Booked fresh (hub.endAll ending sockets) := by
  induction sockets generalizing hub with
  | nil => exact booked
  | cons socket rest ih => exact ih (end_booked booked)

/-! ## What leaves the books alone -/

/-- Of the sets, the states and the tellings nothing is changed; timers are cleared or are no
socket's, and no check is asked. -/
structure Aside (hub after : Hub) : Prop where
  states : ∀ socket, after.stateOf socket = hub.stateOf socket
  sockets : after.sockets = hub.sockets
  pending : after.pending = hub.pending
  byUser : after.byUser = hub.byUser
  closes : after.closes = hub.closes
  told : after.told.filter (·.2.isLast) = hub.told.filter (·.2.isLast)
  timers : ∀ handle timer, after.timers handle = some timer →
    timer.task.socket? = none ∨ hub.timers handle = some timer
  unset : ∀ socket userId token recheckTimer expiryTimer,
    hub.stateOf socket = some (.openFor userId token recheckTimer expiryTimer) →
      hub.timers recheckTimer = none → after.timers recheckTimer = none
  calls : ∀ call socket token, waiting after.calls call = some ⟨socket, token, .scheduleRecheck⟩ →
    waiting hub.calls call = some ⟨socket, token, .scheduleRecheck⟩

theorem Aside.booked (aside : Aside hub after) (booked : Booked fresh hub) : Booked fresh after where
  live := by
    intro socket
    rw [aside.sockets, aside.states]
    exact booked.live socket
  waits := by
    intro socket
    rw [aside.pending, aside.states]
    exact booked.waits socket
  sockets := aside.sockets ▸ booked.sockets
  pending := aside.pending ▸ booked.pending
  listed := aside.byUser ▸ booked.listed
  armed := by
    intro handle timer socket set mine
    rw [aside.states]
    rcases aside.timers handle timer set with none_ | before
    · rw [none_] at mine
      cases mine
    · exact booked.armed handle timer socket before mine
  checks := by
    intro call socket token waits
    obtain ⟨unset, once⟩ := booked.checks call socket token (aside.calls call socket token waits)
    refine ⟨?_, fun other another waits => once other another (aside.calls other socket another waits)⟩
    intro userId mine recheckTimer expiryTimer at_
    rw [aside.states] at at_
    exact aside.unset _ _ _ _ _ at_ (unset userId mine recheckTimer expiryTimer at_)

theorem Aside.sized (aside : Aside hub after) (stopping : after.stopping = hub.stopping)
    (sized : Sized options hub) : Sized options after where
  sockets := aside.sockets ▸ sized.sockets
  pending := aside.pending ▸ sized.pending
  byUser := aside.byUser ▸ sized.byUser
  stopped := by
    rw [stopping, aside.sockets]
    exact sized.stopped

theorem alive_aside (alive : Bool) : Aside hub (hub.setAlive socket alive) where
  states := fun _ => Hub.stateOf_setAlive alive
  sockets := rfl
  pending := rfl
  byUser := rfl
  closes := rfl
  told := rfl
  timers := fun _ _ set => .inr set
  unset := fun _ _ _ _ _ _ unset => unset
  calls := fun _ _ _ waits => waits

theorem tell_aside {sent : Sent} (more : sent.isLast = false) : Aside hub (hub.tell socket sent) where
  states := fun _ => rfl
  sockets := rfl
  pending := rfl
  byUser := rfl
  closes := rfl
  told := by
    have last : [(socket, sent)].filter (·.2.isLast) = [] := by simp [more]
    rw [Hub.tell, List.filter_append, last, List.append_nil]
  timers := fun _ _ set => .inr set
  unset := fun _ _ _ _ _ _ unset => unset
  calls := fun _ _ _ waits => waits

theorem notify_aside (userIds : List (Option UserId)) (nudge : Nudge) (broken : SocketId → Bool) :
    Aside hub (hub.notify userIds nudge broken) where
  states := fun _ => rfl
  sockets := rfl
  pending := rfl
  byUser := rfl
  closes := rfl
  told := by
    have none_ : ∀ reached : List SocketId,
        (reached.map fun socket => (socket, Sent.messages nudge)).filter (·.2.isLast) = [] := by
      intro reached
      simp [Sent.isLast]
    rw [Hub.notify, List.filter_append, none_, List.append_nil]
  timers := fun _ _ set => .inr set
  unset := fun _ _ _ _ _ _ unset => unset
  calls := fun _ _ _ waits => waits

theorem clear_aside : Aside hub (hub.clearTimeout handle) where
  states := fun _ => rfl
  sockets := rfl
  pending := rfl
  byUser := rfl
  closes := rfl
  told := rfl
  timers := by
    intro other timer set
    rw [clear_timers] at set
    exact .inr (Option.ite_none_left_eq_some.mp set).2
  unset := by
    intro _ _ _ recheckTimer _ _ unset
    rw [clear_timers, unset, ite_self]
  calls := fun _ _ _ waits => waits

theorem known_aside {call : Nat} {reply : Reply} : Aside hub (hub.known call reply) where
  states := fun _ => rfl
  sockets := rfl
  pending := rfl
  byUser := rfl
  closes := rfl
  told := rfl
  timers := fun _ _ set => .inr set
  unset := fun _ _ _ _ _ _ unset => unset
  calls := fun _ _ _ waits => (waiting_answer.mp waits).2

theorem heart_aside (timed : Timed hub) : Aside hub (hub.startHeart options) := by
  unfold Hub.startHeart
  split
  · exact ⟨fun _ => rfl, rfl, rfl, rfl, rfl, rfl, fun _ _ set => .inr set,
      fun _ _ _ _ _ _ unset => unset, fun _ _ _ waits => waits⟩
  · refine ⟨fun _ => rfl, rfl, rfl, rfl, rfl, rfl, ?_, ?_, fun _ _ _ waits => waits⟩
    · intro other timer set
      simp only [Hub.setTimeout, Function.update_apply] at set
      split at set
      · cases set
        exact .inl rfl
      · exact .inr set
    · intro socket userId token recheckTimer expiryTimer at_ unset
      have old := (timed.held socket _ at_).1.old
      simp only [Hub.setTimeout, Function.update_apply, if_neg (Nat.ne_of_lt old)]
      exact unset

/-- The pings' own timer is set again. -/
theorem again_aside {timer : Timer} (found : hub.timers handle = some timer) (due : Millis) :
    Aside hub { hub with timers := Function.update hub.timers handle (some ⟨due, .beat⟩) } := by
  refine ⟨fun _ => rfl, rfl, rfl, rfl, rfl, rfl, ?_, ?_, fun _ _ _ waits => waits⟩
  · intro other set is
    simp only [Function.update_apply] at is
    split at is
    · cases is
      exact .inl rfl
    · exact .inr is
  · intro socket userId token recheckTimer expiryTimer at_ unset
    have apart : recheckTimer ≠ handle := by
      rintro rfl
      rw [unset] at found
      cases found
    simp only [Function.update_apply, if_neg apart]
    exact unset

theorem beat_one_booked (booked : Booked fresh hub) : Booked fresh (hub.beatOne socket) := by
  unfold Hub.beatOne
  split
  · exact (tell_aside rfl).booked ((alive_aside false).booked booked)
  · exact end_booked booked
  · exact booked

theorem beat_booked (booked : Booked fresh hub) : Booked fresh hub.beat := by
  unfold Hub.beat
  generalize hub.sockets = sockets
  induction sockets generalizing hub with
  | nil => exact booked
  | cons socket rest ih => exact ih (beat_one_booked booked)

/-! ## Sizes only shrink -/

/-- What is held after is held before. -/
structure Shrinks (hub after : Hub) : Prop where
  sockets : after.sockets.Sublist hub.sockets
  pending : after.pending.Sublist hub.pending
  byUser : ∀ userId, (after.byUser userId).Sublist (hub.byUser userId)
  stopping : after.stopping = hub.stopping

theorem Shrinks.sized (shrinks : Shrinks hub after) (sized : Sized options hub) :
    Sized options after where
  sockets := shrinks.sockets.length_le.trans sized.sockets
  pending := shrinks.pending.length_le.trans sized.pending
  byUser userId := (shrinks.byUser userId).length_le.trans (sized.byUser userId)
  stopped := by
    intro stopping
    have none_ := sized.stopped (shrinks.stopping.symm.trans stopping)
    exact List.sublist_nil.mp (none_ ▸ shrinks.sockets)

theorem Shrinks.refl (hub : Hub) : Shrinks hub hub :=
  ⟨List.Sublist.refl _, List.Sublist.refl _, fun _ => List.Sublist.refl _, rfl⟩

theorem Shrinks.trans {last : Hub} (first : Shrinks hub after) (second : Shrinks after last) :
    Shrinks hub last :=
  ⟨second.sockets.trans first.sockets, second.pending.trans first.pending,
    fun userId => (second.byUser userId).trans (first.byUser userId),
    second.stopping.trans first.stopping⟩

theorem release_shrinks (userId : UserId) :
    ((hub.release socket state).byUser userId).Sublist (hub.byUser userId) := by
  cases state with
  | openFor owner token recheckTimer expiryTimer =>
    have is : (hub.release socket (.openFor owner token recheckTimer expiryTimer)).byUser =
        Function.update hub.byUser owner ((hub.byUser owner).filter (· ≠ socket)) := by
      cases expiryTimer <;> rfl
    rw [is, Function.update_apply]
    split
    · rename_i same
      rw [same]
      exact List.filter_sublist
    · exact List.Sublist.refl _
  | _ => exact List.Sublist.refl _

theorem end_shrinks : Shrinks hub (hub.endSocket socket ending) := by
  cases found : hub.stateOf socket with
  | none =>
    rw [end_closed (.inl found)]
    exact Shrinks.refl hub
  | some state =>
    by_cases live : state = .closed
    · rw [end_closed (.inr (live ▸ found))]
      exact Shrinks.refl hub
    · have ends : Ends hub socket state (hub.endSocket socket ending) := end_ends found live
      have leaves : Leaves hub socket state ending (hub.endSocket socket ending) :=
        end_leaves found live
      refine ⟨?_, ?_, ?_, leaves.stopping⟩
      · rw [leaves.sockets]
        exact List.filter_sublist
      · rw [leaves.pending]
        exact List.filter_sublist
      · intro userId
        rw [ends.byUser]
        exact release_shrinks userId

theorem end_all_shrinks (sockets : List SocketId) : Shrinks hub (hub.endAll ending sockets) := by
  induction sockets generalizing hub with
  | nil => exact Shrinks.refl hub
  | cons socket rest ih => exact end_shrinks.trans ih

theorem beat_shrinks : Shrinks hub hub.beat := by
  unfold Hub.beat
  generalize hub.sockets = sockets
  induction sockets generalizing hub with
  | nil => exact Shrinks.refl hub
  | cons socket rest ih =>
    have one : Shrinks hub (hub.beatOne socket) := by
      unfold Hub.beatOne
      split
      · exact ⟨List.Sublist.refl _, List.Sublist.refl _, fun _ => List.Sublist.refl _, rfl⟩
      · exact end_shrinks
      · exact Shrinks.refl hub
    exact one.trans ih

/-! ## Connecting -/

theorem end_others (apart : socket ≠ other) :
    (hub.endSocket socket ending).stateOf other = hub.stateOf other := by
  cases found : hub.stateOf socket with
  | none => rw [end_closed (.inl found)]
  | some state =>
    by_cases live : state = .closed
    · rw [end_closed (.inr (live ▸ found))]
    · rw [(end_ends found live).states, if_neg apart]

theorem accept_booked (timed : Timed hub) (booked : Booked none hub) :
    Booked (some hub.objects.length) (hub.accept options) := by
  have unlisted : hub.objects.length ∉ hub.sockets := by
    intro member
    obtain ⟨-, _, found, -⟩ := (booked.live _).mp member
    rw [new_unknown] at found
    cases found
  have unwaited : hub.objects.length ∉ hub.pending := by
    intro member
    obtain ⟨-, _, found | found⟩ := (booked.waits _).mp member
    · rw [new_unknown] at found
      cases found
    · rw [new_unknown] at found
      cases found
  refine ⟨?_, ?_, booked.sockets, booked.pending, booked.listed, ?_, ?_⟩
  · intro other
    rw [accept_state]
    by_cases new : other = hub.objects.length
    · subst new
      simpa [Hub.accept, Hub.setTimeout] using unlisted
    · rw [if_neg new]
      simpa [Hub.accept, Hub.setTimeout, Ne.symm new] using booked.live other
  · intro other
    rw [accept_state]
    by_cases new : other = hub.objects.length
    · subst new
      simpa [Hub.accept, Hub.setTimeout] using unwaited
    · rw [if_neg new]
      simpa [Hub.accept, Hub.setTimeout, Ne.symm new] using booked.waits other
  · intro handle timer other set mine
    simp only [Hub.accept, Hub.setTimeout, Function.update_apply] at set
    rw [accept_state]
    split at set
    · rename_i is
      cases set
      cases mine
      exact ⟨_, if_pos rfl, List.mem_singleton.mpr is⟩
    · obtain ⟨state, found, named⟩ := booked.armed handle timer other set mine
      refine ⟨state, ?_, named⟩
      rw [if_neg, found]
      rintro rfl
      rw [new_unknown] at found
      cases found
  · intro call other token waits
    obtain ⟨unset, once⟩ := booked.checks call other token waits
    refine ⟨?_, once⟩
    intro userId mine recheckTimer expiryTimer at_
    rw [accept_state] at at_
    split at at_
    · cases at_
    · have old := (timed.held other _ at_).1.old
      simp only [Hub.accept, Hub.setTimeout, Function.update_apply, if_neg (Nat.ne_of_lt old)]
      exact unset userId mine recheckTimer expiryTimer at_

/-- A socket is refused and nothing changed, or both sets have room for it: the waiting
room had it, or closed a socket that waits for its auth frame. -/
theorem accommodate_cases : (∃ reason, hub.accommodate options = (hub, some reason)) ∨
    hub.stopping = false ∧ hub.sockets.length < options.perInstance ∧
      (hub.pending.length < options.pendingPerInstance ∧ hub.accommodate options = (hub, none) ∨
        ∃ oldest authTimer, oldest ∈ hub.pending ∧
          hub.stateOf oldest = some (.awaitingAuth authTimer) ∧
          hub.accommodate options = (hub.endSocket oldest (.closed .tooManyPending), none)) := by
  unfold Hub.accommodate
  split
  · exact .inl ⟨_, rfl⟩
  · rename_i going
    split
    · exact .inl ⟨_, rfl⟩
    · rename_i space
      unfold Hub.makeRoomToWait
      split
      · rename_i waits
        exact .inr ⟨eq_false_of_ne_true going, Nat.lt_of_not_le space, .inl ⟨waits, rfl⟩⟩
      · split
        · rename_i oldest found
          have awaiting := List.find?_some found
          unfold Hub.isAwaiting at awaiting
          split at awaiting
          · rename_i authTimer state
            exact .inr ⟨eq_false_of_ne_true going, Nat.lt_of_not_le space,
              .inr ⟨oldest, authTimer, List.mem_of_find?_eq_some found, state, rfl⟩⟩
          · cases awaiting
        · exact .inl ⟨_, rfl⟩

/-- The new socket is not the one that makes room. -/
theorem waiting_other (booked : Booked fresh hub) (waits : other ∈ hub.pending)
    (new : fresh = some socket) : other ≠ socket := by
  rintro rfl
  exact ((booked.waits other).mp waits).1 new

theorem filter_unlisted {sockets : List SocketId} (unlisted : socket ∉ sockets) :
    (sockets ++ [socket]).filter (· ≠ socket) = sockets := by
  have kept : sockets.filter (· ≠ socket) = sockets := by
    rw [List.filter_eq_self]
    intro other member
    rw [decide_eq_true_eq]
    rintro rfl
    exact unlisted member
  rw [List.filter_append, kept]
  simp

/-- The new socket is entered in both sets. -/
def Hub.enter (hub : Hub) (socket : SocketId) : Hub :=
  { hub with sockets := hub.sockets ++ [socket], pending := hub.pending ++ [socket] }

theorem nodup_append_one {sockets : List SocketId} (once : sockets.Nodup)
    (unlisted : socket ∉ sockets) : (sockets ++ [socket]).Nodup := by
  rw [List.nodup_append]
  refine ⟨once, List.nodup_singleton _, ?_⟩
  rintro other before last member rfl
  rw [List.mem_singleton.mp member] at before
  exact unlisted before

theorem enter_booked {authTimer : TimerId} (booked : Booked (some socket) hub)
    (found : hub.stateOf socket = some (.awaitingAuth authTimer)) :
    Booked none (hub.enter socket) := by
  refine ⟨?_, ?_, ?_, ?_, booked.listed, booked.armed, booked.checks⟩
  · intro other
    have states : (hub.enter socket).stateOf other = hub.stateOf other := rfl
    rw [states, Hub.enter, List.mem_append, List.mem_singleton, booked.live]
    by_cases same : other = socket
    · simp [same, found]
    · simp [same, Ne.symm same]
  · intro other
    have states : (hub.enter socket).stateOf other = hub.stateOf other := rfl
    rw [states, Hub.enter, List.mem_append, List.mem_singleton, booked.waits]
    by_cases same : other = socket
    · simp [same, found]
    · simp [same, Ne.symm same]
  · exact nodup_append_one booked.sockets fun member => ((booked.live socket).mp member).1 rfl
  · exact nodup_append_one booked.pending fun member => ((booked.waits socket).mp member).1 rfl

/-- Whom the hub makes room by closing, if any, waits for its auth frame: the hub that the new
socket is entered in. -/
theorem room_booked (booked : Booked (some socket) hub) {authTimer : TimerId}
    (found : hub.stateOf socket = some (.awaitingAuth authTimer)) :
    Booked (some socket) (hub.accommodate options).1 ∧
      (hub.accommodate options).1.stateOf socket = some (.awaitingAuth authTimer) := by
  rcases @accommodate_cases options hub with ⟨reason, is⟩ | ⟨-, -, ⟨-, is⟩ | ⟨oldest, _, waits, -, is⟩⟩
  · rw [is]
    exact ⟨booked, found⟩
  · rw [is]
    exact ⟨booked, found⟩
  · rw [is]
    exact ⟨end_booked booked, (end_others (waiting_other booked waits rfl)).trans found⟩

theorem enter_sized (sized : Sized options hub) {room : Hub}
    (taken : hub.accommodate options = (room, none)) : Sized options (room.enter socket) := by
  rcases @accommodate_cases options hub with
    ⟨reason, is⟩ | ⟨going, space, ⟨waits, is⟩ | ⟨oldest, authTimer, waits, found, is⟩⟩
  · cases is.symm.trans taken
  · cases is.symm.trans taken
    refine ⟨?_, ?_, sized.byUser, ?_⟩
    · rw [Hub.enter, List.length_append]
      exact space
    · rw [Hub.enter, List.length_append]
      exact waits
    · intro stopping
      rw [Hub.enter, going] at stopping
      cases stopping
  · cases is.symm.trans taken
    have leaves : Leaves hub oldest (.awaitingAuth authTimer) (.closed .tooManyPending)
        (hub.endSocket oldest (.closed .tooManyPending)) := end_leaves found (by simp)
    have shrinks : Shrinks hub (hub.endSocket oldest (.closed .tooManyPending)) := end_shrinks
    have fewer : (hub.pending.filter (· ≠ oldest)).length < hub.pending.length := by
      rw [List.length_filter_lt_length_iff_exists]
      exact ⟨oldest, waits, by simp⟩
    refine ⟨?_, ?_, (shrinks.sized sized).byUser, ?_⟩
    · rw [Hub.enter, List.length_append]
      exact Nat.lt_of_le_of_lt shrinks.sockets.length_le space
    · rw [Hub.enter, List.length_append, leaves.pending]
      exact Nat.lt_of_lt_of_le fewer sized.pending
    · intro stopping
      rw [Hub.enter, leaves.stopping, going] at stopping
      cases stopping

/-- A socket that is refused leaves the sets as they were. -/
theorem refused_shrinks {room : Hub} {authTimer : TimerId} (booked : Booked (some socket) room)
    (found : room.stateOf socket = some (.awaitingAuth authTimer)) :
    Shrinks room ((room.enter socket).endSocket socket ending) := by
  have at_ : (room.enter socket).stateOf socket = some (.awaitingAuth authTimer) := found
  have leaves : Leaves (room.enter socket) socket (.awaitingAuth authTimer) ending
      ((room.enter socket).endSocket socket ending) := end_leaves at_ (by simp)
  have ends : Ends (room.enter socket) socket (.awaitingAuth authTimer)
      ((room.enter socket).endSocket socket ending) := end_ends at_ (by simp)
  refine ⟨?_, ?_, ?_, leaves.stopping⟩
  · rw [leaves.sockets, Hub.enter]
    rw [filter_unlisted fun member => ((booked.live socket).mp member).1 rfl]
  · rw [leaves.pending, Hub.enter]
    rw [filter_unlisted fun member => ((booked.waits socket).mp member).1 rfl]
  · intro userId
    rw [ends.byUser]
    exact List.Sublist.refl _

theorem connect_is : ∃ room refused, (hub.accept options).accommodate options = (room, refused) ∧
    hub.connect options = match refused with
      | some reason => (room.enter hub.objects.length).endSocket hub.objects.length (.closed reason)
      | none => (room.enter hub.objects.length).startHeart options :=
  ⟨_, _, rfl, rfl⟩

theorem connect_books (coherent : Coherent options hub) (booked : Booked none hub)
    (sized : Sized options hub) :
    Booked none (hub.connect options) ∧ Sized options (hub.connect options) := by
  have accepted : Booked (some hub.objects.length) (hub.accept options) :=
    accept_booked coherent.timed booked
  have fits : Sized options (hub.accept options) :=
    ⟨sized.sockets, sized.pending, sized.byUser, sized.stopped⟩
  have found : (hub.accept options).stateOf hub.objects.length = some (.awaitingAuth hub.handles) := by
    rw [accept_state, if_pos rfl]
  have timed := (accept_coherent coherent).timed
  obtain ⟨room, refused, taken, is⟩ := @connect_is options hub
  obtain ⟨roomed, waits⟩ := @room_booked options _ _ accepted _ found
  have closes : Closes (hub.accept options) ((hub.accept options).accommodate options).1 :=
    accommodate_closes timed
  rw [taken] at roomed waits closes
  have entered : Booked none (room.enter hub.objects.length) := enter_booked roomed waits
  rw [is]
  cases refused with
  | some reason =>
    refine ⟨end_booked entered, ?_⟩
    have same : room = hub.accept options := by
      rcases @accommodate_cases options (hub.accept options) with
        ⟨_, is⟩ | ⟨-, -, ⟨-, is⟩ | ⟨_, _, -, -, is⟩⟩
      · cases is.symm.trans taken
        rfl
      · cases is.symm.trans taken
      · cases is.symm.trans taken
    exact (refused_shrinks roomed waits).sized (same ▸ fits)
  | none =>
    have timed : Timed (room.enter hub.objects.length) :=
      same_timed (closes.timed timed) (fun _ => rfl) rfl rfl rfl rfl
    have aside : Aside (room.enter hub.objects.length)
        ((room.enter hub.objects.length).startHeart options) := heart_aside timed
    refine ⟨aside.booked entered, aside.sized ?_ (enter_sized fits taken)⟩
    unfold Hub.startHeart
    split <;> rfl

end Books

end Foc.Chat
