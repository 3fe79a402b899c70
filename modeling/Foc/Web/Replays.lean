import Mathlib
import Foc.Web.SignedIn

/-!
A call is never replayed as someone else (`authed` of `web-app/src/lib/session.ts`). The owner
of a call is read from the tab once its refresh has come back, not from the refresh, so a
sign-in or a sign-out in between makes the call another's.
-/
namespace Foc.Web
open Library.EventLoop

/-- The token that the function `authed` was given runs with. -/
def AuthedStage.token? : AuthedStage → Option Token
  | .calls used _ => some used
  | .retries used => some used
  | _ => none

/-- What a refresh has come back with. -/
def Stage.found? : Stage → Option Current
  | .resolved (.ok found) => some found
  | .applied (.ok found) => some found
  | .done (.ok found) => some found
  | _ => none

def Tab.foundOf (tab : Tab) (refresh : Nat) : Option Current := (tab.stageOf refresh).bind Stage.found?

def Tab.userId (tab : Tab) : Option UserId := tab.current.map (·.userId)

section Account

variable (account : Token → UserId)

/-- A token of the account it is said to be of. -/
def Current.Honest (found : Current) : Prop :=
  found.token ≠ "" ∧ found.userId ≠ "" ∧ account found.token = found.userId

instance (found : Current) : Decidable (found.Honest account) :=
  inferInstanceAs (Decidable (_ ∧ _))

/-- The service names the account of each token it gives. -/
def honest : Event → Bool
  | .signedIn token userId => decide (Current.Honest account ⟨token, userId⟩)
  | .answered _ (.refreshed found) => decide (found.Honest account)
  | _ => true

/-- The events of a tab whose service is honest. -/
def honestTurn (locks : Bool) (tab : Tab) (event : Event) : Option Tab :=
  if honest account event then turn locks tab event else none

end Account

/-- A call goes on after its refresh while the account that came back is signed in; one that is
to be replayed may also find that its owner is not. -/
def steady (tab : Tab) : Event → Bool
  | .refreshed call =>
      match tab.authed[call]? with
      | some (.awaitsToken refresh) =>
          (tab.foundOf refresh).all fun found => tab.userId == some found.userId
      | some (.awaitsRetry owner refresh) =>
          (tab.foundOf refresh).all fun found => tab.userId != owner || owner == some found.userId
      | _ => true
  | _ => true

def steadyTurn (account : Token → UserId) (locks : Bool) (tab : Tab) (event : Event) : Option Tab :=
  if steady tab event then honestTurn account locks tab event else none

/-! ## What an event does to a call -/

/-- `owner && current?.userId !== owner` does not hold. -/
def Passes (tab : Tab) (owner : Option UserId) : Prop :=
  ∀ user, owner = some user → user ≠ "" → tab.userId = some user

/-- Where one call goes from where it stood. -/
inductive Moves (tab : Tab) (event : Event) (call : Nat) : AuthedStage → AuthedStage → Prop where
  | returns (old : AuthedStage) : Moves tab event call old .returned
  | throws (old : AuthedStage) (error : Failure) : Moves tab event call old (.threw error)
  | runs (refresh : Nat) (found : Current) (goes : event = .refreshed call)
      (came : tab.foundOf refresh = some found) :
      Moves tab event call (.awaitsToken refresh) (.calls found.token tab.userId)
  | waits (used : Token) (owner : Option UserId) (refresh : Nat) :
      Moves tab event call (.calls used owner) (.awaitsRetry owner refresh)
  | replays (used : Token) (owner : Option UserId) (current : Current)
      (signed : tab.current = some current) (passes : Passes tab owner) :
      Moves tab event call (.calls used owner) (.retries current.token)
  | resumes (owner : Option UserId) (refresh : Nat) (found : Current)
      (goes : event = .refreshed call) (came : tab.foundOf refresh = some found)
      (passes : Passes tab owner) :
      Moves tab event call (.awaitsRetry owner refresh) (.retries found.token)

/-- The calls before an event and after it. -/
inductive Calling (tab : Tab) (event : Event) (next : Tab) : Prop where
  | same (authed : next.authed = tab.authed)
  | begins (current : Current) (signed : tab.current = some current)
      (authed : next.authed = tab.authed ++ [.calls current.token (some current.userId)])
  | asks (refresh : Nat) (authed : next.authed = tab.authed ++ [.awaitsToken refresh])
  | moves (call : Nat) (old new : AuthedStage) (stood : tab.authed[call]? = some old)
      (move : Moves tab event call old new) (authed : next.authed = tab.authed.set call new)

section Calling

variable {tab next : Tab} {locks : Bool}

theorem rotate_authed (refresh : Nat) : (tab.rotate refresh).authed = tab.authed := by
  unfold Tab.rotate
  split <;> rfl

theorem refresh_authed : (tab.refresh locks).1.authed = tab.authed := by
  unfold Tab.refresh
  split
  · rfl
  · split
    · rfl
    · exact @rotate_authed tab.begun _

theorem apply_authed (refresh started : Nat) (result : RefreshResult) :
    (tab.apply refresh started result).authed = tab.authed := by
  unfold Tab.apply
  split
  · rfl
  · cases result with
    | ok found =>
      dsimp only
      split
      · split <;> rfl
      · rfl
    | ended => rfl
    | unavailable error => rfl

theorem answered_authed {call : Nat} {asked : Ask} {reply : Reply}
    (went : tab.answered call asked reply = some next) : next.authed = tab.authed := by
  unfold Tab.answered at went
  dsimp only at went
  split at went
  · cases went
    rfl
  · cases went
    rfl
  · rename_i revoker
    cases went
    cases revoker <;> rfl
  · rename_i revoker _
    cases went
    cases revoker <;> rfl
  · cases went

/-- A replay goes through, or it is refused. -/
theorem replay_authed (call : Nat) (owner : Option UserId) (token : Token) :
    Passes tab owner ∧ tab.replay call owner token = tab.setAuthed call (.retries token) ∨
      ∃ error, tab.replay call owner token = tab.setAuthed call (.threw error) := by
  unfold Tab.replay
  cases owner with
  | none => exact .inl ⟨fun user is => absurd is.symm (Option.some_ne_none user), rfl⟩
  | some owner =>
    dsimp only
    split
    next => exact .inr ⟨_, rfl⟩
    next fine =>
      refine .inl ⟨?_, rfl⟩
      intro user is named
      cases is
      by_contra other
      exact fine ⟨named, other⟩

theorem replay_calling {event : Event} {call : Nat} {owner : Option UserId} {token : Token}
    {old : AuthedStage} (stood : tab.authed[call]? = some old)
    (move : Passes tab owner → Moves tab event call old (.retries token)) :
    Calling tab event (tab.replay call owner token) := by
  rcases @replay_authed tab call owner token with ⟨passes, is⟩ | ⟨error, is⟩
  · rw [is]
    exact .moves call old _ stood (move passes) rfl
  · rw [is]
    exact .moves call old _ stood (.throws old error) rfl

theorem retry_calling {event : Event} {call : Nat} {used : Token} {owner : Option UserId}
    (stood : tab.authed[call]? = some (.calls used owner)) :
    Calling tab event (tab.retry locks call used owner) := by
  have awaits : ∀ refresh, Calling tab event
      ((tab.refresh locks).1.setAuthed call (.awaitsRetry owner refresh)) := by
    intro refresh
    refine .moves call _ _ stood (.waits used owner refresh) ?_
    exact congrArg (·.set call (.awaitsRetry owner refresh)) refresh_authed
  unfold Tab.retry
  split
  next current signed =>
    split
    next => exact replay_calling stood fun passes => .replays used owner current signed passes
    next => exact awaits _
  next => exact awaits _

theorem ran_calling {event : Event} {call : Nat} {result : Except Failure Unit}
    (went : tab.ran locks call result = some next) : Calling tab event next := by
  unfold Tab.ran at went
  split at went
  next stood =>
    cases went
    exact .moves call _ _ stood (.returns _) rfl
  next used owner error stood =>
    split at went
    next =>
      split at went
      next =>
        cases went
        exact .moves call _ _ stood (.throws _ _) rfl
      next =>
        cases went
        exact retry_calling stood
    next =>
      cases went
      exact .moves call _ _ stood (.throws _ _) rfl
  next stood =>
    cases went
    exact .moves call _ _ stood (.returns _) rfl
  next stood =>
    cases went
    exact .moves call _ _ stood (.throws _ _) rfl
  next => cases went

theorem found_of {refresh started : Nat} {stage : Stage} {found : Current}
    (at_ : tab.refreshes[refresh]? = some ⟨started, stage⟩) (is : stage.found? = some found) :
    tab.foundOf refresh = some found := by
  simp [Tab.foundOf, Tab.stageOf, at_, is]

theorem fresh_ok {result : RefreshResult} {token : Token} (ok : Tab.fresh result = .ok token) :
    ∃ found, result = .ok found ∧ found.token = token := by
  cases result with
  | ok found =>
    cases ok
    exact ⟨found, rfl, rfl⟩
  | ended => cases ok
  | unavailable error => cases ok

theorem refreshed_calling {call : Nat} (went : tab.refreshed call = some next) :
    Calling tab (.refreshed call) next := by
  unfold Tab.refreshed at went
  split at went
  next refresh stood =>
    split at went
    next result at_ =>
      split at went
      next token ok =>
        obtain ⟨found, rfl, rfl⟩ := fresh_ok ok
        cases went
        exact .moves call _ _ stood (.runs refresh found rfl (found_of at_ rfl)) rfl
      next =>
        cases went
        exact .moves call _ _ stood (.throws _ _) rfl
    next => cases went
  next owner refresh stood =>
    split at went
    next result at_ =>
      split at went
      next token ok =>
        obtain ⟨found, rfl, rfl⟩ := fresh_ok ok
        cases went
        exact replay_calling stood fun passes =>
          .resumes owner refresh found rfl (found_of at_ rfl) passes
      next =>
        cases went
        exact .moves call _ _ stood (.throws _ _) rfl
    next => cases went
  next => cases went

theorem turn_calling {event : Event} (turned : turn locks tab event = some next) :
    Calling tab event next := by
  cases event with
  | refresh =>
    cases turned
    exact .same refresh_authed
  | lockGranted refresh =>
    simp only [turn] at turned
    split at turned
    · cases turned
      exact .same (rotate_authed refresh)
    · cases turned
  | lockRefused refresh error =>
    simp only [turn] at turned
    split at turned
    · cases turned
      exact .same rfl
    · cases turned
  | answered call reply =>
    obtain ⟨asked, -, went⟩ := Option.bind_eq_some_iff.mp turned
    exact .same (answered_authed went)
  | applies refresh =>
    simp only [turn] at turned
    split at turned
    · cases turned
      exact .same (apply_authed _ _ _)
    · cases turned
  | settles refresh =>
    simp only [turn] at turned
    split at turned
    · cases turned
      exact .same rfl
    · cases turned
  | leaves logout =>
    simp only [turn] at turned
    split at turned
    · cases turned
      refine .same ?_
      unfold Tab.leave
      dsimp only
      split <;> rfl
    · cases turned
  | retryLogout =>
    cases turned
    refine .same ?_
    unfold Tab.retryLogout
    split <;> rfl
  | message channel text =>
    simp only [turn] at turned
    split at turned
    · cases turned
      refine .same ?_
      unfold Tab.message
      split <;> rfl
    · cases turned
  | authed =>
    cases turned
    unfold Tab.begin
    split
    next current signed => exact .begins current signed rfl
    next => exact .asks _ (congrArg (· ++ _) refresh_authed)
  | refreshed call => exact refreshed_calling turned
  | ran call result => exact ran_calling turned
  | signedIn token userId =>
    cases turned
    exact .same rfl
  | logout =>
    cases turned
    exact .same rfl
  | connect channel =>
    cases turned
    exact .same rfl
  | disconnect channel =>
    cases turned
    exact .same rfl
  | otherTab pending =>
    cases turned
    exact .same rfl

end Calling

/-! ## Whose tokens a tab holds -/
section Found

variable {tab next : Tab} {locks : Bool} {refresh other : Nat} {stage : Stage} {found : Current}

theorem found_setStage (is : (tab.setStage other stage).foundOf refresh = some found) :
    tab.foundOf refresh = some found ∨ other = refresh ∧ stage.found? = some found := by
  rw [Tab.foundOf, Tab.stageOf_setStage] at is
  by_cases same : other = refresh
  · rw [if_pos same] at is
    cases at_ : tab.stageOf refresh with
    | none => simp [at_] at is
    | some before =>
      rw [at_] at is
      exact .inr ⟨same, is⟩
  · rw [if_neg same] at is
    exact .inl is

theorem found_begun (is : tab.begun.foundOf refresh = some found) :
    tab.foundOf refresh = some found := by
  rw [Tab.foundOf, Tab.stageOf_begun] at is
  split at is
  · cases is
  · exact is

theorem found_rotate (is : (tab.rotate other).foundOf refresh = some found) :
    tab.foundOf refresh = some found := by
  unfold Tab.rotate at is
  split at is
  · exact (found_setStage is).resolve_right (by simp [Stage.found?])
  · exact (found_setStage is).resolve_right (by simp [Stage.found?])

theorem found_refresh (is : (tab.refresh locks).1.foundOf refresh = some found) :
    tab.foundOf refresh = some found := by
  unfold Tab.refresh at is
  split at is
  · exact is
  · split at is
    · exact found_begun is
    · exact found_begun (found_rotate is)

theorem found_apply {started : Nat} {result : RefreshResult}
    (came : tab.stageOf other = some (.resolved result))
    (is : (tab.apply other started result).foundOf refresh = some found) :
    tab.foundOf refresh = some found ∨ tab.current = some found := by
  have kept : other = refresh → result = .ok found → tab.foundOf refresh = some found := by
    rintro rfl rfl
    rw [Tab.foundOf, came]
    rfl
  unfold Tab.apply at is
  split at is
  next =>
    rcases found_setStage is with before | ⟨-, now⟩
    · exact .inl before
    · refine .inr ?_
      cases signed : tab.current with
      | none => simp [signed, Stage.found?] at now
      | some current =>
        rw [signed] at now
        exact now
  next =>
    cases result with
    | ok got =>
      have moved : (tab.setStage other (.applied (.ok got))).foundOf refresh = some found := by
        dsimp only at is
        split at is
        · split at is
          · exact is
          · exact is
        · exact is
      rcases found_setStage moved with before | ⟨same, now⟩
      · exact .inl before
      · exact .inl (kept same (congrArg RefreshResult.ok (Option.some.inj now)))
    | ended => exact .inl ((found_setStage is).resolve_right (by simp [Stage.found?]))
    | unavailable error =>
      exact .inl ((found_setStage is).resolve_right (by simp [Stage.found?]))

theorem found_answered {call : Nat} {asked : Ask} {reply : Reply}
    (went : tab.answered call asked reply = some next) (is : next.foundOf refresh = some found) :
    tab.foundOf refresh = some found ∨ reply = .refreshed found := by
  unfold Tab.answered at went
  dsimp only at went
  split at went
  next got =>
    cases went
    rcases found_setStage is with before | ⟨-, now⟩
    · exact .inl before
    · exact .inr (congrArg Reply.refreshed (Option.some.inj now))
  next error =>
    cases went
    refine .inl ((found_setStage is).resolve_right ?_)
    unfold Tab.refused
    split <;> simp [Stage.found?]
  next revoker =>
    cases went
    cases revoker with
    | rotate refresh => exact .inl ((found_setStage is).resolve_right (by simp [Stage.found?]))
    | logout logout => exact .inl is
    | retryLogout => exact .inl is
  next revoker _ =>
    cases went
    cases revoker with
    | rotate refresh => exact .inl ((found_setStage is).resolve_right (by simp [Stage.found?]))
    | logout logout => exact .inl is
    | retryLogout => exact .inl is
  next => cases went

theorem found_replay {call : Nat} {owner : Option UserId} {token : Token}
    (is : (tab.replay call owner token).foundOf refresh = some found) :
    tab.foundOf refresh = some found := by
  unfold Tab.replay at is
  split at is
  · split at is
    · exact is
    · exact is
  · exact is

theorem found_retry {call : Nat} {used : Token} {owner : Option UserId}
    (is : (tab.retry locks call used owner).foundOf refresh = some found) :
    tab.foundOf refresh = some found := by
  unfold Tab.retry at is
  split at is
  · split at is
    · exact found_replay is
    · exact found_refresh is
  · exact found_refresh is

theorem found_ran {call : Nat} {result : Except Failure Unit}
    (went : tab.ran locks call result = some next) (is : next.foundOf refresh = some found) :
    tab.foundOf refresh = some found := by
  unfold Tab.ran at went
  split at went
  · cases went
    exact is
  · split at went
    · split at went
      · cases went
        exact is
      · cases went
        exact found_retry is
    · cases went
      exact is
  · cases went
    exact is
  · cases went
    exact is
  · cases went

theorem found_refreshed {call : Nat} (went : tab.refreshed call = some next)
    (is : next.foundOf refresh = some found) : tab.foundOf refresh = some found := by
  unfold Tab.refreshed at went
  split at went
  · split at went
    · split at went
      · cases went
        exact is
      · cases went
        exact is
    · cases went
  · split at went
    · split at went
      · cases went
        exact found_replay is
      · cases went
        exact is
    · cases went
  · cases went

/-- What a refresh came back with was answered, or is who was signed in. -/
theorem turn_found {event : Event} (turned : turn locks tab event = some next)
    (is : next.foundOf refresh = some found) : tab.foundOf refresh = some found ∨
      tab.current = some found ∨ ∃ call, event = .answered call (.refreshed found) := by
  cases event with
  | refresh =>
    cases turned
    exact .inl (found_refresh is)
  | lockGranted other =>
    simp only [turn] at turned
    split at turned
    · cases turned
      exact .inl (found_rotate is)
    · cases turned
  | lockRefused other error =>
    simp only [turn] at turned
    split at turned
    · cases turned
      exact .inl ((found_setStage is).resolve_right (by simp [Stage.found?]))
    · cases turned
  | answered call reply =>
    obtain ⟨asked, -, went⟩ := Option.bind_eq_some_iff.mp turned
    rcases found_answered went is with before | rfl
    · exact .inl before
    · exact .inr (.inr ⟨call, rfl⟩)
  | applies other =>
    simp only [turn] at turned
    split at turned
    next started result at_ =>
      cases turned
      have came : tab.stageOf other = some (.resolved result) := by simp [Tab.stageOf, at_]
      rcases found_apply came is with before | now
      · exact .inl before
      · exact .inr (.inl now)
    next => cases turned
  | settles other =>
    simp only [turn] at turned
    split at turned
    next started result at_ =>
      cases turned
      have settled : (tab.setStage other (.done result)).foundOf refresh = some found := is
      rcases found_setStage settled with before | ⟨rfl, now⟩
      · exact .inl before
      · cases result with
        | ok got => exact .inl (found_of at_ now)
        | ended => cases now
        | unavailable error => cases now
    next => cases turned
  | leaves logout =>
    simp only [turn] at turned
    split at turned
    · cases turned
      refine .inl ?_
      unfold Tab.leave at is
      dsimp only at is
      split at is
      · exact is
      · exact is
    · cases turned
  | retryLogout =>
    cases turned
    unfold Tab.retryLogout at is
    split at is
    · exact .inl is
    · exact .inl is
  | message channel text =>
    simp only [turn] at turned
    split at turned
    · cases turned
      unfold Tab.message at is
      split at is
      · exact .inl is
      · exact .inl is
    · cases turned
  | authed =>
    cases turned
    unfold Tab.begin at is
    split at is
    · exact .inl is
    · exact .inl (found_refresh is)
  | refreshed call => exact .inl (found_refreshed turned is)
  | ran call result => exact .inl (found_ran turned is)
  | signedIn token userId =>
    cases turned
    exact .inl is
  | logout =>
    cases turned
    exact .inl is
  | connect channel =>
    cases turned
    exact .inl is
  | disconnect channel =>
    cases turned
    exact .inl is
  | otherTab pending =>
    cases turned
    exact .inl is

end Found

/-! ## Whose call it is -/
section Owned

variable (account : Token → UserId)

/-- The call is of this account, and knows it. -/
def AuthedStage.Of (user : UserId) : AuthedStage → Prop
  | .awaitsToken _ => False
  | .calls used owner => account used = user ∧ owner = some user
  | .awaitsRetry owner _ => owner = some user
  | .retries used => account used = user
  | .returned => True
  | .threw _ => True

/-- Every token is whose the tab takes it for, and every call that has a token is somebody's. -/
structure Owned (tab : Tab) : Prop where
  current : ∀ found, tab.current = some found → found.Honest account
  found : ∀ refresh found, tab.foundOf refresh = some found → found.Honest account
  calls : ∀ (call : Nat) (stage : AuthedStage), tab.authed[call]? = some stage →
    (∃ refresh, stage = .awaitsToken refresh) ∨ ∃ user, user ≠ "" ∧ stage.Of account user

variable {account} {tab next : Tab} {locks : Bool} {event : Event}

theorem steady_runs {call refresh : Nat} {found : Current} (keeps : steady tab (.refreshed call) = true)
    (stood : tab.authed[call]? = some (.awaitsToken refresh))
    (came : tab.foundOf refresh = some found) : tab.userId = some found.userId := by
  simpa [steady, stood, came] using keeps

theorem steady_resumes {call refresh : Nat} {owner : Option UserId} {found : Current}
    (keeps : steady tab (.refreshed call) = true)
    (stood : tab.authed[call]? = some (.awaitsRetry owner refresh))
    (came : tab.foundOf refresh = some found) (same : tab.userId = owner) :
    owner = some found.userId := by
  simpa [steady, stood, came, same] using keeps

/-- A call that is somebody's stays theirs. -/
theorem moves_of {call : Nat} {old new : AuthedStage} {user : UserId} (owned : Owned account tab)
    (keeps : steady tab event = true) (stood : tab.authed[call]? = some old) (named : user ≠ "")
    (of : old.Of account user) (move : Moves tab event call old new) : new.Of account user := by
  cases move with
  | returns => trivial
  | throws => trivial
  | runs refresh found goes came => exact absurd of id
  | waits used owner refresh => exact of.2
  | replays used owner current signed passes =>
    have here := passes user of.2 named
    rw [Tab.userId, signed] at here
    exact (owned.current current signed).2.2.trans (Option.some.inj here)
  | resumes owner refresh found goes came passes =>
    have mine : owner = some user := of
    have here := passes user mine named
    subst goes
    have same := steady_resumes keeps stood came (here.trans mine.symm)
    rw [mine] at same
    exact (owned.found refresh found came).2.2.trans (Option.some.inj same).symm

/-- A call that gets its token becomes somebody's. -/
theorem moves_owned {call : Nat} {old new : AuthedStage} (owned : Owned account tab)
    (keeps : steady tab event = true) (stood : tab.authed[call]? = some old)
    (move : Moves tab event call old new) :
    (∃ refresh, new = .awaitsToken refresh) ∨ ∃ user, user ≠ "" ∧ new.Of account user := by
  rcases owned.calls call old stood with ⟨refresh, rfl⟩ | ⟨user, named, of⟩
  · cases move with
    | returns => exact .inr ⟨"user", by decide, trivial⟩
    | throws => exact .inr ⟨"user", by decide, trivial⟩
    | runs _ found goes came =>
      subst goes
      have same := steady_runs keeps stood came
      have honest := owned.found refresh found came
      exact .inr ⟨found.userId, honest.2.1, honest.2.2, same⟩
  · exact .inr ⟨user, named, moves_of owned keeps stood named of move⟩

theorem turn_honest (owned : Owned account tab) (keeps : honest account event = true)
    (turned : turn locks tab event = some next) (found : Current)
    (signed : next.current = some found) : found.Honest account := by
  rcases turn_current turned with ⟨same, -⟩ | decides | ⟨refresh, result, rfl, at_, rfl⟩
  · exact owned.current found (same ▸ signed)
  · cases event with
    | signedIn token userId =>
      cases turned
      cases signed
      exact of_decide_eq_true keeps
    | leaves logout =>
      simp only [turn] at turned
      split at turned
      · cases turned
        unfold Tab.leave at signed
        dsimp only at signed
        split at signed <;> cases signed
      · cases turned
    | message channel text =>
      simp only [turn] at turned
      split at turned
      · cases turned
        have logout : text = "logout" := decides
        unfold Tab.message at signed
        rw [if_pos logout] at signed
        cases signed
      · cases turned
    | _ => exact absurd decides id
  · unfold Tab.apply at signed
    rw [if_neg (fun differs => differs rfl)] at signed
    cases result with
    | ok got =>
      have same : got = found := by
        dsimp only at signed
        split at signed
        · split at signed
          · exact Option.some.inj signed
          · exact Option.some.inj signed
        · exact Option.some.inj signed
      rw [← same]
      exact owned.found refresh got (found_of at_ rfl)
    | ended => cases signed
    | unavailable error => exact owned.current found signed

theorem steady_turned (turned : steadyTurn account locks tab event = some next) :
    steady tab event = true ∧ honest account event = true ∧ turn locks tab event = some next := by
  unfold steadyTurn honestTurn at turned
  split at turned
  next keeps =>
    split at turned
    next told => exact ⟨keeps, told, turned⟩
    next => cases turned
  next => cases turned

theorem turn_owned (owned : Owned account tab)
    (turned : steadyTurn account locks tab event = some next) : Owned account next := by
  obtain ⟨keeps, told, turned⟩ := steady_turned turned
  refine ⟨turn_honest owned told turned, ?_, ?_⟩
  · intro refresh found is
    rcases turn_found turned is with before | now | ⟨call, rfl⟩
    · exact owned.found refresh found before
    · exact owned.current found now
    · exact of_decide_eq_true told
  · intro call stage at_
    cases turn_calling turned with
    | same authed => exact owned.calls call stage (authed ▸ at_)
    | begins current signed authed =>
      rw [authed, List.getElem?_append] at at_
      split at at_
      · exact owned.calls call stage at_
      · rw [List.getElem?_singleton] at at_
        obtain ⟨-, is⟩ := Option.ite_none_right_eq_some.mp at_
        obtain rfl := Option.some.inj is
        have honest := owned.current current signed
        exact .inr ⟨current.userId, honest.2.1, honest.2.2, rfl⟩
    | asks refresh authed =>
      rw [authed, List.getElem?_append] at at_
      split at at_
      · exact owned.calls call stage at_
      · rw [List.getElem?_singleton] at at_
        obtain ⟨-, is⟩ := Option.ite_none_right_eq_some.mp at_
        obtain rfl := Option.some.inj is
        exact .inl ⟨refresh, rfl⟩
    | moves moved old new stood move authed =>
      rw [authed, List.getElem?_set] at at_
      split at at_
      next same =>
        subst same
        split at at_
        · cases at_
          exact moves_owned owned keeps stood move
        · cases at_
      next => exact owned.calls call stage at_

theorem initial_owned (pending : Bool) : Owned account (Tab.initial pending) := by
  refine ⟨by simp [Tab.initial], ?_, by simp [Tab.initial]⟩
  intro refresh found is
  simp [Tab.foundOf, Tab.stageOf, Tab.initial] at is

theorem run_owned {pending : Bool}
    (run : Run (steadyTurn account locks) (Tab.initial pending) tab) : Owned account tab :=
  run_keeps (fun _ _ _ owned turned => turn_owned owned turned) (initial_owned pending) run

/-- Whose a call is stays so. -/
def Keeps (account : Token → UserId) (tab next : Tab) : Prop :=
  ∀ (call : Nat) (stage : AuthedStage) (user : UserId), tab.authed[call]? = some stage → user ≠ "" → stage.Of account user →
    ∃ later, next.authed[call]? = some later ∧ later.Of account user

theorem turn_keeps (owned : Owned account tab)
    (turned : steadyTurn account locks tab event = some next) : Keeps account tab next := by
  obtain ⟨keeps, -, turned⟩ := steady_turned turned
  intro call stage user at_ named of
  have within := (List.getElem?_eq_some_iff.mp at_).1
  cases turn_calling turned with
  | same authed => exact ⟨stage, authed ▸ at_, of⟩
  | begins current signed authed =>
    exact ⟨stage, by rw [authed, List.getElem?_append_left within, at_], of⟩
  | asks refresh authed =>
    exact ⟨stage, by rw [authed, List.getElem?_append_left within, at_], of⟩
  | moves moved old new stood move authed =>
    by_cases same : moved = call
    · subst same
      rw [stood] at at_
      cases at_
      refine ⟨new, ?_, moves_of owned keeps stood named of move⟩
      rw [authed, List.getElem?_set_self within]
    · exact ⟨stage, by rw [authed, List.getElem?_set_ne same, at_], of⟩

theorem run_keeps_owner (owned : Owned account tab)
    (run : Run (steadyTurn account locks) tab next) : Keeps account tab next := by
  refine run_relates (fun _ _ _ owned turned => turn_owned owned turned) ?_ ?_ ?_ owned run
  · intro state call stage user at_ _ of
    exact ⟨stage, at_, of⟩
  · intro first second third one two call stage user at_ named of
    obtain ⟨middle, between, of⟩ := one call stage user at_ named of
    exact two call middle user between named of
  · intro state event after owned turned
    exact turn_keeps owned turned

theorem token_of {stage : AuthedStage} {token : Token} {user : UserId}
    (runs : stage.token? = some token) (of : stage.Of account user) : account token = user := by
  cases stage with
  | calls used owner =>
    cases runs
    exact of.1
  | retries used =>
    cases runs
    exact of
  | awaitsToken refresh => cases runs
  | awaitsRetry owner refresh => cases runs
  | returned => cases runs
  | threw error => cases runs

end Owned

/-- In a run whose calls go on while the account their refresh brought is signed in, the tokens
that one call runs with, however often, are of one account. -/
theorem one_account (account : Token → UserId) (locks pending : Bool) (tab later : Tab)
    (run : Run (steadyTurn account locks) (Tab.initial pending) tab)
    (onward : Run (steadyTurn account locks) tab later) (call : Nat) (stage other : AuthedStage)
    (token another : Token) (stood : tab.authed[call]? = some stage)
    (stands : later.authed[call]? = some other) (first : stage.token? = some token)
    (second : other.token? = some another) : account token = account another := by
  have owned := run_owned run
  rcases owned.calls call stage stood with ⟨refresh, rfl⟩ | ⟨user, named, of⟩
  · cases first
  · obtain ⟨last, at_, still⟩ := run_keeps_owner owned onward call stage user stood named of
    rw [stands] at at_
    cases at_
    rw [token_of first of, token_of second still]

/-- Two accounts: the one token of the second, and the rest. -/
def whose (token : Token) : UserId := if token = "t2" then "u2" else "u1"

def expired : Except Failure Unit := .error (.api 401 "UNAUTHENTICATED")

/-- A call gets its token from a refresh, and another when that one has expired. -/
theorem refreshed_twice : ∃ tab later : Tab,
    Run (steadyTurn whose false) (Tab.initial false) tab ∧
    Run (steadyTurn whose false) tab later ∧
    tab.authed = [.calls "t1" (some "u1")] ∧ later.authed = [.retries "t3"] ∧
    whose "t1" = whose "t3" := by
  have ran : ((turns (steadyTurn whose false) (Tab.initial false)
      [.authed, .answered 0 (.refreshed ⟨"t1", "u1"⟩), .applies 0, .settles 0, .refreshed 0]).bind
      fun tab => (turns (steadyTurn whose false) tab
        [.ran 0 expired, .answered 1 (.refreshed ⟨"t3", "u1"⟩), .applies 1, .settles 1,
          .refreshed 0]).map fun later => (tab.authed, later.authed)) =
      some ([.calls "t1" (some "u1")], [.retries "t3"]) := by rfl
  obtain ⟨tab, began, ran⟩ := Option.bind_eq_some_iff.mp ran
  obtain ⟨later, replayed, stages⟩ := Option.map_eq_some_iff.mp ran
  obtain ⟨stood, stands⟩ := Prod.mk.inj stages
  have run := run_turns .refl _ began
  have onward := run_turns .refl _ replayed
  refine ⟨tab, later, run, onward, stood, stands, ?_⟩
  exact one_account whose false false tab later run onward 0 _ _ _ _ (congrArg (·[0]?) stood)
    (congrArg (·[0]?) stands) rfl rfl

/-- Somebody else signs in when the refresh that a call awaits has come back: the call runs with
the token of the one, and is replayed with the token of the other. -/
theorem replayed_as_another : ∃ tab later : Tab,
    Run (honestTurn whose false) (Tab.initial false) tab ∧
    Run (honestTurn whose false) tab later ∧
    tab.authed = [.calls "t1" (some "u2")] ∧ later.authed = [.retries "t2"] ∧
    whose "t1" ≠ whose "t2" := by
  have ran : ((turns (honestTurn whose false) (Tab.initial false)
      [.authed, .answered 0 (.refreshed ⟨"t1", "u1"⟩), .applies 0, .settles 0,
        .signedIn "t2" "u2", .refreshed 0]).bind
      fun tab => (turns (honestTurn whose false) tab [.ran 0 expired]).map
        fun later => (tab.authed, later.authed)) =
      some ([.calls "t1" (some "u2")], [.retries "t2"]) := by rfl
  obtain ⟨tab, began, ran⟩ := Option.bind_eq_some_iff.mp ran
  obtain ⟨later, replayed, stages⟩ := Option.map_eq_some_iff.mp ran
  obtain ⟨stood, stands⟩ := Prod.mk.inj stages
  exact ⟨tab, later, run_turns .refl _ began, run_turns .refl _ replayed, stood, stands, by decide⟩

/-! ## A call that goes on as another -/
section Unsteady

variable {account : Token → UserId} {locks : Bool} {start tab next : Tab} {call : Nat}

theorem honest_run (run : Run (steadyTurn account locks) start tab) :
    Run (honestTurn account locks) start tab := by
  induction run with
  | refl => exact .refl
  | next event run turned ih =>
    obtain ⟨-, told, turned⟩ := steady_turned turned
    exact ih.next event (by rw [honestTurn, if_pos told, turned])

/-- What is to be replayed has been called with a token. -/
theorem called_before {owner : Option UserId} {refresh : Nat}
    (run : Run (steadyTurn account locks) start tab) (none_ : start.authed = [])
    (stood : tab.authed[call]? = some (.awaitsRetry owner refresh)) :
    ∃ earlier used, Run (steadyTurn account locks) start earlier ∧
      Run (steadyTurn account locks) earlier tab ∧
      earlier.authed[call]? = some (.calls used owner) := by
  induction run with
  | refl => simp [none_] at stood
  | @next state after event run turned ih =>
    have since : state.authed[call]? = some (.awaitsRetry owner refresh) →
        ∃ earlier used, Run (steadyTurn account locks) start earlier ∧
          Run (steadyTurn account locks) earlier after ∧
          earlier.authed[call]? = some (.calls used owner) := by
      intro before
      obtain ⟨earlier, used, began, onward, called⟩ := ih before
      exact ⟨earlier, used, began, onward.next event turned, called⟩
    cases turn_calling (steady_turned turned).2.2 with
    | same authed => exact since (authed ▸ stood)
    | begins current signed authed =>
      rw [authed, List.getElem?_append] at stood
      split at stood
      · exact since stood
      · rw [List.getElem?_singleton] at stood
        cases (Option.ite_none_right_eq_some.mp stood).2
    | asks asked authed =>
      rw [authed, List.getElem?_append] at stood
      split at stood
      · exact since stood
      · rw [List.getElem?_singleton] at stood
        cases (Option.ite_none_right_eq_some.mp stood).2
    | moves moved old new at_ move authed =>
      rw [authed, List.getElem?_set] at stood
      split at stood
      next same =>
        subst same
        split at stood
        next =>
          cases stood
          cases move with
          | waits used owner refresh => exact ⟨state, used, run, Run.refl.next event turned, at_⟩
        next => cases stood
      next => exact since stood

/-- Two tokens that one call runs with, of different accounts. -/
def Strays (account : Token → UserId) (locks : Bool) (start : Tab) (call : Nat) : Prop :=
  ∃ earlier later stage other token another, Run (honestTurn account locks) start earlier ∧
    Run (honestTurn account locks) earlier later ∧ earlier.authed[call]? = some stage ∧
    later.authed[call]? = some other ∧ AuthedStage.token? stage = some token ∧
    AuthedStage.token? other = some another ∧ account token ≠ account another

/-- A call running for an account of somebody else's token is replayed with a token of that
account once its own has expired. -/
theorem expired_strays {used : Token} {current : Current}
    (run : Run (honestTurn account locks) start tab)
    (stood : tab.authed[call]? = some (.calls used (some current.userId)))
    (signed : tab.current = some current) (honest_ : current.Honest account)
    (other : account used ≠ current.userId) : Strays account locks start call := by
  have newer : current.token ≠ "" ∧ current.token ≠ used := by
    refine ⟨honest_.1, ?_⟩
    rintro rfl
    exact other honest_.2.2
  have passes : ¬ (current.userId ≠ "" ∧ tab.current.map (·.userId) ≠ some current.userId) := by
    rintro ⟨-, differs⟩
    rw [signed] at differs
    exact differs rfl
  have turned : honestTurn account locks tab (.ran call expired) =
      some (tab.setAuthed call (.retries current.token)) := by
    have replayed : tab.replay call (some current.userId) current.token =
        tab.setAuthed call (.retries current.token) := by
      rw [Tab.replay, if_neg passes]
    have retried : tab.retry locks call used (some current.userId) =
        tab.setAuthed call (.retries current.token) := by
      simp only [Tab.retry, signed, if_pos newer, replayed]
    have ran : tab.ran locks call expired = some (tab.retry locks call used (some current.userId)) := by
      simp only [Tab.ran, stood, expired]
      exact if_neg (by decide)
    exact ran.trans (congrArg some retried)
  have within := (List.getElem?_eq_some_iff.mp stood).1
  refine ⟨tab, _, _, _, used, current.token, run, Run.refl.next _ turned, stood,
    List.getElem?_set_self within, rfl, rfl, ?_⟩
  rw [honest_.2.2]
  exact other

/-- A call that knows no owner is replayed as whoever signs in. -/
theorem nobody_strays {used : Token} {current : Current}
    (run : Run (honestTurn account locks) start tab)
    (stood : tab.authed[call]? = some (.calls used none))
    (honest_ : current.Honest account) (other : current.userId ≠ account used) :
    Strays account locks start call := by
  have signs : honestTurn account locks tab (.signedIn current.token current.userId) =
      some (tab.signedIn current.token current.userId) :=
    if_pos (decide_eq_true honest_)
  have newer : current.token ≠ "" ∧ current.token ≠ used := by
    refine ⟨honest_.1, ?_⟩
    rintro rfl
    exact other honest_.2.2.symm
  have turned : honestTurn account locks (tab.signedIn current.token current.userId)
      (.ran call expired) = some ((tab.signedIn current.token current.userId).setAuthed call
        (.retries current.token)) := by
    have retried : (tab.signedIn current.token current.userId).retry locks call used none =
        (tab.signedIn current.token current.userId).setAuthed call (.retries current.token) := by
      simp only [Tab.retry, Tab.signedIn, if_pos newer, Tab.replay]
    have ran : (tab.signedIn current.token current.userId).ran locks call expired =
        some ((tab.signedIn current.token current.userId).retry locks call used none) := by
      have kept : (tab.signedIn current.token current.userId).authed[call]? =
          some (.calls used none) := stood
      simp only [Tab.ran, kept, expired]
      exact if_neg (by decide)
    exact ran.trans (congrArg some retried)
  have within := (List.getElem?_eq_some_iff.mp stood).1
  refine ⟨tab, _, _, _, used, current.token, run, (Run.refl.next _ signs).next _ turned, stood,
    List.getElem?_set_self within, rfl, rfl, ?_⟩
  rw [honest_.2.2]
  exact other.symm

theorem runs_found {refresh : Nat} {found : Current}
    (stood : tab.authed[call]? = some (.awaitsToken refresh))
    (came : tab.foundOf refresh = some found) (went : tab.refreshed call = some next) :
    next = tab.setAuthed call (.calls found.token tab.userId) := by
  simp only [Tab.refreshed, stood] at went
  split at went
  next started result at_ =>
    cases result with
    | ok got =>
      have same : got = found := Option.some.inj ((found_of at_ rfl).symm.trans came)
      cases went
      rw [same]
      rfl
    | ended => simp [Tab.foundOf, Tab.stageOf, at_, Stage.found?] at came
    | unavailable error => simp [Tab.foundOf, Tab.stageOf, at_, Stage.found?] at came
  next => cases went

theorem resumes_found {owner : Option UserId} {refresh : Nat} {found : Current}
    (stood : tab.authed[call]? = some (.awaitsRetry owner refresh))
    (came : tab.foundOf refresh = some found) (went : tab.refreshed call = some next) :
    next = tab.replay call owner found.token := by
  simp only [Tab.refreshed, stood] at went
  split at went
  next started result at_ =>
    cases result with
    | ok got =>
      have same : got = found := Option.some.inj ((found_of at_ rfl).symm.trans came)
      cases went
      rw [same]
    | ended => simp [Tab.foundOf, Tab.stageOf, at_, Stage.found?] at came
    | unavailable error => simp [Tab.foundOf, Tab.stageOf, at_, Stage.found?] at came
  next => cases went

/-- Where the condition first fails, what the tab does next can replay the call as another. -/
theorem unsteady_strays (pending : Bool)
    (run : Run (steadyTurn account locks) (Tab.initial pending) tab)
    (turned : turn locks tab (.refreshed call) = some next)
    (unsteady : steady tab (.refreshed call) = false)
    (another : ∀ user, ∃ found : Current, found.Honest account ∧ found.userId ≠ user) :
    Strays account locks (Tab.initial pending) call := by
  have owned := run_owned run
  have went : honestTurn account locks tab (.refreshed call) = some next := turned
  have onward := (honest_run run).next _ went
  have refreshed : tab.refreshed call = some next := turned
  unfold steady at unsteady
  dsimp only at unsteady
  split at unsteady
  next refresh stood =>
    cases came : tab.foundOf refresh with
    | none => simp [came] at unsteady
    | some found =>
      have differs : tab.userId ≠ some found.userId := by simpa [came] using unsteady
      have whose_ := (owned.found refresh found came).2.2
      have within := (List.getElem?_eq_some_iff.mp stood).1
      have runs : next.authed[call]? = some (.calls found.token tab.userId) := by
        rw [runs_found stood came refreshed]
        exact List.getElem?_set_self within
      have same : next.current = tab.current := by rw [runs_found stood came refreshed]; rfl
      cases signed : tab.current with
      | some current =>
        -- somebody else is signed in: theirs is the newer token
        have mine : tab.userId = some current.userId := by rw [Tab.userId, signed]; rfl
        rw [mine] at runs differs
        refine expired_strays onward runs (same.trans signed) (owned.current current signed) ?_
        rw [whose_]
        exact fun is => differs (congrArg some is.symm)
      | none =>
        -- nobody is, so that whoever signs in next is taken for the owner
        have mine : tab.userId = none := by rw [Tab.userId, signed]; rfl
        obtain ⟨current, honest_, other⟩ := another found.userId
        rw [mine] at runs
        exact nobody_strays onward runs honest_ (whose_ ▸ other)
  next owner refresh stood =>
    cases came : tab.foundOf refresh with
    | none => simp [came] at unsteady
    | some found =>
      have both : tab.userId = owner ∧ owner ≠ some found.userId := by simpa [came] using unsteady
      have whose_ := (owned.found refresh found came).2.2
      have within := (List.getElem?_eq_some_iff.mp stood).1
      obtain ⟨earlier, used, began, since, called⟩ := called_before run rfl stood
      rcases (run_owned began).calls call _ called with ⟨_, is⟩ | ⟨user, named, mine, is⟩
      · cases is
      · have passes : ¬ (user ≠ "" ∧ tab.current.map (·.userId) ≠ some user) := by
          rintro ⟨-, differs⟩
          exact differs (both.1.trans is)
        have replayed : next = tab.setAuthed call (.retries found.token) := by
          rw [resumes_found stood came refreshed, is, Tab.replay, if_neg passes]
        refine ⟨earlier, next, _, .retries found.token, used, found.token, honest_run began,
          run_append (honest_run since) (Run.refl.next _ went), called, ?_, rfl, rfl, ?_⟩
        · rw [replayed]
          exact List.getElem?_set_self within
        · rw [mine, whose_]
          rintro rfl
          exact both.2 is
  next => cases unsteady

end Unsteady

end Foc.Web
