import Foc.Web.Session

/-! Who is signed in, whatever answers late: one refresh at a time, none of which
counts once its epoch is over, and none of which asks while a sign-out is pending. -/
namespace Foc.Web
open Library.EventLoop

/-! ## Refreshes and their stages -/
namespace Tab

def stageOf (tab : Tab) (refresh : Nat) : Option Stage :=
  tab.refreshes[refresh]?.map (·.stage)

def startedOf (tab : Tab) (refresh : Nat) : Option Nat :=
  tab.refreshes[refresh]?.map (·.started)

variable {tab : Tab} {refresh other : Nat} {stage : Stage}

theorem stageOf_setStage : (tab.setStage other stage).stageOf refresh =
    if other = refresh then (tab.stageOf refresh).map fun _ => stage else tab.stageOf refresh := by
  unfold stageOf setStage
  rw [List.getElem?_modify]
  split
  · cases tab.refreshes[refresh]? <;> rfl
  · cases tab.refreshes[refresh]? <;> rfl

@[simp] theorem startedOf_setStage :
    (tab.setStage other stage).startedOf refresh = tab.startedOf refresh := by
  unfold startedOf setStage
  rw [List.getElem?_modify]
  split
  · cases tab.refreshes[refresh]? <;> rfl
  · cases tab.refreshes[refresh]? <;> rfl

theorem begun_get : tab.begun.refreshes[refresh]? =
    if refresh = tab.refreshes.length then some ⟨tab.epoch, .queued⟩
    else tab.refreshes[refresh]? := by
  unfold begun
  by_cases new : refresh = tab.refreshes.length
  · simp [new]
  · simp only [if_neg new]
    rcases Nat.lt_or_ge refresh tab.refreshes.length with before | past
    · rw [List.getElem?_append_left before]
    · have beyond : tab.refreshes.length < refresh := Nat.lt_of_le_of_ne past (Ne.symm new)
      rw [List.getElem?_eq_none past, List.getElem?_eq_none (by simp; omega)]

theorem stageOf_begun : tab.begun.stageOf refresh =
    if refresh = tab.refreshes.length then some .queued else tab.stageOf refresh := by
  unfold stageOf
  rw [begun_get]
  split <;> rfl

theorem startedOf_begun : tab.begun.startedOf refresh =
    if refresh = tab.refreshes.length then some tab.epoch else tab.startedOf refresh := by
  unfold startedOf
  rw [begun_get]
  split <;> rfl

theorem unknown_stage : tab.stageOf tab.refreshes.length = none := by
  simp [stageOf]

theorem unknown_start : tab.startedOf tab.refreshes.length = none := by
  simp [startedOf]

end Tab

/-! ## The invariant -/

/-- Why a refresh may find that the session has ended. -/
def Cause (calls : Calls Ask Reply) (refresh : Nat) : Prop :=
  (∃ call status code, Answered calls call (.refresh refresh) (.failed (.api status code)) ∧
    (status = 401 ∨ status = 403)) ∨
  ∃ call, Asked calls call (.logout (.rotate refresh))

/-- What stands still until a call answers. -/
def Awaits (tab : Tab) (call : Nat) : Ask → Prop
  | .refresh refresh => tab.stageOf refresh = some (.asking call)
  | .logout (.rotate refresh) => tab.stageOf refresh = some (.revoking call)
  | .logout _ => True

structure Sound (tab : Tab) : Prop where
  only : ∀ refresh stage, tab.stageOf refresh = some stage →
    (∃ result, stage = .done result) ∨ tab.inflight = some refresh
  started : ∀ refresh epoch, tab.startedOf refresh = some epoch → epoch ≤ tab.epoch
  waits : ∀ call asked, waiting tab.calls call = some asked → Awaits tab call asked
  cause : ∀ refresh, tab.stageOf refresh = some (.resolved .ended) → Cause tab.calls refresh

/-- When a call to the service may be made. -/
def Permits (tab : Tab) : Ask → Prop
  | .refresh _ => tab.logoutPending = false
  | .logout (.rotate _) => tab.logoutPending = true
  | .logout _ => True

/-- What every event of the tab keeps. -/
structure Goes (tab next : Tab) : Prop where
  sound : Sound next
  epoch : tab.epoch ≤ next.epoch
  started : ∀ refresh epoch, tab.startedOf refresh = some epoch →
    next.startedOf refresh = some epoch
  calls : Extends tab.calls next.calls
  permitted : ∀ call asked, Asked next.calls call asked → ¬ Asked tab.calls call asked →
    Permits tab asked

section Goes

variable {tab next : Tab} {refresh : Nat} {stage : Stage} {locks : Bool}

theorem Cause.extends {older newer : Calls Ask Reply} (cause : Cause older refresh)
    (extended : Extends older newer) : Cause newer refresh := by
  rcases cause with ⟨call, status, code, answered, is⟩ | ⟨call, asked⟩
  · exact .inl ⟨call, status, code, extended.answered _ _ _ answered, is⟩
  · exact .inr ⟨call, extended.asked _ _ asked⟩

/-- An event that leaves the refreshes and the calls alone. -/
theorem quiet_goes (sound : Sound tab) (refreshes : next.refreshes = tab.refreshes)
    (inflight : next.inflight = tab.inflight) (calls : next.calls = tab.calls)
    (epoch : tab.epoch ≤ next.epoch) : Goes tab next := by
  have stages : next.stageOf = tab.stageOf := by
    funext refresh
    simp only [Tab.stageOf, refreshes]
  have starts : next.startedOf = tab.startedOf := by
    funext refresh
    simp only [Tab.startedOf, refreshes]
  constructor
  · constructor
    · rw [stages, inflight]
      exact sound.only
    · intro refresh begun is
      rw [starts] at is
      exact Nat.le_trans (sound.started refresh begun is) epoch
    · intro call asked waits
      rw [calls] at waits
      have awaits := sound.waits call asked waits
      unfold Awaits at awaits ⊢
      rw [stages]
      exact awaits
    · rw [stages, calls]
      exact sound.cause
  · exact epoch
  · rw [starts]
    exact fun _ _ is => is
  · rw [calls]
    exact Extends.refl _
  · intro call asked new old
    rw [calls] at new
    exact absurd new old

theorem Goes.refl (sound : Sound tab) : Goes tab tab :=
  quiet_goes sound rfl rfl rfl (Nat.le_refl _)

/-- A call is made, and what awaits it stands still already. -/
theorem ask_goes {asked : Ask} (sound : Sound tab) (refreshes : next.refreshes = tab.refreshes)
    (inflight : next.inflight = tab.inflight) (calls : next.calls = ask tab.calls asked)
    (epoch : next.epoch = tab.epoch) (awaits : Awaits tab tab.calls.length asked)
    (permits : Permits tab asked) : Goes tab next := by
  have stages : next.stageOf = tab.stageOf := by
    funext refresh
    simp only [Tab.stageOf, refreshes]
  have starts : next.startedOf = tab.startedOf := by
    funext refresh
    simp only [Tab.startedOf, refreshes]
  have moved : ∀ call asked, Awaits tab call asked → Awaits next call asked := by
    intro call asked awaits
    unfold Awaits at awaits ⊢
    rw [stages]
    exact awaits
  constructor
  · constructor
    · rw [stages, inflight]
      exact sound.only
    · rw [starts, epoch]
      exact sound.started
    · intro call other waits
      rw [calls, waiting_ask] at waits
      rcases waits with before | ⟨rfl, rfl⟩
      · exact moved call other (sound.waits call other before)
      · exact moved _ _ awaits
    · intro refresh ended
      rw [stages] at ended
      rw [calls]
      exact (sound.cause refresh ended).extends extends_ask
  · exact Nat.le_of_eq epoch.symm
  · rw [starts]
    exact fun _ _ is => is
  · rw [calls]
    exact extends_ask
  · intro call other new old
    rw [calls, asked_ask] at new
    rcases new with before | ⟨_, rfl⟩
    · exact absurd before old
    · exact permits

/-- One refresh moves on, waiting for no call. -/
theorem stage_sound (sound : Sound tab) (running : tab.inflight = some refresh)
    (idle : ∀ call, waiting tab.calls call ≠ some (.refresh refresh) ∧
      waiting tab.calls call ≠ some (.logout (.rotate refresh)))
    (cause : stage = .resolved .ended → Cause tab.calls refresh) :
    Sound (tab.setStage refresh stage) := by
  constructor
  · intro other found is
    rw [Tab.stageOf_setStage] at is
    by_cases same : refresh = other
    · subst same
      exact .inr running
    · rw [if_neg same] at is
      exact sound.only other found is
  · intro other epoch is
    rw [Tab.startedOf_setStage] at is
    exact sound.started other epoch is
  · intro call asked waits
    have before : waiting tab.calls call = some asked := waits
    have awaits := sound.waits call asked before
    cases asked with
    | refresh other =>
        have apart : refresh ≠ other := by
          rintro rfl
          exact (idle call).1 before
        exact (Tab.stageOf_setStage.trans (if_neg apart)).trans awaits
    | logout revoker =>
        cases revoker with
        | rotate other =>
            have apart : refresh ≠ other := by
              rintro rfl
              exact (idle call).2 before
            exact (Tab.stageOf_setStage.trans (if_neg apart)).trans awaits
        | logout _ => trivial
        | retryLogout => trivial
  · intro other ended
    rw [Tab.stageOf_setStage] at ended
    by_cases same : refresh = other
    · subst same
      rw [if_pos rfl] at ended
      obtain ⟨_, _, is⟩ := Option.map_eq_some_iff.mp ended
      exact cause is
    · rw [if_neg same] at ended
      exact sound.cause other ended

theorem idle_stage (sound : Sound tab) (is : tab.stageOf refresh = some stage)
    (free : ∀ call, stage ≠ .asking call ∧ stage ≠ .revoking call) (call : Nat) :
    waiting tab.calls call ≠ some (.refresh refresh) ∧
      waiting tab.calls call ≠ some (.logout (.rotate refresh)) := by
  constructor
  · intro waits
    have awaits : tab.stageOf refresh = some (.asking call) := sound.waits call _ waits
    rw [is] at awaits
    exact (free call).1 (Option.some.inj awaits)
  · intro waits
    have awaits : tab.stageOf refresh = some (.revoking call) := sound.waits call _ waits
    rw [is] at awaits
    exact (free call).2 (Option.some.inj awaits)

theorem running (sound : Sound tab) (is : tab.stageOf refresh = some stage)
    (undone : ∀ result, stage ≠ .done result) : tab.inflight = some refresh := by
  rcases sound.only refresh stage is with ⟨result, done⟩ | inflight
  · exact absurd done (undone result)
  · exact inflight

theorem stage_goes (sound : Sound tab) (is : tab.stageOf refresh = some stage)
    (undone : ∀ result, stage ≠ .done result)
    (free : ∀ call, stage ≠ .asking call ∧ stage ≠ .revoking call) (later : Stage)
    (cause : later = .resolved .ended → Cause tab.calls refresh) :
    Goes tab (tab.setStage refresh later) where
  sound := stage_sound sound (running sound is undone) (idle_stage sound is free) cause
  epoch := Nat.le_refl _
  started _ _ found := Tab.startedOf_setStage.trans found
  calls := Extends.refl _
  permitted _ _ new old := absurd new old

theorem Goes.then {last : Tab} (first : Goes tab next) (second : Goes next last)
    (same : next.logoutPending = tab.logoutPending) : Goes tab last where
  sound := second.sound
  epoch := Nat.le_trans first.epoch second.epoch
  started refresh epoch is := second.started refresh epoch (first.started refresh epoch is)
  calls := first.calls.trans second.calls
  permitted call asked new old := by
    by_cases between : Asked next.calls call asked
    · exact first.permitted call asked between old
    · have permits := second.permitted call asked new between
      unfold Permits at permits ⊢
      rw [same] at permits
      exact permits

/-- What else an event writes, beside the refreshes and the calls. -/
theorem Goes.beside {last : Tab} (goes : Goes tab next) (refreshes : last.refreshes = next.refreshes)
    (inflight : last.inflight = next.inflight) (calls : last.calls = next.calls)
    (epoch : next.epoch ≤ last.epoch) : Goes tab last := by
  have quiet := quiet_goes goes.sound refreshes inflight calls epoch
  refine ⟨quiet.sound, Nat.le_trans goes.epoch epoch, ?_, goes.calls.trans quiet.calls, ?_⟩
  · intro refresh epoch is
    exact quiet.started refresh epoch (goes.started refresh epoch is)
  · rw [calls]
    exact goes.permitted

/-! ### Refreshing -/

theorem begun_goes (sound : Sound tab) (free : tab.inflight = none) : Goes tab tab.begun := by
  constructor
  · constructor
    · intro refresh stage is
      rw [Tab.stageOf_begun] at is
      by_cases new : refresh = tab.refreshes.length
      · subst new
        exact .inr rfl
      · rw [if_neg new] at is
        rcases sound.only refresh stage is with done | running
        · exact .inl done
        · rw [free] at running
          cases running
    · intro refresh epoch is
      rw [Tab.startedOf_begun] at is
      by_cases new : refresh = tab.refreshes.length
      · rw [if_pos new] at is
        cases is
        exact Nat.le_refl _
      · rw [if_neg new] at is
        exact sound.started refresh epoch is
    · intro call asked waits
      have awaits := sound.waits call asked waits
      have kept : ∀ refresh stage, tab.stageOf refresh = some stage →
          tab.begun.stageOf refresh = some stage := by
        intro refresh stage is
        rw [Tab.stageOf_begun, if_neg]
        · exact is
        · rintro rfl
          rw [Tab.unknown_stage] at is
          cases is
      cases asked with
      | refresh refresh => exact kept _ _ awaits
      | logout revoker =>
          cases revoker with
          | rotate refresh => exact kept _ _ awaits
          | logout _ => trivial
          | retryLogout => trivial
    · intro refresh ended
      rw [Tab.stageOf_begun] at ended
      by_cases new : refresh = tab.refreshes.length
      · rw [if_pos new] at ended
        cases ended
      · rw [if_neg new] at ended
        exact sound.cause refresh ended
  · exact Nat.le_refl _
  · intro refresh epoch is
    rw [Tab.startedOf_begun, if_neg]
    · exact is
    · rintro rfl
      rw [Tab.unknown_start] at is
      cases is
  · exact Extends.refl _
  · intro call asked new old
    exact absurd new old

theorem rotate_goes (sound : Sound tab) (queued : tab.stageOf refresh = some .queued) :
    Goes tab (tab.rotate refresh) := by
  have stage : ∀ later, (tab.setStage refresh later).stageOf refresh = some later := by
    intro later
    rw [Tab.stageOf_setStage, if_pos rfl, queued]
    rfl
  unfold Tab.rotate
  split
  · rename_i pending
    have moved := stage_goes sound queued (by simp) (by simp) (.revoking tab.calls.length) (by simp)
    exact moved.then (ask_goes moved.sound rfl rfl rfl rfl (stage _) pending) rfl
  · rename_i unset
    have clear : tab.logoutPending = false := Bool.eq_false_iff.mpr unset
    have moved := stage_goes sound queued (by simp) (by simp) (.asking tab.calls.length) (by simp)
    exact moved.then (ask_goes moved.sound rfl rfl rfl rfl (stage _) clear) rfl

theorem refresh_goes (sound : Sound tab) : Goes tab (tab.refresh locks).1 := by
  unfold Tab.refresh
  split
  · exact Goes.refl sound
  · rename_i free
    have begun := begun_goes sound free
    split
    · exact begun
    · apply begun.then (rotate_goes begun.sound _) rfl
      rw [Tab.stageOf_begun, if_pos rfl]

/-! ### Answers -/

/-- The answer is known, and nothing done with it yet. -/
def Tab.known (tab : Tab) (call : Nat) (reply : Reply) : Tab :=
  { tab with calls := answer tab.calls call reply }

theorem known_goes {call : Nat} {asked : Ask} (sound : Sound tab) (reply : Reply)
    (waits : waiting tab.calls call = some asked) : Goes tab (tab.known call reply) where
  sound := by
    refine ⟨sound.only, sound.started, ?_, ?_⟩
    · intro other question waits
      exact sound.waits other question (waiting_answer.mp waits).2
    · intro refresh ended
      exact (sound.cause refresh ended).extends (extends_answer waits)
  epoch := Nat.le_refl _
  started _ _ is := is
  calls := extends_answer waits
  permitted _ _ new old := absurd (asked_answer.mp new) old

theorem refused_ended {error : Failure} (ended : Tab.refused error = .ended) :
    ∃ status code, error = .api status code ∧ (status = 401 ∨ status = 403) := by
  unfold Tab.refused at ended
  split at ended
  · exact ⟨401, _, rfl, .inl rfl⟩
  · exact ⟨403, _, rfl, .inr rfl⟩
  · cases ended

/-- The refresh that awaited the call goes on with its answer. -/
theorem resume_goes {call : Nat} {asked : Ask} (sound : Sound tab) (reply : Reply)
    (waits : waiting tab.calls call = some asked)
    (mine : asked = .refresh refresh ∨ asked = .logout (.rotate refresh)) (result : RefreshResult)
    (cause : result = .ended → Cause (tab.known call reply).calls refresh) :
    Goes tab ((tab.known call reply).setStage refresh (.resolved result)) := by
  have known := known_goes sound reply waits
  have awaits := sound.waits call asked waits
  have stage : ∃ stage, tab.stageOf refresh = some stage ∧
      (stage = .asking call ∨ stage = .revoking call) := by
    rcases mine with rfl | rfl
    · exact ⟨_, awaits, .inl rfl⟩
    · exact ⟨_, awaits, .inr rfl⟩
  obtain ⟨stage, is, waiting'⟩ := stage
  have inflight : tab.inflight = some refresh := by
    apply running sound is
    rcases waiting' with rfl | rfl <;> simp
  have idle : ∀ other, waiting (tab.known call reply).calls other ≠ some (.refresh refresh) ∧
      waiting (tab.known call reply).calls other ≠ some (.logout (.rotate refresh)) := by
    intro other
    constructor
    · intro still
      obtain ⟨apart, before⟩ := waiting_answer.mp still
      have standing : tab.stageOf refresh = some (.asking other) := sound.waits other _ before
      rw [is] at standing
      rcases waiting' with rfl | rfl
      · cases standing
        exact apart rfl
      · cases standing
    · intro still
      obtain ⟨apart, before⟩ := waiting_answer.mp still
      have standing : tab.stageOf refresh = some (.revoking other) := sound.waits other _ before
      rw [is] at standing
      rcases waiting' with rfl | rfl
      · cases standing
      · cases standing
        exact apart rfl
  refine ⟨?_, Nat.le_refl _, ?_, known.calls, known.permitted⟩
  · apply stage_sound known.sound inflight idle
    intro ended
    exact cause (Stage.resolved.inj ended)
  · intro other epoch found
    exact Tab.startedOf_setStage.trans found

theorem answered_goes {call : Nat} {asked : Ask} (sound : Sound tab) (reply : Reply)
    (waits : waiting tab.calls call = some asked)
    (went : tab.answered call asked reply = some next) : Goes tab next := by
  have known := known_goes sound reply waits
  have here : Asked tab.calls call asked := ⟨none, waiting_iff.mp waits⟩
  cases asked with
  | refresh refresh =>
      cases reply with
      | refreshed found =>
          cases went
          exact resume_goes sound _ waits (.inl rfl) (.ok found) (by simp)
      | failed error =>
          cases went
          apply resume_goes sound _ waits (.inl rfl) (Tab.refused error)
          intro ended
          obtain ⟨status, code, rfl, is⟩ := refused_ended ended
          exact .inl ⟨call, status, code, (answered_answer waits).mpr (.inr ⟨rfl, rfl, rfl⟩), is⟩
      | revoked => cases went
  | logout revoker =>
      cases reply with
      | revoked =>
          cases went
          cases revoker with
          | rotate refresh =>
              have resumed := resume_goes sound .revoked waits (.inr rfl) .ended
                (fun _ => .inr ⟨call, asked_answer.mpr here⟩)
              exact resumed.beside rfl rfl rfl (Nat.le_refl _)
          | logout logout =>
              exact known.beside rfl rfl rfl (Nat.le_refl _)
          | retryLogout =>
              exact known.beside rfl rfl rfl (Nat.le_refl _)
      | failed error =>
          cases went
          cases revoker with
          | rotate refresh =>
              exact resume_goes sound _ waits (.inr rfl) .ended
                (fun _ => .inr ⟨call, asked_answer.mpr here⟩)
          | logout logout =>
              exact known.beside rfl rfl rfl (Nat.le_refl _)
          | retryLogout => exact known
      | refreshed found => cases went

/-! ### Applying a result -/

theorem apply_goes {started : Nat} {result : RefreshResult} (sound : Sound tab)
    (resolved : tab.stageOf refresh = some (.resolved result)) :
    Goes tab (tab.apply refresh started result) := by
  have staged : ∀ result, Goes tab (tab.setStage refresh (.applied result)) := fun result =>
    stage_goes sound resolved (by simp) (by simp) (.applied result) (by simp)
  unfold Tab.apply
  split
  · exact staged _
  · cases result with
    | ok found =>
        have moved := staged (.ok found)
        dsimp only
        split
        · split
          · exact moved.beside rfl rfl rfl (Nat.le_refl _)
          · exact moved.beside rfl rfl rfl (Nat.le_refl _)
        · exact moved.beside rfl rfl rfl (Nat.le_refl _)
    | ended =>
        have moved := staged .ended
        exact moved.beside rfl rfl rfl (Nat.le_succ _)
    | unavailable error => exact staged _

theorem settle_goes {result : RefreshResult} (sound : Sound tab)
    (applied : tab.stageOf refresh = some (.applied result)) :
    Goes tab { tab.setStage refresh (.done result) with inflight := none } := by
  have moved := stage_goes sound applied (by simp) (by simp) (.done result) (by simp)
  have inflight := running sound applied (by simp)
  refine ⟨⟨?_, moved.sound.started, moved.sound.waits, moved.sound.cause⟩, moved.epoch,
    moved.started, moved.calls, moved.permitted⟩
  intro other stage is
  have is : (tab.setStage refresh (.done result)).stageOf other = some stage := is
  rw [Tab.stageOf_setStage] at is
  by_cases same : refresh = other
  · subst same
    rw [if_pos rfl, applied] at is
    cases is
    exact .inl ⟨result, rfl⟩
  · rw [if_neg same] at is
    rcases sound.only other stage is with done | running
    · exact .inl done
    · rw [inflight] at running
      exact absurd (Option.some.inj running) same

/-! ### Every event -/

theorem replay_goes {call : Nat} {owner : Option UserId} {token : Token} (goes : Goes tab next) :
    Goes tab (next.replay call owner token) := by
  unfold Tab.replay
  split
  · split <;> exact goes.beside rfl rfl rfl (Nat.le_refl _)
  · exact goes.beside rfl rfl rfl (Nat.le_refl _)

theorem retry_goes {call : Nat} {used : Token} {owner : Option UserId} (sound : Sound tab) :
    Goes tab (tab.retry locks call used owner) := by
  unfold Tab.retry
  split
  · split
    · exact replay_goes (Goes.refl sound)
    · exact (refresh_goes sound).beside rfl rfl rfl (Nat.le_refl _)
  · exact (refresh_goes sound).beside rfl rfl rfl (Nat.le_refl _)

theorem ran_goes {call : Nat} {result : Except Failure Unit} (sound : Sound tab)
    (went : tab.ran locks call result = some next) : Goes tab next := by
  have refl := Goes.refl sound
  unfold Tab.ran at went
  split at went
  · cases went
    exact refl.beside rfl rfl rfl (Nat.le_refl _)
  · split at went
    · split at went
      · cases went
        exact refl.beside rfl rfl rfl (Nat.le_refl _)
      · cases went
        exact retry_goes sound
    · cases went
      exact refl.beside rfl rfl rfl (Nat.le_refl _)
  · cases went
    exact refl.beside rfl rfl rfl (Nat.le_refl _)
  · cases went
    exact refl.beside rfl rfl rfl (Nat.le_refl _)
  · cases went

theorem refreshed_goes {call : Nat} (sound : Sound tab) (went : tab.refreshed call = some next) :
    Goes tab next := by
  have refl := Goes.refl sound
  unfold Tab.refreshed at went
  split at went
  · split at went
    · split at went
      · cases went
        exact refl.beside rfl rfl rfl (Nat.le_refl _)
      · cases went
        exact refl.beside rfl rfl rfl (Nat.le_refl _)
    · cases went
  · split at went
    · split at went
      · cases went
        exact replay_goes refl
      · cases went
        exact refl.beside rfl rfl rfl (Nat.le_refl _)
    · cases went
  · cases went

theorem leave_goes {logout : Nat} {success : Bool} (sound : Sound tab) :
    Goes tab (tab.leave logout success) := by
  unfold Tab.leave
  dsimp only
  split <;> exact (Goes.refl sound).beside rfl rfl rfl (Nat.le_succ _)

/-- Each event keeps the invariant, the epochs and the calls. -/
theorem turn_goes {event : Event} (sound : Sound tab) (turned : turn locks tab event = some next) :
    Goes tab next := by
  have refl := Goes.refl sound
  have staged : ∀ {refresh : Nat} {run : Refresh}, tab.refreshes[refresh]? = some run →
      tab.stageOf refresh = some run.stage := by
    intro refresh run found
    simp [Tab.stageOf, found]
  cases event with
  | refresh =>
      cases turned
      exact refresh_goes sound
  | lockGranted refresh =>
      simp only [turn] at turned
      split at turned
      · rename_i found
        cases turned
        exact rotate_goes sound (staged found)
      · cases turned
  | lockRefused refresh error =>
      simp only [turn] at turned
      split at turned
      · rename_i found
        cases turned
        exact stage_goes sound (staged found) (by simp) (by simp) _ (by simp)
      · cases turned
  | answered call reply =>
      obtain ⟨asked, waits, went⟩ := Option.bind_eq_some_iff.mp turned
      exact answered_goes sound reply waits went
  | applies refresh =>
      simp only [turn] at turned
      split at turned
      · rename_i found
        cases turned
        exact apply_goes sound (staged found)
      · cases turned
  | settles refresh =>
      simp only [turn] at turned
      split at turned
      · rename_i found
        cases turned
        exact settle_goes sound (staged found)
      · cases turned
  | signedIn token userId =>
      cases turned
      exact refl.beside rfl rfl rfl (Nat.le_succ _)
  | logout =>
      cases turned
      exact ask_goes sound rfl rfl rfl rfl trivial trivial
  | leaves logout =>
      simp only [turn] at turned
      split at turned
      · cases turned
        exact leave_goes sound
      · cases turned
  | retryLogout =>
      cases turned
      unfold Tab.retryLogout
      split
      · exact ask_goes sound rfl rfl rfl rfl trivial trivial
      · exact refl
  | connect channel =>
      cases turned
      exact refl.beside rfl rfl rfl (Nat.le_refl _)
  | disconnect channel =>
      cases turned
      exact refl.beside rfl rfl rfl (Nat.le_refl _)
  | message channel text =>
      simp only [turn] at turned
      split at turned
      · cases turned
        unfold Tab.message
        split
        · exact refl.beside rfl rfl rfl (Nat.le_succ _)
        · exact refl
      · cases turned
  | otherTab pending =>
      cases turned
      exact refl.beside rfl rfl rfl (Nat.le_refl _)
  | authed =>
      cases turned
      unfold Tab.begin
      split
      · exact refl.beside rfl rfl rfl (Nat.le_refl _)
      · exact (refresh_goes sound).beside rfl rfl rfl (Nat.le_refl _)
  | refreshed call => exact refreshed_goes sound turned
  | ran call result => exact ran_goes sound turned

theorem initial_sound (logoutPending : Bool) : Sound (Tab.initial logoutPending) := by
  constructor
  · intro refresh stage is
    simp [Tab.stageOf, Tab.initial] at is
  · intro refresh epoch is
    simp [Tab.startedOf, Tab.initial] at is
  · intro call asked waits
    simp [Tab.initial, waiting_iff] at waits
  · intro refresh ended
    simp [Tab.stageOf, Tab.initial] at ended

end Goes

/-! ## Who is signed in -/

/-- A sign-in, the end of a sign-out here, or word of one elsewhere. -/
def Decides : Event → Prop
  | .signedIn _ _ => True
  | .leaves _ => True
  | .message _ text => text = "logout"
  | _ => False

/-- The session is over: nobody is signed in any more, or the page is told so. -/
def Ends (tab next : Tab) : Prop :=
  tab.current ≠ none ∧ next.current = none ∨
    ∃ reason, next.said = tab.said ++ [.onEnded reason]

section Current

variable {tab next : Tab} {locks : Bool}

theorem rotate_current (refresh : Nat) : (tab.rotate refresh).current = tab.current ∧
    (tab.rotate refresh).said = tab.said := by
  unfold Tab.rotate
  split <;> exact ⟨rfl, rfl⟩

theorem refresh_current : (tab.refresh locks).1.current = tab.current ∧
    (tab.refresh locks).1.said = tab.said := by
  unfold Tab.refresh
  split
  · exact ⟨rfl, rfl⟩
  · split
    · exact ⟨rfl, rfl⟩
    · exact @rotate_current tab.begun _

theorem answered_current {call : Nat} {asked : Ask} {reply : Reply}
    (went : tab.answered call asked reply = some next) :
    next.current = tab.current ∧ next.said = tab.said := by
  unfold Tab.answered at went
  dsimp only at went
  split at went
  · cases went
    exact ⟨rfl, rfl⟩
  · cases went
    exact ⟨rfl, rfl⟩
  · rename_i revoker
    cases went
    cases revoker <;> exact ⟨rfl, rfl⟩
  · rename_i revoker _
    cases went
    cases revoker <;> exact ⟨rfl, rfl⟩
  · cases went

theorem replay_current {call : Nat} {owner : Option UserId} {token : Token} :
    (tab.replay call owner token).current = tab.current ∧
      (tab.replay call owner token).said = tab.said := by
  unfold Tab.replay
  split
  · split <;> exact ⟨rfl, rfl⟩
  · exact ⟨rfl, rfl⟩

theorem retry_current {call : Nat} {used : Token} {owner : Option UserId} :
    (tab.retry locks call used owner).current = tab.current ∧
      (tab.retry locks call used owner).said = tab.said := by
  unfold Tab.retry
  split
  · split
    · exact replay_current
    · exact refresh_current
  · exact refresh_current

theorem ran_current {call : Nat} {result : Except Failure Unit}
    (went : tab.ran locks call result = some next) :
    next.current = tab.current ∧ next.said = tab.said := by
  unfold Tab.ran at went
  split at went
  · cases went
    exact ⟨rfl, rfl⟩
  · split at went
    · split at went
      · cases went
        exact ⟨rfl, rfl⟩
      · cases went
        exact retry_current
    · cases went
      exact ⟨rfl, rfl⟩
  · cases went
    exact ⟨rfl, rfl⟩
  · cases went
    exact ⟨rfl, rfl⟩
  · cases went

theorem refreshed_current {call : Nat} (went : tab.refreshed call = some next) :
    next.current = tab.current ∧ next.said = tab.said := by
  unfold Tab.refreshed at went
  split at went
  · split at went
    · split at went
      · cases went
        exact ⟨rfl, rfl⟩
      · cases went
        exact ⟨rfl, rfl⟩
    · cases went
  · split at went
    · split at went
      · cases went
        exact replay_current
      · cases went
        exact ⟨rfl, rfl⟩
    · cases went
  · cases went

/-- Who is signed in changes when somebody decides it, or when a refresh of this epoch
has its result applied. -/
theorem turn_current {event : Event} (turned : turn locks tab event = some next) :
    next.current = tab.current ∧ next.said = tab.said ∨ Decides event ∨
      ∃ refresh result, event = .applies refresh ∧
        tab.refreshes[refresh]? = some ⟨tab.epoch, .resolved result⟩ ∧
        next = tab.apply refresh tab.epoch result := by
  cases event with
  | refresh =>
      cases turned
      exact .inl refresh_current
  | lockGranted refresh =>
      simp only [turn] at turned
      split at turned
      · cases turned
        exact .inl (rotate_current refresh)
      · cases turned
  | lockRefused refresh error =>
      simp only [turn] at turned
      split at turned
      · cases turned
        exact .inl ⟨rfl, rfl⟩
      · cases turned
  | answered call reply =>
      obtain ⟨asked, _, went⟩ := Option.bind_eq_some_iff.mp turned
      exact .inl (answered_current went)
  | applies refresh =>
      simp only [turn] at turned
      split at turned
      · rename_i started result found
        cases turned
        by_cases current : tab.epoch = started
        · subst current
          exact .inr (.inr ⟨refresh, result, rfl, found, rfl⟩)
        · unfold Tab.apply
          rw [if_pos current]
          exact .inl ⟨rfl, rfl⟩
      · cases turned
  | settles refresh =>
      simp only [turn] at turned
      split at turned
      · cases turned
        exact .inl ⟨rfl, rfl⟩
      · cases turned
  | signedIn token userId => exact .inr (.inl trivial)
  | logout =>
      cases turned
      exact .inl ⟨rfl, rfl⟩
  | leaves logout => exact .inr (.inl trivial)
  | retryLogout =>
      cases turned
      unfold Tab.retryLogout
      split <;> exact .inl ⟨rfl, rfl⟩
  | connect channel =>
      cases turned
      exact .inl ⟨rfl, rfl⟩
  | disconnect channel =>
      cases turned
      exact .inl ⟨rfl, rfl⟩
  | message channel text =>
      simp only [turn] at turned
      split at turned
      · cases turned
        by_cases logout : text = "logout"
        · exact .inr (.inl logout)
        · unfold Tab.message
          rw [if_neg logout]
          exact .inl ⟨rfl, rfl⟩
      · cases turned
  | otherTab pending =>
      cases turned
      exact .inl ⟨rfl, rfl⟩
  | authed =>
      cases turned
      unfold Tab.begin
      split
      · exact .inl ⟨rfl, rfl⟩
      · exact .inl refresh_current
  | refreshed call => exact .inl (refreshed_current turned)
  | ran call result => exact .inl (ran_current turned)

/-- Only a result that found the session ended ends it. -/
theorem apply_ends {refresh started : Nat} {result : RefreshResult}
    (ends : Ends tab (tab.apply refresh started result)) : result = .ended := by
  unfold Tab.apply at ends
  split at ends
  · rcases ends with ⟨someone, nobody⟩ | ⟨reason, said⟩
    · exact absurd nobody someone
    · simp [Tab.setStage] at said
  · cases result with
    | ok found =>
        dsimp only at ends
        split at ends
        · split at ends
          · rcases ends with ⟨_, nobody⟩ | ⟨reason, said⟩
            · cases nobody
            · simp [Tab.setStage, Tab.say] at said
          · rcases ends with ⟨_, nobody⟩ | ⟨reason, said⟩
            · cases nobody
            · simp [Tab.setStage] at said
        · rcases ends with ⟨_, nobody⟩ | ⟨reason, said⟩
          · cases nobody
          · simp [Tab.setStage] at said
    | ended => rfl
    | unavailable error =>
        rcases ends with ⟨someone, nobody⟩ | ⟨reason, said⟩
        · exact absurd nobody someone
        · simp [Tab.setStage] at said

/-- A sign-in or a sign-out is a new epoch. -/
theorem decides_epoch {event : Event} (turned : turn locks tab event = some next)
    (decides : Decides event) : next.epoch = tab.epoch + 1 := by
  cases event with
  | signedIn token userId =>
      cases turned
      rfl
  | leaves logout =>
      simp only [turn] at turned
      split at turned
      · cases turned
        unfold Tab.leave
        dsimp only
        split <;> rfl
      · cases turned
  | message channel text =>
      simp only [turn] at turned
      split at turned
      · cases turned
        have logout : text = "logout" := decides
        unfold Tab.message
        rw [if_pos logout]
        rfl
      · cases turned
  | _ => exact absurd decides id

theorem run_sound {pending : Bool} (run : Run (turn locks) (Tab.initial pending) tab) : Sound tab :=
  run_keeps (fun _ _ _ sound turned => (turn_goes sound turned).sound) (initial_sound pending) run

/-- Epochs only grow, and a refresh keeps the one it started in. -/
structure Later (tab next : Tab) : Prop where
  epoch : tab.epoch ≤ next.epoch
  started : ∀ refresh epoch, tab.startedOf refresh = some epoch →
    next.startedOf refresh = some epoch

theorem run_later (sound : Sound tab) (run : Run (turn locks) tab next) : Later tab next := by
  apply run_relates (fun _ _ _ sound turned => (turn_goes sound turned).sound) _ _ _ sound run
  · intro state
    exact ⟨Nat.le_refl _, fun _ _ is => is⟩
  · intro first second third one two
    refine ⟨Nat.le_trans one.epoch two.epoch, ?_⟩
    intro refresh epoch is
    exact two.started refresh epoch (one.started refresh epoch is)
  · intro state event after sound turned
    have goes := turn_goes sound turned
    exact ⟨goes.epoch, goes.started⟩

end Current

end Foc.Web
