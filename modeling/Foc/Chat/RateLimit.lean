import Foc.Chat.Sending

/-!
The send limit over whole runs: what any window of a minute holds, what a refusal
reports, and what becomes of a send that waited as long as it was told.
-/
namespace Foc.Chat.Sending
open Library Library.EventLoop Library.LockTable

variable {settings : Settings} {state after : State}

/-- Turns that store no message of this sender. -/
def quietly (settings : Settings) (senderId : UserId) : Turn State Event := fun state event =>
  (turn settings state event).filter fun after =>
    after.messages.all fun message => message.senderId != senderId || state.messages.contains message

theorem quiet_turn {senderId : UserId} {event : Event}
    (turned : quietly settings senderId state event = some after) :
    turn settings state event = some after ∧
      ∀ message ∈ after.messages, message.senderId = senderId → message ∈ state.messages := by
  obtain ⟨turned, quiet⟩ := Option.filter_eq_some_iff.mp turned
  refine ⟨turned, ?_⟩
  intro message there sent
  have stored := List.all_eq_true.mp quiet message there
  simpa [sent] using stored

/-- A turn stores nothing, or one message that was not there. -/
theorem moved_messages (sound : Sound settings state) (moved : Moved settings state after) :
    after.messages.Sublist state.messages ∨
      ∃ message, message ∉ state.messages ∧ after.messages = state.messages ++ [message] := by
  cases moved with
  | advance index request stage found stepped =>
      rcases write_messages request with ⟨message, asOf, is, stored⟩ | ⟨quiet, -⟩
      · have knows := sound.knows index request found
        rw [is] at knows
        obtain ⟨none, -, -, ⟨latestSeq, made⟩, -⟩ := knows
        refine .inr ⟨message, ?_, stored⟩
        intro there
        exact none message there (made ▸ ⟨rfl, rfl, rfl⟩)
      · exact .inl (write_fewer quiet)
  | delete orderId condemned free => exact .inl List.filter_sublist
  | time | clock | order | arrive | leave | condemn => exact .inl (List.Sublist.refl _)

theorem quiet_sender {senderId : UserId} {event : Event} (sound : Sound settings state)
    (turned : quietly settings senderId state event = some after) :
    (ofSender after senderId).Sublist (ofSender state senderId) := by
  obtain ⟨turned, quiet⟩ := quiet_turn turned
  rcases moved_messages sound (turn_moved turned) with fewer | ⟨message, fresh, stored⟩
  · exact fewer.filter _
  · have other : (message.senderId == senderId) = false := by
      rw [beq_eq_false_iff_ne]
      intro same
      exact fresh (quiet message (by simp [stored]) same)
    rw [ofSender, stored, List.filter_append, List.filter_singleton, other]
    simp [ofSender]

theorem moved_now (moved : Moved settings state after) : state.now ≤ after.now := by
  cases moved with
  | time now later => exact later
  | advance index request stage found stepped => exact (write_now request).ge
  | clock | order | arrive | leave | condemn | delete => exact Int.le_refl _

/-! ## What a refusal says -/

/-- A statement that refuses counted a full window. -/
theorem advance_refused {request : Request} {seconds : Int}
    (stepped : advance settings state request = some (.answered (.retryAfter seconds))) :
    ∃ latestSeq asOf, request.stage = .counting latestSeq asOf ∧
      retryAfter state request.caller.userId asOf = some seconds := by
  cases is : request.stage with
  | counting latestSeq asOf =>
      simp only [advance, is] at stepped
      split at stepped
      · next found refused =>
        cases stepped
        exact ⟨latestSeq, asOf, rfl, refused⟩
      · cases stepped
  | informed order =>
      simp only [advance, is] at stepped
      split at stepped
      · next reply refused =>
        cases stepped
        rcases refusal_reply refused with same | same
        · cases same
        · cases same
      · split at stepped
        · cases stepped
        · cases stepped
  | admitted | channel =>
      simp only [advance, is, repeated] at stepped
      repeat' split at stepped
      all_goals cases stepped
  | arrived | opening | opened | unsent | sender | unstored | counted | inserted | answered | lost =>
      simp only [advance, is] at stepped
      repeat' split at stepped
      all_goals cases stepped

/-- Past this time the sender is under the limit. -/
def Cooled (state : State) (senderId : UserId) (from_ : Int) : Prop :=
  ∀ asOf, from_ ≤ asOf → (recent state senderId asOf).length < sendLimit

theorem cooled_frame {senderId : UserId} {from_ : Int} (cooled : Cooled state senderId from_)
    (fewer : (ofSender after senderId).Sublist (ofSender state senderId)) :
    Cooled after senderId from_ := by
  intro asOf later
  have less := cooled asOf later
  rw [recent_length] at less ⊢
  exact (within_sublist fewer _).length_le.trans_lt less

theorem ceil_covers (time : Int) : time ≤ max 1 (ceilSeconds time) * 1000000 := by
  simp only [ceilSeconds]
  omega

/-- A full window holds the limit and no more, so it is under it once the oldest message
is out. -/
theorem refused_cools (sound : Sound settings state) {senderId : UserId} {asOf seconds : Int}
    (counts : Counts state senderId asOf)
    (refused : retryAfter state senderId asOf = some seconds) :
    Cooled state senderId (asOf + seconds * 1000000) := by
  obtain ⟨-, oldest, listed, least, rfl⟩ := retry_some refused
  intro later waited
  have covered := ceil_covers (oldest + window - asOf)
  have most : (recent state senderId asOf).length ≤ sendLimit := by
    have bounded := sound.limit senderId
      (fun sentAt => decide (asOf - window < sentAt) && decide (sentAt ≤ asOf)) (by
        intro first second inner other
        simp only [Bool.and_eq_true, decide_eq_true_eq] at inner other
        omega)
    have same : within state senderId (fun sentAt => decide (asOf - window < sentAt)) =
        within state senderId
          (fun sentAt => decide (asOf - window < sentAt) && decide (sentAt ≤ asOf)) := by
      apply List.filter_congr
      intro message there
      by_cases sent : message.senderId = senderId
      · simp [counts.before message there sent]
      · rw [beq_eq_false_iff_ne.mpr sent]
        rfl
    rw [recent_length, same]
    exact bounded
  have fewer : (recent state senderId later).Sublist (recent state senderId asOf) := by
    rw [recent_within, recent_within]
    apply List.Sublist.map
    apply List.monotone_filter_right
    intro message is
    rw [Bool.and_eq_true, decide_eq_true_eq] at is ⊢
    exact ⟨is.1, by omega⟩
  have out : oldest ∉ recent state senderId later := by
    intro inside
    have since := (mem_recent inside).1
    omega
  have shorter : (recent state senderId later).length < (recent state senderId asOf).length := by
    apply Nat.lt_of_le_of_ne fewer.length_le
    intro same
    exact out (fewer.eq_of_length same ▸ listed)
  omega

/-! ## After the wait -/

/-- A retry that arrived once its sender was cooled counts from then on, and is not
refused. -/
def Retried (arrived : Nat) (senderId : UserId) (from_ : Int) (state : State) : Prop :=
  ∀ (index : Nat) request, arrived ≤ index → state.requests[index]? = some request →
    request.caller.userId = senderId →
    (∀ seconds, request.stage ≠ .answered (.retryAfter seconds)) ∧
    ∀ latestSeq asOf, request.stage = .counting latestSeq asOf → from_ ≤ asOf

/-- One statement of the retry, counted since then. -/
theorem retried_advance {request : Request} {stage : Stage} {from_ : Int}
    (cooled : Cooled state request.caller.userId from_) (later : from_ ≤ state.now)
    (since : ∀ latestSeq asOf, request.stage = .counting latestSeq asOf → from_ ≤ asOf)
    (stepped : advance settings state request = some stage) :
    (∀ seconds, stage ≠ .answered (.retryAfter seconds)) ∧
      ∀ latestSeq asOf, stage = .counting latestSeq asOf → from_ ≤ asOf := by
  constructor
  · rintro seconds rfl
    obtain ⟨latestSeq, asOf, is, refused⟩ := advance_refused stepped
    have full := (retry_some refused).1
    have less := cooled asOf (since latestSeq asOf is)
    omega
  · rintro latestSeq asOf rfl
    cases is : request.stage with
    | unstored before =>
        simp only [advance, is] at stepped
        cases stepped
        exact later
    | admitted | channel | informed =>
        simp only [advance, is, repeated] at stepped
        repeat' split at stepped
        all_goals cases stepped
    | arrived | opening | opened | unsent | sender | counting | counted | inserted | answered
      | lost =>
        simp only [advance, is] at stepped
        repeat' split at stepped
        all_goals cases stepped

theorem retried_moved {arrived : Nat} {senderId : UserId} {from_ : Int}
    (retried : Retried arrived senderId from_ state) (cooled : Cooled state senderId from_)
    (later : from_ ≤ state.now) (moved : Moved settings state after) :
    Retried arrived senderId from_ after := by
  cases moved with
  | time | clock | order | condemn | delete => exact retried
  | arrive request is =>
      intro index asked late found sent
      rcases get_append found with found | ⟨-, rfl⟩
      · exact retried index asked late found sent
      · simp [is]
  | advance index request stage found stepped =>
      intro other asked late there sent
      rw [State.put, write_requests] at there
      rcases (get_set found).mp there with ⟨rfl, rfl⟩ | ⟨-, there⟩
      · obtain ⟨-, since⟩ := retried index request late found sent
        have cooled : Cooled state request.caller.userId from_ := sent ▸ cooled
        exact retried_advance cooled later since stepped
      · exact retried other asked late there sent
  | leave index request stage found unanswered left =>
      intro other asked late there sent
      rcases (get_set found).mp there with ⟨rfl, rfl⟩ | ⟨-, there⟩
      · rcases left with rfl | ⟨rfl, -⟩
        · simp
        · simp
      · exact retried other asked late there sent

/-- What a quiet run keeps of a sender. -/
structure Quiet (settings : Settings) (senderId : UserId) (from_ : Int) (state : State) : Prop where
  sound : Sound settings state
  cooled : Cooled state senderId from_

theorem quiet_keeps {senderId : UserId} {from_ : Int} {event : Event}
    (quiet : Quiet settings senderId from_ state)
    (turned : quietly settings senderId state event = some after) :
    Quiet settings senderId from_ after where
  sound := sound_moved quiet.sound (turn_moved (quiet_turn turned).1)
  cooled := cooled_frame quiet.cooled (quiet_sender quiet.sound turned)

/-- The same once the sender has waited, with what its later sends count from. -/
structure Waited (settings : Settings) (senderId : UserId) (from_ : Int) (arrived : Nat)
    (state : State) : Prop where
  quiet : Quiet settings senderId from_ state
  since : from_ ≤ state.now
  retried : Retried arrived senderId from_ state

theorem waited_keeps {senderId : UserId} {from_ : Int} {arrived : Nat} {event : Event}
    (waited : Waited settings senderId from_ arrived state)
    (turned : quietly settings senderId state event = some after) :
    Waited settings senderId from_ arrived after := by
  have moved := turn_moved (quiet_turn turned).1
  exact ⟨quiet_keeps waited.quiet turned, waited.since.trans (moved_now moved),
    retried_moved waited.retried waited.quiet.cooled waited.since moved⟩

/-- A refusal, and the state it leaves: the sender has cooled so many seconds later. -/
theorem refusal_cools (sound : Sound settings state) {index : Nat} {request refused : Request}
    {seconds : Int} (found : state.requests[index]? = some request)
    (turned : turn settings state (.advance index) = some after)
    (answered : after.requests[index]? = some refused)
    (limited : refused.stage = .answered (.retryAfter seconds)) :
    Quiet settings request.caller.userId (after.now + seconds * 1000000) after := by
  have after_sound := sound_moved sound (turn_moved turned)
  simp only [turn, found, Option.bind_eq_bind, Option.bind_some] at turned
  obtain ⟨stage, stepped, turned⟩ := Option.bind_eq_some_iff.mp turned
  cases turned
  rw [State.put, write_requests] at answered
  obtain ⟨-, rfl⟩ | ⟨apart, -⟩ := (get_set found).mp answered
  · subst limited
    obtain ⟨latestSeq, asOf, is, refused⟩ := advance_refused stepped
    have knows := sound.knows index request found
    rw [is] at knows
    have cooled := refused_cools sound knows.2 refused
    refine ⟨after_sound, ?_⟩
    intro later waited
    have same : state.write request = state := by simp [State.write, is]
    rw [same] at waited ⊢
    have begun := knows.2.now
    have now : (state.put index request (.answered (.retryAfter seconds))).now = state.now := rfl
    exact cooled later (by omega)
  · exact absurd rfl apart

/-- In every run: any minute's window holds at most the limit of a sender's messages; a
refusal reports 1 to 60 seconds; and a send that arrives so much later is not refused, if
none of its sender's messages was stored since. -/
theorem rate_limited {start : State} (fresh : start.Fresh) (run : Run (turn settings) start state) :
    (∀ senderId since,
      (within state senderId fun sentAt =>
        decide (since < sentAt) && decide (sentAt ≤ since + window)).length ≤ sendLimit ∧
      (within state senderId fun sentAt =>
        decide (since ≤ sentAt) && decide (sentAt < since + window)).length ≤ sendLimit) ∧
    (∀ (index : Nat) request seconds, state.requests[index]? = some request →
      request.stage = .answered (.retryAfter seconds) → 1 ≤ seconds ∧ seconds ≤ 60) ∧
    ∀ (index : Nat) request refused seconds after later final, state.requests[index]? = some request →
      turn settings state (.advance index) = some after →
      after.requests[index]? = some refused → refused.stage = .answered (.retryAfter seconds) →
      Run (quietly settings request.caller.userId) after later →
      after.now + seconds * 1000000 ≤ later.now →
      Run (quietly settings request.caller.userId) later final →
      ∀ (other : Nat) retry again, later.requests.length ≤ other →
        final.requests[other]? = some retry → retry.caller.userId = request.caller.userId →
        retry.stage ≠ .answered (.retryAfter again) := by
  have sound := run_sound fresh run
  refine ⟨?_, ?_, ?_⟩
  · intro senderId since
    constructor
    · apply sound.limit
      intro first second inner other
      simp only [Bool.and_eq_true, decide_eq_true_eq] at inner other
      omega
    · apply sound.limit
      intro first second inner other
      simp only [Bool.and_eq_true, decide_eq_true_eq] at inner other
      omega
  · intro index request seconds found limited
    have knows := sound.knows index request found
    rw [limited] at knows
    exact knows
  · intro index request refused seconds after later final found turned answered limited first waited
      second other retry again late there sent
    have quiet := run_keeps (fun _ _ _ quiet turned => quiet_keeps quiet turned)
      (refusal_cools sound found turned answered limited) first
    have none : Retried later.requests.length request.caller.userId
        (after.now + seconds * 1000000) later := by
      intro index asked late found
      have inside := (List.getElem?_eq_some_iff.mp found).1
      omega
    have kept := run_keeps (fun _ _ _ kept turned => waited_keeps kept turned)
      (Waited.mk quiet waited none) second
    exact (kept.retried other retry late there sent).1 again

theorem rate_limited_one_sent : ∃ state, Run (turn settingsOne) blank state ∧
    state.messages.length = 1 ∧ ∀ senderId since,
      (within state senderId fun sentAt =>
        decide (since < sentAt) && decide (sentAt ≤ since + window)).length ≤ sendLimit := by
  have sent : (turns (turn settingsOne) blank (statements 0 (keyName "hi") 12)).map
      (fun state => state.messages.length) = some 1 := by
    decide +kernel
  obtain ⟨state, reached, one⟩ := Option.map_eq_some_iff.mp sent
  have run := run_turns .refl _ reached
  exact ⟨state, run, one, fun senderId since => ((rate_limited blank_fresh run).1 senderId since).1⟩

end Foc.Chat.Sending
