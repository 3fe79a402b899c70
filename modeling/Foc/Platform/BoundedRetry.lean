import Foc.Platform.Retry

/-!
Retries end and have somewhere to go, where the attempt that a message comes with is one
the topology knows.
-/
namespace Foc.Retry
open Library
open Foc.Sender (Account headerAttempt headerFailure headerOriginalQueue headerSender)

variable {Other : Type} {runtime : Runtime Other} {settings : Settings} {message : Message Other}
  {attempt : Double}

/-! ## Exchanges -/

theorem mem_levels {delays : List Nat} {exchange : Exchange} :
    exchange ∈ (retryLevels delays).map Prod.fst ↔
      ∃ level : Nat, 1 ≤ level ∧ level ≤ delays.length ∧ exchange = .delay (.ofInt level) := by
  rw [retryLevels, List.mem_map]
  constructor
  · rintro ⟨entry, member, rfl⟩
    obtain ⟨index, inside, rfl⟩ := List.mem_mapIdx.mp member
    exact ⟨index + 1, Nat.le_add_left 1 index, inside, rfl⟩
  · rintro ⟨level, some_, most, rfl⟩
    obtain ⟨index, rfl⟩ := Nat.exists_eq_add_of_le' some_
    exact ⟨_, List.mem_mapIdx.mpr ⟨index, most, rfl⟩, rfl⟩

theorem dead_letters_declared : Exchange.deadLetters ∈ declareTopology settings := by
  simp [declareTopology]

theorem delay_declared :
    Exchange.delay attempt ∈ declareTopology settings ↔
      ∃ level : Nat, 1 ≤ level ∧ level ≤ settings.retryDelays.length ∧ attempt = .ofInt level := by
  rw [declareTopology, List.mem_append, mem_levels]
  simp

theorem at_least_natural {bound count : Nat} :
    (Double.ofInt count).atLeast bound = true ↔ bound ≤ count := by
  simp only [Double.ofInt, Double.atLeast, decide_eq_true_eq]
  exact_mod_cast Iff.rfl

theorem add_one_natural (count : Nat) : addOne (.ofInt count) = .ofInt (count + 1 : Nat) := by
  simp [addOne, Double.ofInt]

/-! ## The table a message is sent again with -/

theorem writable_some {headers : Headers Other} {userId : Option String} :
    writable runtime { headers := some headers, userId } = true ↔
      ∀ name value, headers.lookup name = some value → runtime.writes value = true := by
  rw [writable, Option.all_some, List.all_eq_true]
  constructor
  · intro writes name value found
    exact writes ⟨name, value⟩ (AList.mem_lookup_iff.mp found)
  · rintro writes ⟨name, value⟩ member
    exact writes name value (AList.mem_lookup_iff.mpr member)

/-- The headers a failure is not written over. -/
def Kept (settings : Settings) (message : Message Other) (name : String) : Prop :=
  name ≠ headerAttempt ∧ name ≠ headerOriginalQueue ∧ name ≠ headerFailure ∧
    (name = headerSender →
      senderOf message.userId (message.headers.getD ∅) settings.account = none)

theorem failed_lookup {reason name : String} :
    (failedHeaders settings message reason attempt).lookup name =
      if name = headerAttempt then some (.number attempt)
      else if name = headerOriginalQueue then some (.string settings.queue)
      else if name = headerFailure then some (.string reason)
      else (message.headers.getD ∅).lookup name := by
  rw [failedHeaders]
  split
  · next same =>
    subst same
    exact AList.lookup_insert _
  · next other =>
    rw [AList.lookup_insert_ne other]
    split
    · next same =>
      subst same
      exact AList.lookup_insert _
    · next other =>
      rw [AList.lookup_insert_ne other]
      split
      · next same =>
        subst same
        exact AList.lookup_insert _
      · next other => rw [AList.lookup_insert_ne other]

theorem sender_failed {reason : String} :
    senderOf message.userId (failedHeaders settings message reason attempt) settings.account =
      senderOf message.userId (message.headers.getD ∅) settings.account := by
  have same : (failedHeaders settings message reason attempt).lookup headerSender =
      (message.headers.getD ∅).lookup headerSender := by
    rw [failed_lookup, if_neg (by decide), if_neg (by decide), if_neg (by decide)]
  simp only [senderOf, same]

/-- The table of what is published. -/
def sent (settings : Settings) (message : Message Other) (reason : String) (attempt : Double) :
    Headers Other :=
  match senderOf message.userId (message.headers.getD ∅) settings.account with
  | some sender => (failedHeaders settings message reason attempt).insert headerSender (.string sender)
  | none => failedHeaders settings message reason attempt

theorem resend_sent {reason : String} :
    resendProperties settings message (failedHeaders settings message reason attempt) =
      { userId := settings.account.map Account.name
        headers := some (sent settings message reason attempt) } := by
  rw [resendProperties, sender_failed]
  rfl

theorem sent_lookup {reason name : String} (other : name ≠ headerSender) :
    (sent settings message reason attempt).lookup name =
      (failedHeaders settings message reason attempt).lookup name := by
  rw [sent]
  split
  · exact AList.lookup_insert_ne other
  · rfl

/-- The message's own headers have to be encoded, but for those written over. -/
theorem sent_writable {reason : String} {userId : Option String} :
    writable runtime { headers := some (sent settings message reason attempt), userId } = true ↔
      runtime.writes (.number attempt) = true ∧
        ∀ name value, Kept settings message name →
          (message.headers.getD ∅).lookup name = some value → runtime.writes value = true := by
  rw [writable_some]
  constructor
  · intro writes
    constructor
    · apply writes headerAttempt
      rw [sent_lookup (by decide), failed_lookup, if_pos rfl]
    · rintro name value ⟨notAttempt, notQueue, notFailure, sender⟩ found
      apply writes name
      have kept : (failedHeaders settings message reason attempt).lookup name = some value := by
        rw [failed_lookup, if_neg notAttempt, if_neg notQueue, if_neg notFailure, found]
      by_cases is : name = headerSender
      · rw [sent, sender is]
        exact kept
      · rw [sent_lookup is, kept]
  · rintro ⟨number, kept⟩ name value found
    -- A string or the attempt, or a header of the message's own.
    have failed : (failedHeaders settings message reason attempt).lookup name = some value →
        (name = headerSender → senderOf message.userId (message.headers.getD ∅)
          settings.account = none) → runtime.writes value = true := by
      rw [failed_lookup]
      split
      · rintro ⟨⟩ -
        exact number
      · split
        · rintro ⟨⟩ -
          exact runtime.writes_string _
        · split
          · rintro ⟨⟩ -
            exact runtime.writes_string _
          · intro own sender
            exact kept name value ⟨by assumption, by assumption, by assumption, sender⟩ own
    by_cases is : name = headerSender
    · subst is
      cases sender : senderOf message.userId (message.headers.getD ∅) settings.account with
      | none =>
          rw [sent, sender] at found
          exact failed found fun _ => sender
      | some account =>
          rw [sent, sender] at found
          rw [AList.lookup_insert] at found
          cases found
          exact runtime.writes_string _
    · rw [sent_lookup is] at found
      exact failed found fun same => absurd same is

/-! ## The course of a message -/

def Sendable (runtime : Runtime Other) (settings : Settings) (message : Message Other)
    (attempt : Double) : Prop :=
  runtime.writes (.number attempt) = true ∧
    ∀ name value, Kept settings message name →
      (message.headers.getD ∅).lookup name = some value → runtime.writes value = true

theorem sendable_again {reason : String} {next : Double} {userId : Option String}
    (writes : writable runtime
      { headers := some (sent settings message reason attempt), userId } = true)
    (number : runtime.writes (.number next) = true) :
    Sendable runtime settings { headers := some (sent settings message reason attempt), userId }
      next :=
  ⟨number, fun name value _ found => writable_some.mp writes name value found⟩

theorem attempt_sent {reason : String} {userId : Option String} :
    attemptOf runtime { headers := some (sent settings message reason attempt), userId } =
      some attempt := by
  have found : (sent settings message reason attempt).lookup headerAttempt =
      some (.number attempt) := by
    rw [sent_lookup (by decide), failed_lookup, if_pos rfl]
  rw [attemptOf, Option.bind_some, found]
  rfl

def Declared (settings : Settings) (exchange : Exchange) : Prop :=
  exchange ∈ (retryLevels settings.retryDelays).map Prod.fst

/-- What is left of a course: at most so many steps, the runs so far being fewer than the
attempt the message is at. -/
def Left (runtime : Runtime Other) (settings : Settings) (steps : Nat) (course : Course Other) : Prop :=
  (∀ exchange ∈ course.retries, Declared settings exchange) ∧
    match course.place with
    | .acknowledged => course.deadLettered = 1 ∧ course.runs ≤ settings.maxAttempts
    | .delayed message => course.deadLettered = 0 ∧ ∃ level : Nat, course.runs < level ∧
        level ≤ settings.maxAttempts ∧ 2 * (settings.maxAttempts - level) + 2 ≤ steps ∧
        attemptOf runtime message = some (.ofInt level) ∧
        ∀ next : Nat, Sendable runtime settings message (.ofInt next)
    | .queued message => course.deadLettered = 0 ∧
        ((∃ level : Nat, course.runs < level ∧ level < settings.maxAttempts ∧
            2 * (settings.maxAttempts - level) + 1 ≤ steps ∧
            attemptOf runtime message = some (.ofInt level) ∧
            Sendable runtime settings message (.ofInt (level + 1 : Nat))) ∨
          ∃ attempt, attempt.atLeast settings.maxAttempts = true ∧
            course.runs < settings.maxAttempts ∧ 1 ≤ steps ∧
            attemptOf runtime message = some attempt ∧
            Sendable runtime settings message attempt)

theorem step_queued {reason : Nat → String} {course : Course Other}
    (queued : course.place = .queued message) (is : attemptOf runtime message = some attempt) :
    step runtime settings reason course =
      if attempt.atLeast settings.maxAttempts then
        if confirmed runtime settings .deadLetters
            { userId := settings.account.map Account.name
              headers := some (sent settings message (reason course.runs) attempt) } then
          { place := .acknowledged, runs := course.runs + 1, retries := course.retries
            deadLettered := course.deadLettered + 1 }
        else { course with runs := course.runs + 1 }
      else
        if confirmed runtime settings (.delay attempt)
            { userId := settings.account.map Account.name
              headers := some (sent settings message (reason course.runs) (addOne attempt)) } then
          { course with
            place := .delayed
              { userId := settings.account.map Account.name
                headers := some (sent settings message (reason course.runs) (addOne attempt)) }
            runs := course.runs + 1, retries := course.retries ++ [.delay attempt] }
        else { course with runs := course.runs + 1, retries := course.retries ++ [.delay attempt] } := by
  rw [step, queued]
  simp only [is, retryOrDeadLetter, resend_sent]
  split
  · rfl
  · rfl

theorem step_left {reason : Nat → String} {steps : Nat} {course : Course Other}
    (left : Left runtime settings (steps + 1) course) :
    Left runtime settings steps (step runtime settings reason course) := by
  obtain ⟨retries, left⟩ := left
  cases place : course.place with
  | acknowledged =>
      rw [place] at left
      rw [step, place]
      refine ⟨retries, ?_⟩
      rw [place]
      exact left
  | delayed message =>
      rw [place] at left
      obtain ⟨none, level, fewer, most, enough, is, sendable⟩ := left
      rw [step, place]
      refine ⟨retries, none, ?_⟩
      rcases Nat.lt_or_eq_of_le most with less | same
      · exact .inl ⟨level, fewer, less, by omega, is, sendable _⟩
      · refine .inr ⟨.ofInt level, at_least_natural.mpr (by omega), ?_, by omega, is, sendable _⟩
        change course.runs < _
        omega
  | queued message =>
      rw [place] at left
      obtain ⟨none, ⟨level, fewer, less, enough, is, sendable⟩ | ⟨attempt, spent, fewer, enough, is,
        sendable⟩⟩ := left
      · -- A retry, to the level of the attempt.
        have low : ¬ (Double.ofInt level).atLeast settings.maxAttempts = true := by
          rw [at_least_natural]
          omega
        have inside : Exchange.delay (.ofInt level) ∈ declareTopology settings :=
          delay_declared.mpr ⟨level, by omega, by unfold Settings.maxAttempts at less; omega, rfl⟩
        have writes := (@sent_writable _ _ _ _ _ (reason course.runs)
          (settings.account.map Account.name)).mpr sendable
        have confirms : confirmed runtime settings (.delay (.ofInt level))
            { userId := settings.account.map Account.name
              headers := some (sent settings message (reason course.runs)
                (.ofInt (level + 1 : Nat))) } = true := by
          rw [confirmed, decide_eq_true inside, writes, Bool.and_self]
        rw [step_queued place is, if_neg low, add_one_natural, if_pos confirms]
        constructor
        · intro exchange member
          rcases List.mem_append.mp member with before | here
          · exact retries exchange before
          · rw [List.mem_singleton.mp here, Declared, mem_levels]
            exact ⟨level, by omega, by unfold Settings.maxAttempts at less; omega, rfl⟩
        · refine ⟨none, level + 1, ?_, by omega, by omega, attempt_sent, ?_⟩
          · change course.runs + 1 < _
            omega
          · intro next
            exact sendable_again writes (runtime.writes_natural next)
      · have writes := (@sent_writable _ _ _ _ _ (reason course.runs)
          (settings.account.map Account.name)).mpr sendable
        have confirms : confirmed runtime settings .deadLetters
            { userId := settings.account.map Account.name
              headers := some (sent settings message (reason course.runs) attempt) } = true := by
          rw [confirmed, decide_eq_true dead_letters_declared, writes, Bool.and_self]
        rw [step_queued place is, if_pos spent, if_pos confirms]
        refine ⟨retries, ?_, ?_⟩
        · change course.deadLettered + 1 = 1
          rw [none]
        · exact fewer

/-- Retries are bounded and have somewhere to go. -/
structure Bounded (settings : Settings) (course : Nat → Course Other) : Prop where
  runs : ∀ time, (course time).runs ≤ settings.maxAttempts
  retries : ∀ time, ∀ exchange ∈ (course time).retries, Declared settings exchange
  settled : ∃ time, ∀ later, time ≤ later →
    (course later).place = .acknowledged ∧ (course later).deadLettered = 1

theorem course_left {reason : Nat → String} {steps : Nat}
    (left : Left runtime settings steps (start message)) (time : Nat) :
    Left runtime settings (steps - time) (courseOf runtime settings reason message time) := by
  induction time with
  | zero => exact left
  | succ time ih =>
      rcases Nat.lt_or_ge time steps with more | done
      · have one : steps - time = steps - (time + 1) + 1 := by omega
        rw [one] at ih
        exact step_left ih
      · -- With no steps left it is acknowledged.
        have none : steps - time = 0 := by omega
        have still : steps - (time + 1) = 0 := by omega
        rw [none] at ih
        rw [still]
        apply step_left
        obtain ⟨retries, rest⟩ := ih
        refine ⟨retries, ?_⟩
        cases place : (courseOf runtime settings reason message time).place with
        | acknowledged =>
            rw [place] at rest
            exact rest
        | delayed message =>
            rw [place] at rest
            obtain ⟨_, level, _, _, enough, _⟩ := rest
            omega
        | queued message =>
            rw [place] at rest
            obtain ⟨_, ⟨level, _, _, enough, _⟩ | ⟨attempt, _, _, enough, _⟩⟩ := rest
            · omega
            · omega

theorem left_bounded {reason : Nat → String} {steps : Nat}
    (left : Left runtime settings steps (start message)) :
    Bounded settings (courseOf runtime settings reason message) := by
  have along := @course_left _ _ _ _ reason _ left
  refine ⟨?_, fun time => (along time).1, steps, ?_⟩
  · intro time
    have rest := (along time).2
    split at rest
    · exact rest.2
    · obtain ⟨_, level, fewer, most, _⟩ := rest
      omega
    · obtain ⟨_, ⟨level, fewer, most, _⟩ | ⟨attempt, _, fewer, _⟩⟩ := rest
      · omega
      · omega
  · intro later after
    have rest := (along later).2
    have none : steps - later = 0 := by omega
    rw [none] at rest
    split at rest
    · exact ⟨by assumption, rest.1⟩
    · obtain ⟨_, level, _, _, enough, _⟩ := rest
      omega
    · obtain ⟨_, ⟨level, _, _, enough, _⟩ | ⟨attempt, _, _, enough, _⟩⟩ := rest
      · omega
      · omega

/-- A message that is back in the queue after a delivery stays there. -/
theorem stuck {reason : Nat → String}
    (back : ∀ course : Course Other, course.place = .queued message →
      (step runtime settings reason course).place = .queued message) :
    ¬ Bounded settings (courseOf runtime settings reason message) := by
  intro bounded
  have queued : ∀ time, (courseOf runtime settings reason message time).place = .queued message := by
    intro time
    induction time with
    | zero => rfl
    | succ time ih => exact back _ ih
  obtain ⟨time, settled⟩ := bounded.settled
  have done := (settled time (Nat.le_refl _)).1
  rw [queued time] at done
  cases done

/-- The retries of a message are bounded and end with the dead-letter exchange exactly when
the attempt it comes with is a level of the topology or beyond the last one, and the table
it is first sent again with can be encoded. -/
theorem retries_bounded (runtime : Runtime Other) (settings : Settings) (reason : Nat → String)
    (message : Message Other) :
    Bounded settings (courseOf runtime settings reason message) ↔
      ∃ attempt, attemptOf runtime message = some attempt ∧
        (attempt.atLeast settings.maxAttempts = true ∨
          ∃ level : Nat, 1 ≤ level ∧ level ≤ settings.retryDelays.length ∧ attempt = .ofInt level) ∧
        writable runtime (retryOrDeadLetter settings message (reason 0) attempt).2 = true := by
  constructor
  · intro bounded
    cases is : attemptOf runtime message with
    | none =>
        refine absurd bounded (stuck ?_)
        intro course queued
        rw [step, queued]
        simp only [is, queued]
    | some attempt =>
        refine ⟨attempt, rfl, ?_, ?_⟩
        · by_cases spent : attempt.atLeast settings.maxAttempts = true
          · exact .inl spent
          · -- The first retry is to a level of the topology.
            right
            have listed := bounded.retries 1 (.delay attempt)
            rw [courseOf, courseOf, step_queued rfl is, if_neg spent] at listed
            have declared : Declared settings (.delay attempt) := by
              apply listed
              split
              · simp [start]
              · simp [start]
            obtain ⟨level, some_, most, same⟩ := mem_levels.mp declared
            cases same
            exact ⟨level, some_, most, rfl⟩
        · by_contra unwritable
          refine stuck ?_ bounded
          intro course queued
          rw [step_queued queued is]
          rw [retryOrDeadLetter] at unwritable
          split
          · next spent =>
            rw [if_pos spent, resend_sent, sent_writable] at unwritable
            have refused : confirmed runtime settings .deadLetters
                { userId := settings.account.map Account.name
                  headers := some (sent settings message (reason course.runs) attempt) } ≠ true := by
              rw [confirmed, ne_eq, Bool.and_eq_true, sent_writable]
              exact fun writes => unwritable writes.2
            rw [if_neg refused]
            exact queued
          · next spent =>
            rw [if_neg spent, resend_sent, sent_writable] at unwritable
            have refused : confirmed runtime settings (.delay attempt)
                { userId := settings.account.map Account.name
                  headers := some (sent settings message (reason course.runs) (addOne attempt)) } ≠
                  true := by
              rw [confirmed, ne_eq, Bool.and_eq_true, sent_writable]
              exact fun writes => unwritable writes.2
            rw [if_neg refused]
            exact queued
  · rintro ⟨attempt, is, fits, writes⟩
    rw [retryOrDeadLetter] at writes
    by_cases spent : attempt.atLeast settings.maxAttempts = true
    · rw [if_pos spent, resend_sent, sent_writable] at writes
      have left : Left runtime settings 1 (start message) :=
        ⟨List.forall_mem_nil _, rfl, .inr ⟨attempt, spent, Nat.succ_pos _, Nat.le_refl _, is, writes⟩⟩
      exact left_bounded left
    · rw [if_neg spent, resend_sent, sent_writable] at writes
      rcases fits with past | ⟨level, some_, most, rfl⟩
      · exact absurd past spent
      · rw [add_one_natural] at writes
        have less : level < settings.maxAttempts := Nat.lt_succ_of_le most
        have left : Left runtime settings (2 * (settings.maxAttempts - level) + 1) (start message) :=
          ⟨List.forall_mem_nil _, rfl, .inl ⟨level, some_, less, Nat.le_refl _, is, writes⟩⟩
        exact left_bounded left

/-- A client that encodes every value, and no string that is a number. -/
def plainRuntime : Runtime Unit where
  numberOf := fun _ => .nan
  coerce := fun _ => some .nan
  writes := fun _ => true
  writes_string := fun _ => rfl
  writes_natural := fun _ => rfl

/-- A message at attempt 0 is retried on a delay exchange that nobody declared. -/
theorem attempt_zero_stuck :
    ¬ Bounded { queue := "foc.order.credits", account := none, retryDelays := [1000, 5000] }
      (courseOf plainRuntime
        { queue := "foc.order.credits", account := none, retryDelays := [1000, 5000] }
        (fun _ => "no connection")
        { headers := some ((∅ : Headers Unit).insert headerAttempt (.number (.ofInt 0)))
          userId := none }) := by
  intro bounded
  have listed := bounded.retries 1 (.delay (.ofInt 0)) (by decide +kernel)
  obtain ⟨level, some_, _, same⟩ := mem_levels.mp listed
  have zero : (0 : Int) = level := by
    have equal := Exchange.delay.inj same
    simp only [Double.ofInt, Double.finite.injEq] at equal
    exact_mod_cast equal
  omega

end Foc.Retry
