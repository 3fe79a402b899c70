import Mathlib.Data.List.Basic

/-! Programs of one thread: an event runs to its end before the next, and what
awaits an answer goes on when a later event brings it. Runs and their rules,
and the calls such a program asks others, which answer in any order or never. -/
namespace Foc.Library.EventLoop

/-! ## Runs -/
section Runs

variable {State Event : Type}

/-- What an event does to the state, or `none` where it cannot happen. -/
abbrev Turn (State Event : Type) := State → Event → Option State

inductive Run (turn : Turn State Event) (start : State) : State → Prop where
  | refl : Run turn start start
  | next {state after : State} (event : Event) (run : Run turn start state)
      (turned : turn state event = some after) : Run turn start after

variable {turn : Turn State Event} {start middle state : State}

theorem run_append (first : Run turn start middle) (second : Run turn middle state) :
    Run turn start state := by
  induction second with
  | refl => exact first
  | next event run turned ih => exact ih.next event turned

/-- An invariant that every event keeps holds after every run. -/
theorem run_keeps {invariant : State → Prop}
    (keeps : ∀ state event after, invariant state → turn state event = some after → invariant after)
    (holds : invariant start) (run : Run turn start state) : invariant state := by
  induction run with
  | refl => exact holds
  | next event run turned ih => exact keeps _ event _ ih turned

/-- What relates the states around every event relates the ends of a run, where an
invariant holds on the way. -/
theorem run_relates {invariant : State → Prop} {relation : State → State → Prop}
    (keeps : ∀ state event after, invariant state → turn state event = some after → invariant after)
    (refl : ∀ state, relation state state)
    (trans : ∀ {first second third}, relation first second → relation second third →
      relation first third)
    (relates : ∀ state event after, invariant state → turn state event = some after →
      relation state after)
    (holds : invariant start) (run : Run turn start state) : relation start state := by
  induction run with
  | refl => exact refl start
  | next event run turned ih =>
      exact trans ih (relates _ event _ (run_keeps keeps holds run) turned)

/-- The state a list of events leads to, when each can happen. -/
def turns (turn : Turn State Event) (start : State) : List Event → Option State
  | [] => some start
  | event :: rest => (turn start event).bind fun after => turns turn after rest

theorem run_turns (run : Run turn start middle) (events : List Event)
    (reached : turns turn middle events = some state) : Run turn start state := by
  induction events generalizing middle with
  | nil =>
      simp only [turns, Option.some.injEq] at reached
      exact reached ▸ run
  | cons event rest ih =>
      simp only [turns, Option.bind_eq_some_iff] at reached
      obtain ⟨next, turned, reached⟩ := reached
      exact ih (run.next event turned) reached

/-- What holds of a state and the events that led to it, when every event keeps it. -/
theorem turns_keeps {holds : List Event → State → Prop}
    (keeps : ∀ events state event after, holds events state → turn state event = some after →
      holds (events ++ [event]) after)
    {before : List Event} (begins : holds before start) (events : List Event)
    (reached : turns turn start events = some state) : holds (before ++ events) state := by
  induction events generalizing before start with
  | nil =>
      cases reached
      rw [List.append_nil]
      exact begins
  | cons event rest ih =>
      obtain ⟨after, turned, reached⟩ := Option.bind_eq_some_iff.mp reached
      have kept := ih (keeps before start event after begins turned) reached
      rw [List.append_assoc] at kept
      exact kept

end Runs

/-! ## Calls -/
section Calls

variable {Question Reply : Type}

/-- A call and its answer, once it has one. -/
structure Call (Question Reply : Type) where
  question : Question
  reply : Option Reply
  deriving DecidableEq, Repr

/-- Every call so far, in the order they were made: a call is known by its place. -/
abbrev Calls (Question Reply : Type) := List (Call Question Reply)

def ask (calls : Calls Question Reply) (question : Question) : Calls Question Reply :=
  calls ++ [⟨question, none⟩]

/-- The question of a call that waits for its answer. -/
def waiting (calls : Calls Question Reply) (call : Nat) : Option Question :=
  match calls[call]? with
  | some ⟨question, none⟩ => some question
  | _ => none

def answer (calls : Calls Question Reply) (call : Nat) (reply : Reply) : Calls Question Reply :=
  calls.modify call fun asked => { asked with reply := some reply }

variable {calls older newer : Calls Question Reply} {call other : Nat} {question : Question}
  {reply : Reply}

theorem waiting_iff : waiting calls call = some question ↔ calls[call]? = some ⟨question, none⟩ := by
  unfold waiting
  split
  · rename_i asked found
    simp [found]
  · rename_i unasked
    constructor
    · intro absurd
      cases absurd
    · intro found
      exact absurd found (unasked question)

@[simp] theorem ask_length : (ask calls question).length = calls.length + 1 := by
  simp [ask]

@[simp] theorem answer_length : (answer calls call reply).length = calls.length := by
  simp [answer]

theorem ask_get : (ask calls question)[call]? =
    if call = calls.length then some ⟨question, none⟩ else calls[call]? := by
  unfold ask
  split
  · rename_i last
    simp [last]
  · rename_i earlier
    rcases Nat.lt_or_ge call calls.length with before | past
    · rw [List.getElem?_append_left before]
    · rw [List.getElem?_append_right past, List.getElem?_eq_none past]
      have beyond : 0 < call - calls.length := by omega
      simp [List.getElem?_singleton]
      omega

theorem answer_get : (answer calls call reply)[other]? =
    if call = other then calls[other]?.map fun asked => { asked with reply := some reply }
    else calls[other]? := by
  unfold answer
  rw [List.getElem?_modify]
  split
  · rfl
  · cases calls[other]? <;> rfl

/-- What a call asked, with or without its answer. -/
def Asked (calls : Calls Question Reply) (call : Nat) (question : Question) : Prop :=
  ∃ reply, calls[call]? = some ⟨question, reply⟩

/-- What a call asked and what it was answered. -/
def Answered (calls : Calls Question Reply) (call : Nat) (question : Question) (reply : Reply) :
    Prop :=
  calls[call]? = some ⟨question, some reply⟩

theorem asked_lt (asked : Asked calls call question) : call < calls.length := by
  obtain ⟨reply, found⟩ := asked
  exact (List.getElem?_eq_some_iff.mp found).1

theorem Answered.asked (answered : Answered calls call question reply) : Asked calls call question :=
  ⟨some reply, answered⟩

theorem asked_waits (asked : Asked calls call question) :
    waiting calls call = some question ∨ ∃ reply, Answered calls call question reply := by
  obtain ⟨reply, found⟩ := asked
  cases reply with
  | none => exact .inl (waiting_iff.mpr found)
  | some reply => exact .inr ⟨reply, found⟩

theorem asked_ask {asked : Question} : Asked (ask calls question) call asked ↔
    Asked calls call asked ∨ call = calls.length ∧ asked = question := by
  unfold Asked
  rw [ask_get]
  by_cases last : call = calls.length
  · subst last
    simp [eq_comm]
  · simp [last]

theorem answered_ask {asked : Question} : Answered (ask calls question) call asked reply ↔
    Answered calls call asked reply := by
  unfold Answered
  rw [ask_get]
  by_cases last : call = calls.length
  · subst last
    simp
  · simp [last]

theorem asked_answer {asked : Question} :
    Asked (answer calls call reply) other asked ↔ Asked calls other asked := by
  unfold Asked
  rw [answer_get]
  by_cases same : call = other
  · subst same
    cases calls[call]? with
    | none => simp
    | some found =>
        obtain ⟨_, _⟩ := found
        simp
  · simp [same]

/-- An answer that was waited for is that call's; every other call keeps its own. -/
theorem answered_answer {asked : Question} {given : Reply}
    (waited : waiting calls call = some question) :
    Answered (answer calls call reply) other asked given ↔
      Answered calls other asked given ∨ other = call ∧ asked = question ∧ given = reply := by
  have found := waiting_iff.mp waited
  unfold Answered
  rw [answer_get]
  by_cases same : call = other
  · subst same
    simp [found, eq_comm]
  · simp [same, Ne.symm same]

theorem waiting_ask {asked : Question} : waiting (ask calls question) call = some asked ↔
    waiting calls call = some asked ∨ call = calls.length ∧ asked = question := by
  rw [waiting_iff, waiting_iff, ask_get]
  by_cases last : call = calls.length
  · subst last
    simp [eq_comm]
  · simp [last]

theorem waiting_answer {asked : Question} : waiting (answer calls call reply) other = some asked ↔
    other ≠ call ∧ waiting calls other = some asked := by
  rw [waiting_iff, waiting_iff, answer_get]
  by_cases same : call = other
  · subst same
    cases calls[call]? <;> simp
  · simp [same, Ne.symm same]

/-- Calls are only ever added to, and an answer stays. -/
structure Extends (older newer : Calls Question Reply) : Prop where
  asked : ∀ call question, Asked older call question → Asked newer call question
  answered : ∀ call question reply, Answered older call question reply →
    Answered newer call question reply
  longer : older.length ≤ newer.length

theorem Extends.refl (calls : Calls Question Reply) : Extends calls calls :=
  ⟨fun _ _ asked => asked, fun _ _ _ answered => answered, Nat.le_refl _⟩

theorem Extends.trans {oldest : Calls Question Reply} (first : Extends oldest older)
    (second : Extends older newer) : Extends oldest newer where
  asked call question asked := second.asked call question (first.asked call question asked)
  answered call question reply answered :=
    second.answered call question reply (first.answered call question reply answered)
  longer := Nat.le_trans first.longer second.longer

theorem extends_ask : Extends calls (ask calls question) where
  asked _ _ asked := asked_ask.mpr (.inl asked)
  answered _ _ _ answered := answered_ask.mpr answered
  longer := by simp

theorem extends_answer (waited : waiting calls call = some question) :
    Extends calls (answer calls call reply) where
  asked _ _ asked := asked_answer.mpr asked
  answered _ _ _ answered := (answered_answer waited).mpr (.inl answered)
  longer := by simp

/-- A call among the first ones asked then what it asks now. -/
theorem Extends.asked_before (extended : Extends older newer) (early : call < older.length)
    (asked : Asked newer call question) : Asked older call question := by
  have found := List.getElem?_eq_getElem early
  have before : Asked older call older[call].question := ⟨older[call].reply, found⟩
  have after := extended.asked _ _ before
  obtain ⟨one, first⟩ := asked
  obtain ⟨two, second⟩ := after
  rw [first] at second
  have same : question = older[call].question :=
    congrArg Call.question (Option.some.inj second)
  rw [same]
  exact before

end Calls

end Foc.Library.EventLoop
