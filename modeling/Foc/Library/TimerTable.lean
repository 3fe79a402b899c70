import Mathlib

/-! The timers of a program of one thread. Each has a handle that is given out once, and is for
one task, which it does when it is due or later. -/
namespace Foc.Library.TimerTable

structure Timer (Task : Type) where
  due : Int
  task : Task
  deriving DecidableEq, Repr

/-- The timers that are set; a handle that was not given out has none. -/
structure Timers (Task : Type) where
  armed : Nat → Option (Timer Task)
  next : Nat
  fresh : ∀ handle, next ≤ handle → armed handle = none

namespace Timers

variable {Task : Type}

def initial : Timers Task where
  armed := fun _ => none
  next := 0
  fresh := fun _ _ => rfl

/-- The longest delay of a timer; Node gives one that is longer, or none at all, 1 ms. -/
def maxDelay : Int := 2147483647

def delayOf (ms : Int) : Int := if 1 ≤ ms ∧ ms ≤ maxDelay then ms else 1

/-- `setTimeout` and `setInterval`: the timer's handle is the next one. -/
def setTimeout (timers : Timers Task) (now ms : Int) (task : Task) : Timers Task where
  armed := Function.update timers.armed timers.next (some ⟨now + delayOf ms, task⟩)
  next := timers.next + 1
  fresh := by
    intro handle past
    have apart : handle ≠ timers.next := by omega
    rw [Function.update_of_ne apart]
    exact timers.fresh handle (by omega)

def clearTimeout (timers : Timers Task) (handle : Nat) : Timers Task where
  armed := Function.update timers.armed handle none
  next := timers.next
  fresh := by
    intro other past
    rw [Function.update_apply]
    split
    · rfl
    · exact timers.fresh other past

/-- An interval that fired is set again, unless it was cleared. -/
def again (timers : Timers Task) (handle : Nat) (now ms : Int) : Timers Task where
  armed := Function.update timers.armed handle
    ((timers.armed handle).map fun timer => ⟨now + delayOf ms, timer.task⟩)
  next := timers.next
  fresh := by
    intro other past
    rw [Function.update_apply]
    split
    · rename_i same
      rw [← same, timers.fresh other past]
      rfl
    · exact timers.fresh other past

variable {timers : Timers Task} {handle other : Nat} {now ms : Int} {task : Task}

theorem set_armed : (timers.setTimeout now ms task).armed handle =
    if handle = timers.next then some ⟨now + delayOf ms, task⟩ else timers.armed handle :=
  Function.update_apply ..

theorem clear_armed : (timers.clearTimeout other).armed handle =
    if handle = other then none else timers.armed handle :=
  Function.update_apply ..

theorem again_armed : (timers.again other now ms).armed handle =
    if handle = other then (timers.armed other).map fun timer => ⟨now + delayOf ms, timer.task⟩
    else timers.armed handle :=
  Function.update_apply ..

theorem delay_within (positive : 0 < ms) (within : ms ≤ maxDelay) : delayOf ms = ms :=
  if_pos ⟨positive, within⟩

theorem armed_old {timer : Timer Task} (set : timers.armed handle = some timer) :
    handle < timers.next := by
  by_contra past
  rw [timers.fresh handle (Nat.le_of_not_lt past)] at set
  cases set

/-- A handle that was given out for a task, whether its timer is still set or not. -/
structure Held (timers : Timers Task) (handle : Nat) (task : Task) : Prop where
  old : handle < timers.next
  only : ∀ timer, timers.armed handle = some timer → timer.task = task

theorem Held.set {another : Task} (held : timers.Held handle task) :
    (timers.setTimeout now ms another).Held handle task where
  old := Nat.lt_succ_of_lt held.old
  only := by
    intro timer set
    rw [set_armed, if_neg (Nat.ne_of_lt held.old)] at set
    exact held.only timer set

theorem held_new : (timers.setTimeout now ms task).Held timers.next task where
  old := Nat.lt_succ_self _
  only := by
    intro timer set
    rw [set_armed, if_pos rfl] at set
    cases set
    rfl

theorem Held.clear (held : timers.Held handle task) : (timers.clearTimeout other).Held handle task where
  old := held.old
  only := by
    intro timer set
    rw [clear_armed] at set
    exact held.only timer (Option.ite_none_left_eq_some.mp set).2

theorem Held.again (held : timers.Held handle task) : (timers.again other now ms).Held handle task where
  old := held.old
  only := by
    intro timer set
    rw [again_armed] at set
    split at set
    · rename_i same
      obtain ⟨before, armed, rfl⟩ := Option.map_eq_some_iff.mp set
      exact held.only before (same ▸ armed)
    · exact held.only timer set

/-- The handles of two tasks differ, while the timer of one of them is set. -/
theorem Held.apart {timer : Timer Task} (held : timers.Held handle task)
    (set : timers.armed other = some timer) (different : timer.task ≠ task) : other ≠ handle := by
  rintro rfl
  exact different (held.only timer set)

end Timers

end Foc.Library.TimerTable
