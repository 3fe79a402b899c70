import Mathlib

/-! Work on a list of items by a few workers that share it: each takes the next item once the
work on its own has ended, in the order of the list. -/
namespace Foc.Library.WorkPool

/-- The items no worker has taken, those under way, and those whose work has ended. -/
structure Pool (Item Stage : Type) where
  queue : List Item
  busy : List (Item × Stage)
  tried : List Item

namespace Pool

variable {Item Stage : Type}

/-- As many workers as the limit allows take an item each. -/
def start (limit : Nat) (items : List Item) (stage : Stage) : Pool Item Stage where
  queue := items.drop limit
  busy := (items.take limit).map (·, stage)
  tried := []

/-- No item is lost or taken twice, no worker rests while an item waits, and there are no more
workers than the limit. -/
structure Sharing (limit : Nat) (items : List Item) (pool : Pool Item Stage) : Prop where
  all : (pool.tried ++ pool.busy.map Prod.fst ++ pool.queue).Perm items
  few : pool.busy.length ≤ limit
  kept : pool.busy = [] → pool.queue = []

variable {limit : Nat} {items : List Item} {pool : Pool Item Stage} {item : Item} {stage : Stage}

theorem start_busy (limit : Nat) (items : List Item) (stage : Stage) :
    (start limit items stage).busy.map Prod.fst = items.take limit := by
  rw [start, List.map_map]
  exact List.map_id _

theorem start_sharing (positive : 0 < limit) : Sharing limit items (start limit items stage) where
  all := by
    rw [start_busy]
    simp [start]
  few := by simp [start]
  kept := by
    intro idle
    have none_ : items.take limit = [] := by
      rw [← start_busy limit items stage, idle]
      rfl
    rcases List.take_eq_nil_iff.mp none_ with zero | empty
    · exact absurd zero (Nat.ne_of_gt positive)
    · rw [start, empty]
      exact List.drop_nil

/-- Once no worker is busy, the work on every item has ended. -/
theorem Sharing.done (sharing : Sharing limit items pool) (idle : pool.busy = []) :
    pool.tried.Perm items := by
  have all := sharing.all
  rw [sharing.kept idle, idle, List.map_nil, List.append_nil, List.append_nil] at all
  exact all

theorem Sharing.within (sharing : Sharing limit items pool) (mine : (item, stage) ∈ pool.busy) :
    item ∈ items := by
  apply sharing.all.subset
  rw [List.mem_append, List.mem_append]
  exact .inl (.inr (List.mem_map.mpr ⟨_, mine, rfl⟩))

/-- The work that is left, each stage with its weight. -/
def left (weight : Stage → Nat) (most : Nat) (pool : Pool Item Stage) : Nat :=
  most * pool.queue.length + (pool.busy.map fun work => weight work.2).sum

variable {weight : Stage → Nat} {most : Nat}

theorem start_left (first : weight stage = most) :
    (start limit items stage).left weight most = most * items.length := by
  have sum : ((items.take limit).map fun _ => most).sum = most * (items.take limit).length := by
    rw [List.map_const', List.sum_replicate, smul_eq_mul, Nat.mul_comm]
  rw [left, start, List.map_map]
  have same : ((fun work : Item × Stage => weight work.2) ∘ fun item => (item, stage)) =
      fun _ => most := by
    funext item
    exact first
  rw [same, sum, ← Nat.mul_add, List.length_drop, List.length_take]
  congr 1
  omega

section Working

variable [DecidableEq Item]

/-- The work on an item goes on to another stage. -/
def moves (pool : Pool Item Stage) (item : Item) (stage : Stage) : Pool Item Stage :=
  { pool with busy := pool.busy.map fun work => if work.1 = item then (item, stage) else work }

/-- The work on an item has ended, and its worker takes the next. -/
def finish (pool : Pool Item Stage) (item : Item) (stage : Stage) : Pool Item Stage where
  queue := pool.queue.tail
  busy := pool.busy.filter (·.1 ≠ item) ++ pool.queue.head?.toList.map (·, stage)
  tried := pool.tried ++ [item]

theorem moves_busy : (pool.moves item stage).busy.map Prod.fst = pool.busy.map Prod.fst := by
  rw [moves, List.map_map]
  apply List.map_congr_left
  intro work _
  simp only [Function.comp_apply]
  split
  · rename_i same
    exact same.symm
  · rfl

theorem Sharing.moves (sharing : Sharing limit items pool) :
    Sharing limit items (pool.moves item stage) where
  all := by
    rw [moves_busy]
    exact sharing.all
  few := by
    rw [Pool.moves, List.length_map]
    exact sharing.few
  kept := by
    intro idle
    exact sharing.kept (List.map_eq_nil_iff.mp idle)

/-- Of items that differ, one is under way with one worker. -/
theorem busy_split {work : List (Item × Stage)} (once : (work.map Prod.fst).Nodup)
    (mine : (item, stage) ∈ work) :
    (work.map Prod.fst).Perm (item :: (work.filter (·.1 ≠ item)).map Prod.fst) := by
  have filtered : (work.filter (·.1 ≠ item)).map Prod.fst = (work.map Prod.fst).erase item := by
    rw [once.erase_eq_filter, List.filter_map]
    congr 2
    funext work
    exact (decide_not).trans rfl
  rw [filtered]
  exact List.perm_cons_erase (List.mem_map.mpr ⟨_, mine, rfl⟩)

theorem Sharing.finish (sharing : Sharing limit items pool) (once : items.Nodup) {under : Stage}
    (mine : (item, under) ∈ pool.busy) : Sharing limit items (pool.finish item stage) := by
  have apart : (pool.tried ++ pool.busy.map Prod.fst ++ pool.queue).Nodup :=
    sharing.all.nodup_iff.mpr once
  have held : (pool.busy.map Prod.fst).Nodup :=
    (List.nodup_append.mp (List.nodup_append.mp apart).1).2.1
  have split := busy_split held mine
  have taken : pool.queue.head?.toList ++ pool.queue.tail = pool.queue := by
    cases pool.queue <;> rfl
  have fewer : (pool.busy.filter (·.1 ≠ item)).length + 1 = pool.busy.length := by
    have same := split.length_eq
    rw [List.length_map, List.length_cons, List.length_map] at same
    exact same.symm
  refine ⟨?_, ?_, ?_⟩
  · refine List.Perm.trans ?_ sharing.all
    have next : (pool.queue.head?.toList.map (·, stage)).map Prod.fst = pool.queue.head?.toList := by
      rw [List.map_map]
      exact List.map_id _
    rw [Pool.finish, List.map_append, next]
    have parts : pool.tried ++ [item] ++ ((pool.busy.filter (·.1 ≠ item)).map Prod.fst ++
        pool.queue.head?.toList) ++ pool.queue.tail =
          pool.tried ++ (item :: (pool.busy.filter (·.1 ≠ item)).map Prod.fst) ++ pool.queue := by
      rw [← List.append_assoc, List.append_assoc _ pool.queue.head?.toList, taken]
      simp
    rw [parts]
    exact (split.symm.append_left _).append_right _
  · rw [Pool.finish, List.length_append, List.length_map]
    have one : pool.queue.head?.toList.length ≤ 1 := by
      cases pool.queue <;> simp
    have most := sharing.few
    omega
  · intro idle
    have none_ := List.append_eq_nil_iff.mp idle
    have head : pool.queue.head?.toList = [] := List.map_eq_nil_iff.mp none_.2
    rw [Pool.finish]
    cases is : pool.queue with
    | nil => rfl
    | cons first rest =>
      rw [is] at head
      cases head

theorem split_sum {work : List (Item × Stage)} (once : (work.map Prod.fst).Nodup)
    (mine : (item, stage) ∈ work) : (work.map fun work => weight work.2).sum =
      weight stage + ((work.filter (·.1 ≠ item)).map fun work => weight work.2).sum := by
  induction work with
  | nil => cases mine
  | cons first rest ih =>
    obtain ⟨out, once⟩ := List.nodup_cons.mp once
    rcases List.mem_cons.mp mine with rfl | later
    · have kept : rest.filter (·.1 ≠ item) = rest := by
        rw [List.filter_eq_self]
        intro other member
        rw [decide_eq_true_eq]
        rintro rfl
        exact out (List.mem_map.mpr ⟨other, member, rfl⟩)
      rw [List.filter_cons_of_neg (by simp), kept, List.map_cons, List.sum_cons]
    · have apart : first.1 ≠ item := by
        rintro rfl
        exact out (List.mem_map.mpr ⟨_, later, rfl⟩)
      rw [List.filter_cons_of_pos (by simpa using apart), List.map_cons, List.sum_cons, List.map_cons,
        List.sum_cons, ih once later]
      omega

theorem finish_left (once : (pool.busy.map Prod.fst).Nodup) {under : Stage}
    (mine : (item, under) ∈ pool.busy) (first : weight stage = most) :
    (pool.finish item stage).left weight most + weight under = pool.left weight most := by
  have split := @split_sum _ _ _ _ weight _ _ once mine
  rw [left, left, split, finish, List.map_append, List.sum_append]
  cases pool.queue with
  | nil =>
    simp only [List.tail_nil, List.head?_nil, Option.toList_none, List.map_nil, List.sum_nil]
    omega
  | cons next rest =>
    simp only [List.tail_cons, List.head?_cons, Option.toList_some, List.map_cons, List.map_nil,
      List.sum_cons, List.sum_nil, List.length_cons, first, Nat.mul_succ]
    omega

theorem moves_left (once : (pool.busy.map Prod.fst).Nodup) {under : Stage}
    (mine : (item, under) ∈ pool.busy) :
    (pool.moves item stage).left weight most + weight under =
      pool.left weight most + weight stage := by
  have moved : (item, stage) ∈ (pool.moves item stage).busy := by
    rw [moves]
    exact List.mem_map.mpr ⟨_, mine, if_pos rfl⟩
  have split := @split_sum _ _ _ _ weight _ _ once mine
  have once' : ((pool.moves item stage).busy.map Prod.fst).Nodup := by
    rw [moves_busy]
    exact once
  have split' := @split_sum _ _ _ _ weight _ _ once' moved
  have rest : (pool.moves item stage).busy.filter (·.1 ≠ item) = pool.busy.filter (·.1 ≠ item) := by
    rw [moves, List.filter_map]
    have same : ((fun work : Item × Stage => decide (work.1 ≠ item)) ∘
        fun work => if work.1 = item then (item, stage) else work) =
          fun work => decide (work.1 ≠ item) := by
      funext work
      simp only [Function.comp_apply]
      split
      · rename_i same
        simp [same]
      · rfl
    rw [same]
    conv_rhs => rw [← List.map_id (pool.busy.filter _)]
    apply List.map_congr_left
    intro work member
    exact if_neg (by simpa using (List.mem_filter.mp member).2)
  have queue : (pool.moves item stage).queue = pool.queue := rfl
  rw [left, left, split, split', rest, queue]
  omega

end Working

end Pool

end Foc.Library.WorkPool
