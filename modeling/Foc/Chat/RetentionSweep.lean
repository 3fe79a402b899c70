import Mathlib
import Foc.Chat.Retention

/-! What a sweep keeps from event to event: which channels it has tried, what it may delete,
which channel it is still to come to, and how much is left for it to do. -/
namespace Foc.Chat.Retention
open Library Library.EventLoop Library.WorkPool
open Sending (OrderForChat pastRetention dayMs)

section Sweeps

variable {options : RetentionOptions} {now : Int} {sweep after : Sweep} {page failures : List OrderId}
  {pool : Pool OrderId Stage} {orderId : OrderId} {event : Event}

theorem batch_positive (options : RetentionOptions) : 1 ≤ options.batch := by
  unfold RetentionOptions.batch
  cases given : options.batchSize with
  | none => decide
  | some size => exact options.batches size given

theorem limit_positive (options : RetentionOptions) : 1 ≤ options.limit := by
  unfold RetentionOptions.limit
  cases given : options.concurrency with
  | none => decide
  | some size => exact options.workers size given

/-- What each event does, where it can happen. -/
inductive Happens (options : RetentionOptions) (now : Int) (sweep : Sweep) : Event → Sweep → Prop where
  | page (reading : sweep.phase = .reading) : Happens options now sweep .page (sweep.paged options now)
  | pageFailed (reading : sweep.phase = .reading) :
      Happens options now sweep .pageFailed { sweep with phase := .threw }
  | answered {page failures : List OrderId} {pool : Pool OrderId Stage} (orderId : OrderId) (given : Answer)
      (settling : sweep.phase = .settling page pool failures) (mine : (orderId, .asking) ∈ pool.busy) :
      Happens options now sweep (.answered orderId given)
        (sweep.answered options now page pool failures orderId given)
  | deleted {page failures : List OrderId} {pool : Pool OrderId Stage} (orderId : OrderId)
      (settling : sweep.phase = .settling page pool failures)
      (mine : (orderId, .deleting) ∈ pool.busy) :
      Happens options now sweep (.deleted orderId) (sweep.deleted options page pool failures orderId)
  | deleteFailed {page failures : List OrderId} {pool : Pool OrderId Stage} (orderId : OrderId) (removed : Bool)
      (settling : sweep.phase = .settling page pool failures)
      (mine : (orderId, .deleting) ∈ pool.busy) :
      Happens options now sweep (.deleteFailed orderId removed)
        (sweep.deleteFailed options page pool failures orderId removed)
  | opened (channel : Channel) : Happens options now sweep (.opened channel)
      { sweep with channels := sweep.channels.opened channel }
  | removed (orderId : OrderId) : Happens options now sweep (.removed orderId)
      { sweep with channels := sweep.channels.deleteChannel orderId }

theorem turn_happens (turned : turn options now sweep event = some after) :
    Happens options now sweep event after := by
  cases event with
  | page =>
    cases phase : sweep.phase with
    | reading =>
      simp only [turn, phase, Option.some.injEq] at turned
      exact turned ▸ .page phase
    | _ => simp only [turn, phase, reduceCtorEq] at turned
  | pageFailed =>
    cases phase : sweep.phase with
    | reading =>
      simp only [turn, phase, Option.some.injEq] at turned
      exact turned ▸ .pageFailed phase
    | _ => simp only [turn, phase, reduceCtorEq] at turned
  | answered orderId given =>
    cases phase : sweep.phase with
    | settling page pool failures =>
      simp only [turn, phase] at turned
      obtain ⟨mine, is⟩ := Option.ite_none_right_eq_some.mp turned
      exact Option.some.inj is ▸ .answered orderId given phase mine
    | _ => simp only [turn, phase, reduceCtorEq] at turned
  | deleted orderId =>
    cases phase : sweep.phase with
    | settling page pool failures =>
      simp only [turn, phase] at turned
      obtain ⟨mine, is⟩ := Option.ite_none_right_eq_some.mp turned
      exact Option.some.inj is ▸ .deleted orderId phase mine
    | _ => simp only [turn, phase, reduceCtorEq] at turned
  | deleteFailed orderId removed =>
    cases phase : sweep.phase with
    | settling page pool failures =>
      simp only [turn, phase] at turned
      obtain ⟨mine, is⟩ := Option.ite_none_right_eq_some.mp turned
      exact Option.some.inj is ▸ .deleteFailed orderId removed phase mine
    | _ => simp only [turn, phase, reduceCtorEq] at turned
  | opened channel =>
    simp only [turn, Option.some.injEq] at turned
    exact turned ▸ .opened channel
  | removed orderId =>
    simp only [turn, Option.some.injEq] at turned
    exact turned ▸ .removed orderId

/-! ## A page of the table -/

section Page

variable {channels : Channels} {cutoff : Int} {limit : Nat} {last : Option OrderId}

theorem rows_once (channels : Channels) (cutoff : Int) : ((channels.rows.filter fun channel =>
    channel.createdAt < cutoff).map (·.orderId)).Nodup :=
  channels.once.sublist (List.filter_sublist.map _)

theorem page_sorted :
    (channels.channelsOpenedBefore cutoff limit last).Pairwise (· < ·) := by
  have sorted := @Keyset.past_sorted _ _ _ Channel.orderId last _ (rows_once channels cutoff)
  exact List.pairwise_map.mpr sorted.take

theorem page_past {start : OrderId} (is : last = some start)
    (member : orderId ∈ channels.channelsOpenedBefore cutoff limit last) : start < orderId := by
  obtain ⟨channel, taken, rfl⟩ := List.mem_map.mp member
  exact (Keyset.mem_past.mp (List.mem_of_mem_take taken)).2 start is

/-- A channel that is past the key is on the page, or the page is full and ends before it. -/
theorem page_covers {channel : Channel} (member : channel ∈ channels.rows)
    (early : channel.createdAt < cutoff) (ahead : ∀ start, last = some start → start < channel.orderId) :
    channel.orderId ∈ channels.channelsOpenedBefore cutoff limit last ∨
      ¬ (channels.channelsOpenedBefore cutoff limit last).length < limit ∧
      ∀ final, (channels.channelsOpenedBefore cutoff limit last).getLast? = some final →
        final < channel.orderId := by
  have there : channel ∈ Keyset.past Channel.orderId last
      (channels.rows.filter fun channel => channel.createdAt < cutoff) := by
    rw [Keyset.mem_past, List.mem_filter, decide_eq_true_eq]
    exact ⟨⟨member, early⟩, ahead⟩
  have sorted := @Keyset.past_sorted _ _ _ Channel.orderId last _ (rows_once channels cutoff)
  unfold Channels.channelsOpenedBefore
  generalize Keyset.past Channel.orderId last
    (channels.rows.filter fun channel => channel.createdAt < cutoff) = found at there sorted
  have whole : found.take limit ++ found.drop limit = found := List.take_append_drop limit found
  rw [← whole, List.mem_append] at there
  rcases there with early | late
  · exact .inl (List.mem_map.mpr ⟨channel, early, rfl⟩)
  · refine .inr ⟨?_, ?_⟩
    · rw [List.length_map, List.length_take]
      have more := List.length_pos_of_mem late
      rw [List.length_drop] at more
      omega
    · intro final ends
      rw [List.getLast?_map] at ends
      obtain ⟨row, its, rfl⟩ := Option.map_eq_some_iff.mp ends
      rw [← whole] at sorted
      exact (List.pairwise_append.mp sorted).2.2 row (List.mem_of_getLast? its) channel late

end Page

/-! ## What was tried -/

/-- Between two pages, and at the end: every channel of the pages read was tried. -/
structure Rested (sweep : Sweep) : Prop where
  sorted : sweep.pages.Pairwise (· < ·)
  counted : sweep.result.total = sweep.settled.length
  tried : (sweep.settled ++ sweep.failed).Perm sweep.pages

/-- While a page is under way: those before it were tried, and its own are shared. -/
structure Halfway (options : RetentionOptions) (sweep : Sweep) (page : List OrderId)
    (pool : Pool OrderId Stage) : Prop where
  sorted : sweep.pages.Pairwise (· < ·)
  counted : sweep.result.total = sweep.settled.length
  ends : page ≠ [] → ∀ orderId ∈ sweep.pages, ∃ last, page.getLast? = some last ∧ orderId ≤ last
  sharing : pool.Sharing options.limit page
  tried : ∃ earlier, sweep.pages = earlier ++ page ∧
    (sweep.settled ++ sweep.failed).Perm (earlier ++ pool.tried)

def Orderly (options : RetentionOptions) (sweep : Sweep) : Prop :=
  match sweep.phase with
  | .reading => Rested sweep ∧
      ∀ orderId ∈ sweep.pages, ∃ last, sweep.after = some last ∧ orderId ≤ last
  | .settling page pool _ => Halfway options sweep page pool ∧ pool.busy ≠ []
  | _ => Rested sweep

theorem Halfway.once (halfway : Halfway options sweep page pool) : page.Nodup := by
  obtain ⟨earlier, is, -⟩ := halfway.tried
  have sorted := halfway.sorted
  rw [is] at sorted
  exact (List.pairwise_append.mp sorted).2.1.imp ne_of_lt

theorem Halfway.within {stage : Stage} (halfway : Halfway options sweep page pool)
    (mine : (orderId, stage) ∈ pool.busy) : orderId ∈ sweep.pages := by
  obtain ⟨earlier, is, -⟩ := halfway.tried
  rw [is, List.mem_append]
  exact .inr (halfway.sharing.within mine)

/-- The workers that go on, or the last of them, leave the sweep in order. -/
theorem carry_orderly (halfway : Halfway options sweep page pool) (failures : List OrderId) :
    Orderly options (sweep.carry options page pool failures) := by
  unfold Sweep.carry
  split
  · rename_i idle
    have rested : Rested sweep := by
      obtain ⟨earlier, is, tried⟩ := halfway.tried
      refine ⟨halfway.sorted, halfway.counted, tried.trans ?_⟩
      rw [is]
      exact (halfway.sharing.done idle).append_left _
    unfold Sweep.endPage
    split
    · exact ⟨rested.sorted, rested.counted, rested.tried⟩
    · split
      · exact ⟨rested.sorted, rested.counted, rested.tried⟩
      · rename_i full
        refine ⟨⟨rested.sorted, rested.counted, rested.tried⟩, halfway.ends ?_⟩
        rintro rfl
        exact full (batch_positive options)
  · rename_i working
    exact ⟨⟨halfway.sorted, halfway.counted, halfway.ends, halfway.sharing, halfway.tried⟩, working⟩

theorem paged_orderly (reading : sweep.phase = .reading) (orderly : Orderly options sweep) :
    Orderly options (sweep.paged options now) := by
  unfold Orderly at orderly
  rw [reading] at orderly
  obtain ⟨rested, behind⟩ := orderly
  have sorted : (sweep.channels.channelsOpenedBefore (Sweep.cutoff options now) options.batch
    sweep.after).Pairwise (· < ·) := page_sorted
  have past : ∀ start, sweep.after = some start →
      ∀ orderId ∈ sweep.channels.channelsOpenedBefore (Sweep.cutoff options now) options.batch
        sweep.after, start < orderId := fun start is orderId member => page_past is member
  unfold Sweep.paged
  dsimp only
  generalize sweep.channels.channelsOpenedBefore (Sweep.cutoff options now) options.batch
    sweep.after = page at sorted past ⊢
  apply carry_orderly
  have before : ∀ early ∈ sweep.pages, ∀ late ∈ page, early < late := by
    intro early member late there
    obtain ⟨last, is, le⟩ := behind early member
    exact lt_of_le_of_lt le (past last is late there)
  refine ⟨List.pairwise_append.mpr ⟨rested.sorted, sorted, before⟩, rested.counted, ?_,
    Pool.start_sharing (limit_positive options), sweep.pages, rfl, ?_⟩
  · intro some_ orderId member
    obtain ⟨last, ends⟩ := Option.isSome_iff_exists.mp (List.getLast?_isSome.mpr some_)
    refine ⟨last, ends, ?_⟩
    obtain ⟨initial, split⟩ := List.getLast?_eq_some_iff.mp ends
    rcases List.mem_append.mp member with early | here
    · exact (before orderId early last (List.mem_of_getLast? ends)).le
    · rw [split] at here sorted
      rcases List.mem_append.mp here with early | final
      · exact ((List.pairwise_append.mp sorted).2.2 orderId early last (by simp)).le
      · exact le_of_eq (List.mem_singleton.mp final)
  · have none_ : (Pool.start options.limit page Stage.asking).tried = [] := rfl
    rw [none_, List.append_nil]
    exact rested.tried

/-- The work on a channel of the page ends, counted or failed. -/
theorem Halfway.finish {under : Stage} (halfway : Halfway options sweep page pool)
    (mine : (orderId, under) ∈ pool.busy) (pages : after.pages = sweep.pages)
    (counted : after.result.total = after.settled.length)
    (tried : (after.settled ++ after.failed).Perm (sweep.settled ++ sweep.failed ++ [orderId])) :
    Halfway options after page (pool.finish orderId .asking) where
  sorted := pages.symm ▸ halfway.sorted
  counted := counted
  ends := pages.symm ▸ halfway.ends
  sharing := halfway.sharing.finish halfway.once mine
  tried := by
    obtain ⟨earlier, is, before⟩ := halfway.tried
    refine ⟨earlier, pages.trans is, tried.trans ?_⟩
    have grown : (pool.finish orderId .asking).tried = pool.tried ++ [orderId] := rfl
    rw [grown, ← List.append_assoc]
    exact before.append_right _

theorem settles_orderly {under : Stage} {result : CleanupResult}
    (halfway : Halfway options sweep page pool) (mine : (orderId, under) ∈ pool.busy)
    (one : result.total = sweep.result.total + 1) (failures : List OrderId) :
    Orderly options (sweep.settles options page pool failures orderId result) := by
  apply carry_orderly
  refine halfway.finish mine rfl ?_ ?_
  · dsimp only
    rw [one, halfway.counted, List.length_append]
    rfl
  · dsimp only
    rw [List.append_assoc, List.append_assoc]
    exact List.perm_append_comm.append_left _

/-- The order depends on the phase and the lists of channels alone. -/
theorem orderly_same (orderly : Orderly options sweep) (channels : Channels) :
    Orderly options { sweep with channels := channels } := by
  unfold Orderly at orderly ⊢
  dsimp only at orderly ⊢
  split at orderly
  · rename_i reading
    rw [reading]
    exact ⟨⟨orderly.1.sorted, orderly.1.counted, orderly.1.tried⟩, orderly.2⟩
  · rename_i settling
    rw [settling]
    obtain ⟨halfway, working⟩ := orderly
    exact ⟨⟨halfway.sorted, halfway.counted, halfway.ends, halfway.sharing, halfway.tried⟩, working⟩
  · rename_i resting working
    have rested : Rested { sweep with channels := channels } :=
      ⟨orderly.sorted, orderly.counted, orderly.tried⟩
    exact rested

theorem settling_halfway (orderly : Orderly options sweep)
    (settling : sweep.phase = .settling page pool failures) :
    Halfway options sweep page pool ∧ pool.busy ≠ [] := by
  unfold Orderly at orderly
  rw [settling] at orderly
  exact orderly

theorem turn_orderly (orderly : Orderly options sweep)
    (turned : turn options now sweep event = some after) : Orderly options after := by
  cases turn_happens turned with
  | page reading => exact paged_orderly reading orderly
  | pageFailed reading =>
    unfold Orderly at orderly
    rw [reading] at orderly
    exact ⟨orderly.1.sorted, orderly.1.counted, orderly.1.tried⟩
  | answered orderId given settling mine =>
    obtain ⟨halfway, -⟩ := settling_halfway orderly settling
    cases given with
    | failed => exact settles_orderly halfway mine (by simp [CleanupResult.total]; omega) _
    | unknown => exact settles_orderly halfway mine (by simp [CleanupResult.total]; omega) _
    | found order =>
      unfold Sweep.answered
      dsimp only
      split
      · refine ⟨⟨halfway.sorted, halfway.counted, halfway.ends, halfway.sharing.moves,
          halfway.tried⟩, ?_⟩
        intro idle
        have none_ := List.map_eq_nil_iff.mp idle
        rw [none_] at mine
        cases mine
      · exact settles_orderly halfway mine (by simp [CleanupResult.total]; omega) _
  | deleted orderId settling mine =>
    obtain ⟨halfway, -⟩ := settling_halfway orderly settling
    refine settles_orderly ?_ mine (by simp [CleanupResult.total]; omega) _
    exact ⟨halfway.sorted, halfway.counted, halfway.ends, halfway.sharing, halfway.tried⟩
  | deleteFailed orderId removed settling mine =>
    obtain ⟨halfway, -⟩ := settling_halfway orderly settling
    apply carry_orderly
    refine halfway.finish mine rfl halfway.counted ?_
    dsimp only
    rw [List.append_assoc]
  | opened channel => exact orderly_same orderly _
  | removed orderId => exact orderly_same orderly _

/-! ## What was deleted -/

/-- A delete, or the reading of a page, that failed. -/
def Event.fails : Event → Bool
  | .pageFailed => true
  | .deleteFailed _ _ => true
  | _ => false

/-- The sweep threw, or will once the page is done. -/
def Failing (sweep : Sweep) : Prop :=
  sweep.phase = .threw ∨
    ∃ page pool failures, sweep.phase = .settling page pool failures ∧ failures ≠ []

/-- What the events so far account for. -/
structure Recorded (options : RetentionOptions) (now : Int) (start : Channels) (events : List Event)
    (sweep : Sweep) : Prop where
  deletes : ∀ orderId ∈ sweep.deletes, orderId ∈ sweep.pages ∧
    ∃ order, Event.answered orderId (.found order) ∈ events ∧
      pastRetention order options.retentionDays now = true
  deleting : ∀ orderId, (orderId, Stage.deleting) ∈ sweep.busy → orderId ∈ sweep.deletes
  stays : ∀ channel ∈ start.rows, Event.removed channel.orderId ∉ events →
    channel ∈ sweep.channels.rows ∨ channel.orderId ∈ sweep.deletes
  fails : Failing sweep ∨ sweep.failed ≠ [] → ∃ event ∈ events, event.fails = true

theorem carry_same : (sweep.carry options page pool failures).deletes = sweep.deletes ∧
    (sweep.carry options page pool failures).pages = sweep.pages ∧
    (sweep.carry options page pool failures).channels = sweep.channels ∧
    (sweep.carry options page pool failures).failed = sweep.failed := by
  unfold Sweep.carry Sweep.endPage
  split
  · split
    · exact ⟨rfl, rfl, rfl, rfl⟩
    · split <;> exact ⟨rfl, rfl, rfl, rfl⟩
  · exact ⟨rfl, rfl, rfl, rfl⟩

theorem carry_busy {work : OrderId × Stage}
    (busy : work ∈ (sweep.carry options page pool failures).busy) : work ∈ pool.busy := by
  unfold Sweep.carry Sweep.endPage at busy
  split at busy
  · split at busy
    · cases busy
    · split at busy
      · cases busy
      · cases busy
  · exact busy

theorem carry_fails (failing : Failing (sweep.carry options page pool failures)) : failures ≠ [] := by
  unfold Sweep.carry Sweep.endPage at failing
  split at failing
  · split at failing
    · assumption
    · split at failing
      · obtain is | ⟨_, _, _, is, -⟩ := failing
        · cases is
        · cases is
      · obtain is | ⟨_, _, _, is, -⟩ := failing
        · cases is
        · cases is
  · obtain is | ⟨_, _, _, is, some_⟩ := failing
    · cases is
    · cases is
      exact some_

/-- A worker takes its next channel to ask about it. -/
theorem finish_deleting {other : OrderId}
    (busy : (other, Stage.deleting) ∈ (pool.finish orderId .asking).busy) :
    other ≠ orderId ∧ (other, Stage.deleting) ∈ pool.busy := by
  rcases List.mem_append.mp busy with kept | taken
  · obtain ⟨member, apart⟩ := List.mem_filter.mp kept
    exact ⟨of_decide_eq_true apart, member⟩
  · obtain ⟨_, -, is⟩ := List.mem_map.mp taken
    cases is

theorem delete_keeps {channels : Channels} {channel : Channel} (member : channel ∈ channels.rows)
    (apart : channel.orderId ≠ orderId) : channel ∈ (channels.deleteChannel orderId).rows := by
  rw [Channels.deleteChannel, List.mem_filter, decide_eq_true_eq]
  exact ⟨member, apart⟩

theorem opened_keeps {channels : Channels} {channel : Channel} (other : Channel)
    (member : channel ∈ channels.rows) : channel ∈ (channels.opened other).rows := by
  unfold Channels.opened
  split
  · exact member
  · exact List.mem_append_left _ member

section Records

variable {start : Channels} {events : List Event}

theorem Recorded.allowed (recorded : Recorded options now start events sweep)
    (sent : orderId ∈ sweep.deletes) : orderId ∈ sweep.pages ∧
      ∃ order, Event.answered orderId (.found order) ∈ events ++ [event] ∧
        pastRetention order options.retentionDays now = true := by
  obtain ⟨there, order, answered, past⟩ := recorded.deletes orderId sent
  exact ⟨there, order, List.mem_append_left _ answered, past⟩

theorem Recorded.failed (recorded : Recorded options now start events sweep)
    (failing : Failing sweep ∨ sweep.failed ≠ []) :
    ∃ event' ∈ events ++ [event], event'.fails = true := by
  obtain ⟨failed, member, is⟩ := recorded.fails failing
  exact ⟨failed, List.mem_append_left _ member, is⟩

theorem Recorded.there (recorded : Recorded options now start events sweep) {channel : Channel}
    (member : channel ∈ start.rows)
    (unremoved : Event.removed channel.orderId ∉ events ++ [event]) :
    channel ∈ sweep.channels.rows ∨ channel.orderId ∈ sweep.deletes :=
  recorded.stays channel member fun removed => unremoved (List.mem_append_left _ removed)

/-- A page goes on where the table has lost no channel but those that were to be deleted. -/
theorem carry_recorded {before : Sweep} (recorded : Recorded options now start events before)
    (deletes : sweep.deletes = before.deletes) (pages : ∀ orderId ∈ before.pages, orderId ∈ sweep.pages)
    (busy : ∀ orderId, (orderId, Stage.deleting) ∈ pool.busy → (orderId, Stage.deleting) ∈ before.busy)
    (kept : ∀ channel ∈ before.channels.rows, channel ∈ sweep.channels.rows ∨
      channel.orderId ∈ before.deletes)
    (fails : failures ≠ [] → Failing before ∨ event.fails = true)
    (failed : sweep.failed = before.failed ∨ event.fails = true) :
    Recorded options now start (events ++ [event]) (sweep.carry options page pool failures) := by
  obtain ⟨same, listed, table, lost⟩ := @carry_same options sweep page failures pool
  refine ⟨?_, ?_, ?_, ?_⟩
  · intro orderId member
    rw [same, deletes] at member
    obtain ⟨there, allowed⟩ := recorded.allowed member
    rw [listed]
    exact ⟨pages orderId there, allowed⟩
  · intro orderId deleting
    rw [same, deletes]
    exact recorded.deleting orderId (busy orderId (carry_busy deleting))
  · intro channel member there
    rw [same, deletes, table]
    rcases recorded.there member there with row | deleted
    · exact kept channel row
    · exact .inr deleted
  · rintro (failing | some_)
    · rcases fails (carry_fails failing) with before_ | now_
      · exact recorded.failed (.inl before_)
      · exact ⟨event, by simp, now_⟩
    · rcases failed with same | now_
      · exact recorded.failed (.inr (same ▸ lost ▸ some_))
      · exact ⟨event, by simp, now_⟩

theorem turn_recorded (orderly : Orderly options sweep)
    (recorded : Recorded options now start events sweep)
    (turned : turn options now sweep event = some after) :
    Recorded options now start (events ++ [event]) after := by
  have working : ∀ {page pool failures}, sweep.phase = .settling page pool failures →
      sweep.busy = pool.busy := by
    intro page pool failures settling
    unfold Sweep.busy
    rw [settling]
  have failed : ∀ {page pool failures}, sweep.phase = .settling page pool failures →
      failures ≠ [] → Failing sweep :=
    fun settling some_ => .inr ⟨_, _, _, settling, some_⟩
  have finished : ∀ {page pool failures} (orderId : OrderId),
      sweep.phase = .settling page pool failures → ∀ other,
        (other, Stage.deleting) ∈ (pool.finish orderId .asking).busy →
          (other, Stage.deleting) ∈ sweep.busy := by
    intro page pool failures orderId settling other busy
    rw [working settling]
    exact (finish_deleting busy).2
  cases turn_happens turned with
  | page reading =>
    refine carry_recorded recorded rfl (fun _ member => List.mem_append_left _ member) ?_
      (fun _ row => .inl row) (fun some_ => absurd rfl some_) (.inl rfl)
    intro orderId busy
    obtain ⟨_, -, is⟩ := List.mem_map.mp busy
    cases is
  | pageFailed reading =>
    refine ⟨fun _ => recorded.allowed, ?_, fun _ => recorded.there, fun _ =>
      ⟨.pageFailed, by simp, rfl⟩⟩
    intro orderId busy
    cases busy
  | @answered page failures pool orderId given settling mine =>
    have counts : ∀ result, Recorded options now start (events ++ [.answered orderId given])
        (sweep.settles options page pool failures orderId result) := by
      intro result
      exact carry_recorded recorded rfl (fun _ member => member) (finished orderId settling)
        (fun _ row => .inl row) (fun some_ => .inl (failed settling some_)) (.inl rfl)
    cases given with
    | failed => exact counts _
    | unknown => exact counts _
    | found order =>
      unfold Sweep.answered
      dsimp only
      split
      · rename_i past
        obtain ⟨halfway, -⟩ := settling_halfway orderly settling
        refine ⟨?_, ?_, ?_, ?_⟩
        · intro other member
          rcases List.mem_append.mp member with before | new
          · exact recorded.allowed before
          · rw [List.mem_singleton.mp new]
            exact ⟨halfway.within mine, order, by simp, past⟩
        · intro other busy
          obtain ⟨work, member, is⟩ := List.mem_map.mp busy
          split at is
          · cases is
            exact List.mem_append_right _ (List.mem_singleton_self _)
          · cases is
            have deleting := recorded.deleting other (by rw [working settling]; exact member)
            exact List.mem_append_left _ deleting
        · intro channel member there
          rcases recorded.there member there with row | deleted
          · exact .inl row
          · exact .inr (List.mem_append_left _ deleted)
        · rintro ((is | ⟨_, _, _, is, some_⟩) | lost)
          · cases is
          · cases is
            exact recorded.failed (.inl (failed settling some_))
          · exact recorded.failed (.inr lost)
      · exact counts _
  | deleted orderId settling mine =>
    have sent : orderId ∈ sweep.deletes :=
      recorded.deleting orderId (by rw [working settling]; exact mine)
    refine carry_recorded recorded rfl (fun _ member => member) (finished orderId settling) ?_
      (fun some_ => .inl (failed settling some_)) (.inl rfl)
    intro channel row
    by_cases same : channel.orderId = orderId
    · exact .inr (same ▸ sent)
    · exact .inl (delete_keeps row same)
  | deleteFailed orderId removed settling mine =>
    have sent : orderId ∈ sweep.deletes :=
      recorded.deleting orderId (by rw [working settling]; exact mine)
    refine carry_recorded recorded rfl (fun _ member => member) (finished orderId settling) ?_
      (fun _ => .inr rfl) (.inr rfl)
    intro channel row
    by_cases same : channel.orderId = orderId
    · exact .inr (same ▸ sent)
    · dsimp only
      split
      · exact .inl (delete_keeps row same)
      · exact .inl row
  | opened channel =>
    refine ⟨fun _ => recorded.allowed, recorded.deleting, ?_, recorded.failed⟩
    intro other member there
    rcases recorded.there member there with row | deleted
    · exact .inl (opened_keeps channel row)
    · exact .inr deleted
  | removed orderId =>
    refine ⟨fun _ => recorded.allowed, recorded.deleting, ?_, recorded.failed⟩
    intro other member there
    have apart : other.orderId ≠ orderId := by
      intro same
      apply there
      rw [same]
      exact List.mem_append_right _ (List.mem_singleton_self _)
    rcases recorded.there member there with row | deleted
    · exact .inl (delete_keeps row apart)
    · exact .inr deleted

end Records

/-! ## Which channels the sweep comes to -/

/-- The sweep is still to read the page of an errand's channel. -/
def Ahead (options : RetentionOptions) (sweep : Sweep) (orderId : OrderId) : Prop :=
  match sweep.phase with
  | .reading => ∀ last, sweep.after = some last → last < orderId
  | .settling page _ _ => ¬ page.length < options.batch ∧
      ∀ last, page.getLast? = some last → last < orderId
  | .returned => False
  | .threw => True

theorem carry_ahead (full : ¬ page.length < options.batch)
    (ahead : ∀ last, page.getLast? = some last → last < orderId) :
    Ahead options (sweep.carry options page pool failures) orderId := by
  unfold Sweep.carry Sweep.endPage
  split
  · split
    · trivial
    · exact ahead
  · exact ⟨full, ahead⟩

/-- A channel there from the start is on a page, or the page it will be on is ahead. -/
theorem turn_ahead {start : Channels} {events : List Event} {channel : Channel}
    (recorded : Recorded options now start events sweep) (member : channel ∈ start.rows)
    (early : channel.createdAt < Sweep.cutoff options now)
    (stays : Event.removed channel.orderId ∉ events)
    (comes : channel.orderId ∈ sweep.pages ∨ Ahead options sweep channel.orderId)
    (turned : turn options now sweep event = some after) :
    channel.orderId ∈ after.pages ∨ Ahead options after channel.orderId := by
  have settling_ahead : ∀ {page pool failures}, sweep.phase = .settling page pool failures →
      Ahead options sweep channel.orderId → ¬ page.length < options.batch ∧
        ∀ last, page.getLast? = some last → last < channel.orderId := by
    intro page pool failures settling ahead
    unfold Ahead at ahead
    rw [settling] at ahead
    exact ahead
  have carried : ∀ {page pool failures} (later : Sweep) (pool' : Pool OrderId Stage)
      (failures' : List OrderId), sweep.phase = .settling page pool failures →
      later.pages = sweep.pages → channel.orderId ∈ (later.carry options page pool' failures').pages ∨
        Ahead options (later.carry options page pool' failures') channel.orderId := by
    intro page pool failures later pool' failures' settling pages
    rcases comes with listed | ahead
    · left
      rw [carry_same.2.1, pages]
      exact listed
    · obtain ⟨full, beyond⟩ := settling_ahead settling ahead
      exact .inr (carry_ahead full beyond)
  cases turn_happens turned with
  | page reading =>
    unfold Sweep.paged
    dsimp only
    rw [carry_same.2.1, List.mem_append]
    rcases comes with listed | ahead
    · exact .inl (.inl listed)
    · unfold Ahead at ahead
      rw [reading] at ahead
      rcases recorded.stays channel member stays with row | deleted
      · rcases page_covers row early ahead with listed | ⟨full, beyond⟩
        · exact .inl (.inr listed)
        · exact .inr (carry_ahead full beyond)
      · exact .inl (.inl (recorded.deletes _ deleted).1)
  | pageFailed reading => exact .inr trivial
  | @answered page failures pool orderId given settling mine =>
    cases given with
    | failed => exact carried _ _ _ settling rfl
    | unknown => exact carried _ _ _ settling rfl
    | found order =>
      unfold Sweep.answered
      dsimp only
      split
      · rcases comes with listed | ahead
        · exact .inl listed
        · exact .inr (settling_ahead settling ahead)
      · exact carried _ _ _ settling rfl
  | deleted orderId settling mine => exact carried _ _ _ settling rfl
  | deleteFailed orderId removed settling mine => exact carried _ _ _ settling rfl
  | opened other => exact comes
  | removed orderId => exact comes

/-! ## How much is left -/

def Stage.weight : Stage → Nat
  | .asking => 3
  | .deleting => 2

/-- The UUIDs up to a page's last. -/
def reach (last : Option OrderId) : Nat := (last.map (·.number + 1)).getD 0

theorem reach_bounded (last : Option OrderId) : reach last ≤ uuids := by
  cases last with
  | none => exact Nat.zero_le _
  | some last => exact last.bounded

/-- What a sweep has left to do at most: the errands past its last, and the page under way. -/
def Sweep.left (sweep : Sweep) : Nat :=
  match sweep.phase with
  | .reading => 4 * (uuids - reach sweep.after) + 1
  | .settling page pool _ => 4 * (uuids - reach page.getLast?) + pool.left Stage.weight 3
  | _ => 0

/-- A page reaches as far past its start as it is long. -/
theorem sorted_reach {page : List OrderId} (sorted : page.Pairwise (· < ·)) {from_ : Nat}
    (past : ∀ orderId ∈ page, from_ ≤ orderId.number) {last : OrderId}
    (ends : page.getLast? = some last) : from_ + page.length ≤ last.number + 1 := by
  induction page generalizing from_ with
  | nil => cases ends
  | cons first rest ih =>
    obtain ⟨below, sorted⟩ := List.pairwise_cons.mp sorted
    have start := past first List.mem_cons_self
    cases rest with
    | nil =>
      have same : first = last := Option.some.inj ends
      rw [List.length_singleton, ← same]
      omega
    | cons second rest =>
      rw [List.getLast?_cons_cons] at ends
      have onward : ∀ orderId ∈ second :: rest, first.number + 1 ≤ orderId.number :=
        fun orderId member => below orderId member
      have later := ih sorted onward ends
      rw [List.length_cons]
      omega

theorem carry_left : (sweep.carry options page pool failures).left ≤
    4 * (uuids - reach page.getLast?) + max 1 (pool.left Stage.weight 3) := by
  unfold Sweep.carry Sweep.endPage
  split
  · split
    · exact Nat.zero_le _
    · split
      · exact Nat.zero_le _
      · exact Nat.add_le_add_left (Nat.le_max_left _ _) _
  · exact Nat.add_le_add_left (Nat.le_max_right _ _) _

theorem paged_left (reading : sweep.phase = .reading) :
    (sweep.paged options now).left < sweep.left := by
  have sorted : (sweep.channels.channelsOpenedBefore (Sweep.cutoff options now) options.batch
    sweep.after).Pairwise (· < ·) := page_sorted
  have past : ∀ orderId ∈ sweep.channels.channelsOpenedBefore (Sweep.cutoff options now)
      options.batch sweep.after, reach sweep.after ≤ orderId.number := by
    intro orderId member
    cases is : sweep.after with
    | none => exact Nat.zero_le _
    | some start =>
      have beyond : start < orderId := page_past is member
      exact beyond
  have before : sweep.left = 4 * (uuids - reach sweep.after) + 1 := by
    unfold Sweep.left
    rw [reading]
  unfold Sweep.paged
  dsimp only
  generalize sweep.channels.channelsOpenedBefore (Sweep.cutoff options now) options.batch
    sweep.after = page at sorted past ⊢
  have started : (Pool.start options.limit page Stage.asking).left Stage.weight 3 =
      3 * page.length := Pool.start_left rfl
  cases ends : page.getLast? with
  | none =>
    -- An empty page is the last.
    have empty := List.getLast?_eq_none_iff.mp ends
    subst empty
    have small : 0 < options.batch := batch_positive options
    rw [before]
    simp [Sweep.carry, Sweep.endPage, Pool.start, Sweep.left, small]
  | some last =>
    have far := sorted_reach sorted past ends
    have bounded := reach_bounded (some last)
    have is : reach (some last) = last.number + 1 := rfl
    have length : 1 ≤ page.length := by
      apply List.length_pos_of_mem
      exact List.mem_of_getLast? ends
    refine Nat.lt_of_le_of_lt carry_left ?_
    rw [ends, started, before]
    omega

theorem busy_once (halfway : Halfway options sweep page pool) : (pool.busy.map Prod.fst).Nodup := by
  have apart := halfway.sharing.all.nodup_iff.mpr halfway.once
  exact (List.nodup_append.mp (List.nodup_append.mp apart).1).2.1

theorem finish_less {under : Stage} {later : Sweep} {failures' : List OrderId}
    (halfway : Halfway options sweep page pool) (settling : sweep.phase = .settling page pool failures)
    (mine : (orderId, under) ∈ pool.busy) :
    (later.carry options page (pool.finish orderId .asking) failures').left < sweep.left := by
  have worked := @Pool.finish_left _ _ _ orderId .asking Stage.weight 3 _ (busy_once halfway) under
    mine rfl
  have some_ : 2 ≤ under.weight := by cases under <;> decide
  have before : sweep.left = 4 * (uuids - reach page.getLast?) + pool.left Stage.weight 3 := by
    unfold Sweep.left
    rw [settling]
  refine Nat.lt_of_le_of_lt carry_left ?_
  rw [before]
  omega

/-- Every answer the sweep waits for leaves it with less to do. -/
theorem turn_less (orderly : Orderly options sweep) (awaited : event.awaited = true)
    (turned : turn options now sweep event = some after) : after.left < sweep.left := by
  cases turn_happens turned with
  | page reading => exact paged_left reading
  | pageFailed reading =>
    have before : sweep.left = 4 * (uuids - reach sweep.after) + 1 := by
      unfold Sweep.left
      rw [reading]
    rw [before]
    exact Nat.succ_pos _
  | @answered page failures pool orderId given settling mine =>
    obtain ⟨halfway, -⟩ := settling_halfway orderly settling
    cases given with
    | failed => exact finish_less halfway settling mine
    | unknown => exact finish_less halfway settling mine
    | found order =>
      unfold Sweep.answered
      dsimp only
      split
      · have moved := @Pool.moves_left _ _ _ orderId .deleting Stage.weight 3 _ (busy_once halfway)
          .asking mine
        have before : sweep.left = 4 * (uuids - reach page.getLast?) + pool.left Stage.weight 3 := by
          unfold Sweep.left
          rw [settling]
        have is : Stage.asking.weight = 3 ∧ Stage.deleting.weight = 2 := ⟨rfl, rfl⟩
        rw [before]
        dsimp only [Sweep.left]
        omega
      · exact finish_less halfway settling mine
  | deleted orderId settling mine =>
    obtain ⟨halfway, -⟩ := settling_halfway orderly settling
    exact finish_less halfway settling mine
  | deleteFailed orderId removed settling mine =>
    obtain ⟨halfway, -⟩ := settling_halfway orderly settling
    exact finish_less halfway settling mine
  | opened channel => cases awaited
  | removed orderId => cases awaited

/-- What others do leaves it as it is. -/
theorem turn_same (others : event.awaited = false)
    (turned : turn options now sweep event = some after) : after.left = sweep.left := by
  cases turn_happens turned with
  | opened channel => rfl
  | removed orderId => rfl
  | _ => cases others

/-- A sweep that has not ended waits for something, which can come. -/
theorem turn_waits (orderly : Orderly options sweep) (going : sweep.ended = false) :
    ∃ event after, event.awaited = true ∧ turn options now sweep event = some after := by
  cases phase : sweep.phase with
  | reading => exact ⟨.page, sweep.paged options now, rfl, by simp only [turn, phase]⟩
  | settling page pool failures =>
    obtain ⟨-, working⟩ := settling_halfway orderly phase
    obtain ⟨⟨orderId, stage⟩, rest, is⟩ := List.exists_cons_of_ne_nil working
    have mine : (orderId, stage) ∈ pool.busy := is ▸ List.mem_cons_self
    cases stage with
    | asking =>
      exact ⟨.answered orderId .failed, _, rfl, by simp only [turn, phase]; exact if_pos mine⟩
    | deleting => exact ⟨.deleted orderId, _, rfl, by simp only [turn, phase]; exact if_pos mine⟩
  | returned => simp [Sweep.ended, phase] at going
  | threw => simp [Sweep.ended, phase] at going

/-! ## A whole sweep -/

/-- What holds of a sweep and the events so far. -/
structure Sound (options : RetentionOptions) (now : Int) (start : Channels) (events : List Event)
    (sweep : Sweep) : Prop where
  orderly : Orderly options sweep
  recorded : Recorded options now start events sweep
  comes : ∀ channel ∈ start.rows, channel.createdAt < Sweep.cutoff options now →
    Event.removed channel.orderId ∉ events →
      channel.orderId ∈ sweep.pages ∨ Ahead options sweep channel.orderId

theorem turn_sound {start : Channels} (events : List Event) (sweep : Sweep) (event : Event)
    (after : Sweep) (sound : Sound options now start events sweep)
    (turned : turn options now sweep event = some after) :
    Sound options now start (events ++ [event]) after where
  orderly := turn_orderly sound.orderly turned
  recorded := turn_recorded sound.orderly sound.recorded turned
  comes := by
    intro channel member early stays
    have before : Event.removed channel.orderId ∉ events :=
      fun removed => stays (List.mem_append_left _ removed)
    exact turn_ahead sound.recorded member early before (sound.comes channel member early before)
      turned

theorem start_sound (start : Channels) : Sound options now start [] (Sweep.start start) where
  orderly := by
    refine ⟨⟨List.Pairwise.nil, rfl, List.Perm.refl _⟩, ?_⟩
    intro orderId member
    cases member
  recorded := by
    refine ⟨?_, ?_, fun channel member _ => .inl member, ?_⟩
    · intro orderId member
      cases member
    · intro orderId busy
      cases busy
    · rintro ((is | ⟨_, _, _, is, -⟩) | lost)
      · cases is
      · cases is
      · exact absurd rfl lost
  comes := by
    intro channel _ _ _
    right
    intro last is
    cases is

theorem run_sound {start : Channels} {events : List Event}
    (reached : turns (turn options now) (Sweep.start start) events = some sweep) :
    Sound options now start events sweep :=
  turns_keeps turn_sound (start_sound start) events reached

theorem tried_perm (orderly : Orderly options sweep) :
    ∃ rest, (sweep.settled ++ sweep.failed ++ rest).Perm sweep.pages ∧
      (sweep.ended = true → rest = []) ∧ sweep.pages.Nodup ∧
      sweep.result.total = sweep.settled.length := by
  unfold Orderly at orderly
  split at orderly
  · obtain ⟨rested, -⟩ := orderly
    exact ⟨[], (List.append_nil _).symm ▸ rested.tried, fun _ => rfl, rested.sorted.imp ne_of_lt,
      rested.counted⟩
  · rename_i page pool failures settling
    obtain ⟨halfway, -⟩ := orderly
    obtain ⟨earlier, is, tried⟩ := halfway.tried
    refine ⟨pool.busy.map Prod.fst ++ pool.queue, ?_, ?_, halfway.sorted.imp ne_of_lt,
      halfway.counted⟩
    · rw [is]
      refine (tried.append_right _).trans ?_
      rw [List.append_assoc, ← List.append_assoc pool.tried]
      exact halfway.sharing.all.append_left _
    · intro ended
      simp [Sweep.ended, settling] at ended
  · exact ⟨[], (List.append_nil _).symm ▸ orderly.tried, fun _ => rfl, orderly.sorted.imp ne_of_lt,
      orderly.counted⟩

/-- A run without end, event by event. -/
structure Runs (options : RetentionOptions) (now : Int) (states : Nat → Sweep)
    (happens : Nat → Event) : Prop where
  turns : ∀ count, turn options now (states count) (happens count) = some (states (count + 1))
  answers : ∀ count, (states count).ended = false →
    ∃ later, count ≤ later ∧ (happens later).awaited = true

theorem Runs.reached {states : Nat → Sweep} {happens : Nat → Event}
    (runs : Runs options now states happens) (count : Nat) :
    EventLoop.turns (turn options now) (states 0) ((List.range count).map happens) =
      some (states count) := by
  have onward : ∀ first, EventLoop.turns (turn options now) (states first)
      ((List.range' first count).map happens) = some (states (first + count)) := by
    induction count with
    | zero => exact fun first => rfl
    | succ count ih =>
      intro first
      rw [List.range'_succ, List.map_cons, EventLoop.turns, runs.turns first, Option.bind_some,
        ih (first + 1), Nat.add_right_comm]
      rfl
  rw [List.range_eq_range', onward 0, Nat.zero_add]

/-- A sweep that is answered ends: what is left for it to do grows less with every answer. -/
theorem Runs.ends {states : Nat → Sweep} {happens : Nat → Event} {start : Channels}
    (runs : Runs options now states happens) (begins : states 0 = Sweep.start start) :
    ∃ count, (states count).ended = true := by
  have orderly : ∀ count, Orderly options (states count) := by
    intro count
    have reached := runs.reached count
    rw [begins] at reached
    exact (run_sound reached).orderly
  by_contra never
  have going : ∀ count, (states count).ended = false := by
    intro count
    rw [← Bool.not_eq_true]
    exact fun ended => never ⟨count, ended⟩
  have fewer : ∀ first last, first ≤ last → (states last).left ≤ (states first).left := by
    intro first last later
    induction last, later using Nat.le_induction with
    | base => exact Nat.le_refl _
    | succ last _ ih =>
      cases awaited : (happens last).awaited with
      | true => exact (turn_less (orderly last) awaited (runs.turns last)).le.trans ih
      | false => exact (le_of_eq (turn_same awaited (runs.turns last))).trans ih
  have none_ : ∀ left count, (states count).left ≤ left → False := by
    intro left
    induction left with
    | zero =>
      intro count most
      obtain ⟨later, onward, awaited⟩ := runs.answers count (going count)
      have less := turn_less (orderly later) awaited (runs.turns later)
      have before := fewer count later onward
      omega
    | succ left ih =>
      intro count most
      obtain ⟨later, onward, awaited⟩ := runs.answers count (going count)
      have less := turn_less (orderly later) awaited (runs.turns later)
      have before := fewer count later onward
      exact ih (later + 1) (by omega)
  exact none_ _ 0 (Nat.le_refl _)

/-- At every point of a sweep at most `concurrency` channels are under way, the counters add up
to the channels settled, none twice, and a channel is only deleted on the Order Service's answer
that its errand ended too long ago; a sweep that ended has tried every channel of its pages, and
throws only where a delete or a read failed. One that is answered ends, and where none failed it
has settled each channel that was opened before the cutoff and that nobody else deleted. -/
theorem retention_sweeps (options : RetentionOptions) (now : Int) (start : Channels) :
    (∀ events sweep, turns (turn options now) (Sweep.start start) events = some sweep →
      sweep.busy.length ≤ options.limit ∧
      sweep.result.deleted + sweep.result.kept + sweep.result.skipped + sweep.result.unknown =
        sweep.settled.length ∧
      sweep.settled.Nodup ∧
      (∀ orderId ∈ sweep.deletes, ∃ order, Event.answered orderId (.found order) ∈ events ∧
        pastRetention order options.retentionDays now = true) ∧
      (∀ channel ∈ start.rows, Event.removed channel.orderId ∉ events →
        channel ∈ sweep.channels.rows ∨ channel.orderId ∈ sweep.deletes) ∧
      (sweep.ended = true → ∀ orderId ∈ sweep.pages, orderId ∈ sweep.settled ∨ orderId ∈ sweep.failed) ∧
      (sweep.phase = .threw → ∃ event ∈ events, event.fails = true) ∧
      (sweep.ended = false → ∃ event after, event.awaited = true ∧
        turn options now sweep event = some after)) ∧
    ∀ states happens, Runs options now states happens → states 0 = Sweep.start start →
      ∃ count, (states count).ended = true ∧
        ((∀ before < count, (happens before).fails = false) → (states count).phase = .returned ∧
          ∀ channel ∈ start.rows, channel.createdAt < Sweep.cutoff options now →
            (∀ before < count, happens before ≠ .removed channel.orderId) →
              (states count).settled.count channel.orderId = 1) := by
  constructor
  · intro events sweep reached
    have sound := run_sound reached
    obtain ⟨rest, tried, done, once, counted⟩ := tried_perm sound.orderly
    have apart : (sweep.settled ++ sweep.failed ++ rest).Nodup := tried.nodup_iff.mpr once
    refine ⟨?_, counted, ?_, fun orderId sent => (sound.recorded.deletes orderId sent).2,
      sound.recorded.stays, ?_, fun threw => sound.recorded.fails (.inl (.inl threw)),
      turn_waits sound.orderly⟩
    · unfold Sweep.busy
      split
      · exact (settling_halfway sound.orderly ‹_›).1.sharing.few
      · exact Nat.zero_le _
    · exact (List.nodup_append.mp (List.nodup_append.mp apart).1).1
    · intro ended orderId member
      rw [done ended, List.append_nil] at tried
      exact List.mem_append.mp (tried.symm.subset member)
  · intro states happens runs begins
    obtain ⟨count, ended⟩ := runs.ends begins
    refine ⟨count, ended, ?_⟩
    intro succeed
    have reached := runs.reached count
    rw [begins] at reached
    have sound := run_sound reached
    have unfailed : ∀ event ∈ (List.range count).map happens, event.fails ≠ true := by
      intro event member
      obtain ⟨before, early, rfl⟩ := List.mem_map.mp member
      rw [succeed before (List.mem_range.mp early)]
      exact Bool.false_ne_true
    have fine : ¬ (Failing (states count) ∨ (states count).failed ≠ []) := by
      intro failing
      obtain ⟨event, member, fails⟩ := sound.recorded.fails failing
      exact unfailed event member fails
    rw [not_or, not_not] at fine
    obtain ⟨going, kept⟩ := fine
    have phase : (states count).phase = .returned := by
      cases is : (states count).phase with
      | returned => rfl
      | threw => exact absurd (.inl is) going
      | reading => simp [Sweep.ended, is] at ended
      | settling page pool failures => simp [Sweep.ended, is] at ended
    refine ⟨phase, ?_⟩
    intro channel member early stays
    have unremoved : Event.removed channel.orderId ∉ (List.range count).map happens := by
      intro removed
      obtain ⟨before, there, is⟩ := List.mem_map.mp removed
      exact stays before (List.mem_range.mp there) is
    have listed : channel.orderId ∈ (states count).pages := by
      rcases sound.comes channel member early unremoved with listed | ahead
      · exact listed
      · unfold Ahead at ahead
        rw [phase] at ahead
        exact ahead.elim
    obtain ⟨rest, tried, done, once, -⟩ := tried_perm sound.orderly
    rw [done ended, kept, List.append_nil, List.append_nil] at tried
    exact List.count_eq_one_of_mem (tried.nodup_iff.mpr once) (tried.symm.subset listed)

end Sweeps

end Foc.Chat.Retention
