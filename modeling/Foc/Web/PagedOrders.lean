import Mathlib
import Foc.Library.EventLoop
import Foc.Library.Keyset

/-!
A list of errands that is read page by page and refreshed (`lib/paged-orders.ts`, as the feed
uses it): a fresh first page is put before what is shown, and a later page behind it. The
server's list may be another at each read. A cursor is the place it resumes past.
-/
namespace Foc.Web.Paging
open Library Library.EventLoop

/-- What a page shows: the errands, where the next page starts, and how many were loaded. -/
structure PagedOrders (Item Place : Type) where
  items : List Item
  nextCursor : Option Place
  pagesLoaded : Nat
  deriving DecidableEq, Repr

section Answers

variable {Item Id Place : Type} [LinearOrder Place]

/-- The server's list: no errand is in it twice, and no two have one place. -/
structure ServerList (orderId : Item → Id) (place : Item → Place) where
  rows : List Item
  ids : (rows.map orderId).Nodup
  places : (rows.map place).Nodup

/-- How the server lists: its sort, and the most it answers at once. -/
structure Listing (Item Id Place : Type) where
  orderId : Item → Id
  place : Item → Place
  limit : Nat
  positive : 0 < limit

abbrev Listing.List (listing : Listing Item Id Place) := ServerList listing.orderId listing.place

/-- The answer to a read: the errands and the cursor of the next page. -/
def answer (listing : Listing Item Id Place) (list : listing.List) (cursor : Option Place) :
    List Item × Option Place :=
  Keyset.page listing.place listing.limit cursor list.rows

variable {listing : Listing Item Id Place} {list : listing.List} {cursor : Option Place}
  {order row : Item}

theorem answer_within (member : order ∈ (answer listing list cursor).1) : order ∈ list.rows := by
  rw [answer, Keyset.page_items] at member
  exact (Keyset.mem_past.mp (List.mem_of_mem_take member)).1

theorem answer_past (member : order ∈ (answer listing list cursor).1) :
    ∀ last, cursor = some last → last < listing.place order := by
  rw [answer, Keyset.page_items] at member
  exact (Keyset.mem_past.mp (List.mem_of_mem_take member)).2

theorem answer_once : ((answer listing list cursor).1.map listing.orderId).Nodup := by
  have sorted := @Keyset.past_sorted _ _ _ listing.place cursor list.rows list.places
  have apart : (Keyset.past listing.place cursor list.rows).Nodup := by
    apply sorted.imp
    rintro first second before rfl
    exact lt_irrefl _ before
  rw [answer, Keyset.page_items]
  refine List.Nodup.map_on ?_ (apart.sublist (List.take_sublist _ _))
  intro first one second two same
  have within : ∀ order ∈ (Keyset.past listing.place cursor list.rows).take listing.limit,
      order ∈ list.rows := fun order member =>
    (Keyset.mem_past.mp (List.mem_of_mem_take member)).1
  exact List.inj_on_of_nodup_map list.ids (within first one) (within second two) same

/-- A page has every errand past its cursor and not past the next one. -/
theorem answer_covers (member : row ∈ list.rows)
    (past : ∀ last, cursor = some last → last < listing.place row)
    (before : ∀ next, (answer listing list cursor).2 = some next → listing.place row ≤ next) :
    row ∈ (answer listing list cursor).1 := by
  have listed : row ∈ Keyset.past listing.place cursor list.rows :=
    Keyset.mem_past.mpr ⟨member, past⟩
  cases ends : (answer listing list cursor).2 with
  | none =>
    rw [answer, Keyset.page_none ends listing.positive]
    exact listed
  | some next =>
    obtain ⟨-, -, rest⟩ := Keyset.page_some list.places ends
    rcases rest row listed with here | later
    · exact here
    · exact absurd (before next ends) (not_le.mpr later)

end Answers

section Merging

variable {Item Id Place : Type} [DecidableEq Id]

def mergeOrders (listing : Listing Item Id Place) (first later : List Item) : List Item :=
  first ++ later.filter fun order => listing.orderId order ∉ first.map listing.orderId

variable {listing : Listing Item Id Place} {order : Item} {first later : List Item} {id : Id}

theorem mem_merge :
    order ∈ mergeOrders listing first later ↔
      order ∈ first ∨ order ∈ later ∧ listing.orderId order ∉ first.map listing.orderId := by
  rw [mergeOrders, List.mem_append, List.mem_filter, decide_eq_true_eq]

theorem merge_once (one : (first.map listing.orderId).Nodup)
    (two : (later.map listing.orderId).Nodup) :
    ((mergeOrders listing first later).map listing.orderId).Nodup := by
  rw [mergeOrders, List.map_append, List.nodup_append]
  refine ⟨one, two.sublist (List.filter_sublist.map _), ?_⟩
  rintro id before _ behind rfl
  obtain ⟨order, member, is⟩ := List.mem_map.mp behind
  have new := of_decide_eq_true (List.mem_filter.mp member).2
  rw [is] at new
  exact new before

/-- Every errand of either list is there once they are merged. -/
theorem merge_ids :
    id ∈ (mergeOrders listing first later).map listing.orderId ↔
      id ∈ first.map listing.orderId ∨ id ∈ later.map listing.orderId := by
  constructor
  · intro member
    obtain ⟨order, there, rfl⟩ := List.mem_map.mp member
    rcases mem_merge.mp there with before | ⟨behind, -⟩
    · exact .inl (List.mem_map_of_mem before)
    · exact .inr (List.mem_map_of_mem behind)
  · rintro (before | behind)
    · obtain ⟨order, there, rfl⟩ := List.mem_map.mp before
      exact List.mem_map_of_mem (mem_merge.mpr (.inl there))
    · by_cases known : id ∈ first.map listing.orderId
      · obtain ⟨order, there, rfl⟩ := List.mem_map.mp known
        exact List.mem_map_of_mem (mem_merge.mpr (.inl there))
      · obtain ⟨order, there, rfl⟩ := List.mem_map.mp behind
        exact List.mem_map_of_mem (mem_merge.mpr (.inr ⟨there, known⟩))

end Merging

section Feed

variable {Item Id Place : Type} [DecidableEq Id] [LinearOrder Place]
  (listing : Listing Item Id Place)

def refreshPage (current : Option (PagedOrders Item Place)) (first : List Item × Option Place) :
    PagedOrders Item Place :=
  match current with
  | none => ⟨first.1, first.2, 1⟩
  | some current =>
    if current.pagesLoaded = 1 then ⟨first.1, first.2, 1⟩
    else
      { items := mergeOrders listing first.1 current.items
        nextCursor := if 1 < current.pagesLoaded then current.nextCursor else first.2
        pagesLoaded := current.pagesLoaded }

def appendPage (current : PagedOrders Item Place) (next : List Item × Option Place) :
    PagedOrders Item Place where
  items := mergeOrders listing current.items next.1
  nextCursor := next.2
  pagesLoaded := current.pagesLoaded + 1

/-- What the feed asks for: the first page, or the page past a cursor. -/
inductive Request (Place : Type) where
  | read
  | loadMore (cursor : Place)
  deriving DecidableEq, Repr

/-- An answer comes, read of the list. A loaded page counts only while its cursor is the state's. -/
def arrives (list : listing.List) (state : Option (PagedOrders Item Place)) :
    Request Place → Option (PagedOrders Item Place)
  | .read => some (refreshPage listing state (answer listing list none))
  | .loadMore cursor =>
      state.map fun current =>
        if current.nextCursor = some cursor then
          appendPage listing current (answer listing list (some cursor))
        else current

/-- A turn with the list as it was read. -/
def turn : Turn (Option (PagedOrders Item Place)) (listing.List × Request Place) :=
  fun state event => some (arrives listing event.1 state event.2)

/-- The turns while the list stays as it is. -/
def stillTurn (list : listing.List) : Turn (Option (PagedOrders Item Place)) (Request Place) :=
  fun state request => some (arrives listing list state request)

/-! ## What the feed is to show -/

/-- No errand is shown twice. -/
def Unrepeated (state : PagedOrders Item Place) : Prop := (state.items.map listing.orderId).Nodup

def Shown (state : PagedOrders Item Place) (row : Item) : Prop :=
  listing.orderId row ∈ state.items.map listing.orderId

/-- What is shown up to the last errand of the fresh first page is that page. -/
def Fresh (list : listing.List) (state : PagedOrders Item Place) : Prop :=
  ∀ last, (answer listing list none).1.getLast? = some last →
    ∀ order ∈ state.items, listing.place order ≤ listing.place last →
      order ∈ (answer listing list none).1

/-- Wherever the pages end while the list stays as it is, all of it is shown. -/
def Complete (list : listing.List) (state : PagedOrders Item Place) : Prop :=
  ∀ final, Run (stillTurn listing list) (some state) (some final) → final.nextCursor = none →
    ∀ row ∈ list.rows, Shown listing final row

/-- No errand that is shown left the stretch that the fresh first page covers. -/
def NoneLeft (list : listing.List) (current : PagedOrders Item Place) : Prop :=
  ∀ last, (answer listing list none).1.getLast? = some last →
    ∀ order ∈ current.items, listing.place order ≤ listing.place last →
      listing.orderId order ∈ (answer listing list none).1.map listing.orderId

/-- No errand joined the list past the fresh first page and before the next page's start. -/
def NoneJoined (list : listing.List) (current : PagedOrders Item Place) : Prop :=
  ∀ row ∈ list.rows, row ∉ (answer listing list none).1 →
    (∀ cursor, current.nextCursor = some cursor → listing.place row ≤ cursor) →
      Shown listing current row

/-- Only one page is loaded, or the list changed nothing that a later page was loaded for. -/
def Settled (list : listing.List) (state : Option (PagedOrders Item Place)) : Prop :=
  ∀ current, state = some current → 1 < current.pagesLoaded →
    NoneLeft listing list current ∧ NoneJoined listing list current

/-! ## Refreshing -/

variable {listing} {list : listing.List} {state : Option (PagedOrders Item Place)}
  {current after : PagedOrders Item Place} {cursor : Place} {row : Item}

omit [LinearOrder Place] in
theorem refresh_single (single : ∀ current, state = some current → current.pagesLoaded = 1)
    (first : List Item × Option Place) :
    refreshPage listing state first = ⟨first.1, first.2, 1⟩ := by
  cases state with
  | none => rfl
  | some current => exact if_pos (single current rfl)

omit [LinearOrder Place] in
theorem refresh_many (many : 1 < current.pagesLoaded) (first : List Item × Option Place) :
    refreshPage listing (some current) first =
      ⟨mergeOrders listing first.1 current.items, current.nextCursor, current.pagesLoaded⟩ := by
  rw [refreshPage, if_neg (Nat.ne_of_gt many), if_pos many]

/-- What every read keeps. -/
structure Sound (listing : Listing Item Id Place) (current : PagedOrders Item Place) : Prop where
  once : Unrepeated listing current
  loaded : 1 ≤ current.pagesLoaded

def Kept (listing : Listing Item Id Place) (state : Option (PagedOrders Item Place)) : Prop :=
  ∀ current, state = some current → Sound listing current

theorem refresh_sound (sound : Kept listing state) (list : listing.List) :
    Sound listing (refreshPage listing state (answer listing list none)) := by
  cases state with
  | none => exact ⟨answer_once, Nat.le_refl 1⟩
  | some current =>
    obtain ⟨once, loaded⟩ := sound current rfl
    rcases Nat.lt_or_eq_of_le loaded with many | single
    · rw [refresh_many many]
      exact ⟨merge_once answer_once once, loaded⟩
    · rw [refresh_single (by rintro _ ⟨⟩; exact single.symm)]
      exact ⟨answer_once, Nat.le_refl 1⟩

theorem arrives_sound (sound : Kept listing state)
    (request : Request Place) (arrived : arrives listing list state request = some after) :
    Sound listing after := by
  cases request with
  | read =>
    cases arrived
    exact refresh_sound sound list
  | loadMore cursor =>
    obtain ⟨current, is, rfl⟩ := Option.map_eq_some_iff.mp arrived
    obtain ⟨once, loaded⟩ := sound current is
    split
    · exact ⟨merge_once once answer_once, Nat.le_succ_of_le loaded⟩
    · exact ⟨once, loaded⟩

theorem run_sound (run : Run (turn listing) none state) : Kept listing state := by
  have begins : Kept listing (none : Option (PagedOrders Item Place)) := by
    intro current is
    cases is
  refine run_keeps ?_ begins run
  intro state event after sound turned current is
  cases turned
  exact arrives_sound sound event.2 is

/-! ## Completeness -/

/-- Every errand of the list up to the next page's start is shown. -/
def Covers (list : listing.List) (current : PagedOrders Item Place) : Prop :=
  ∀ row ∈ list.rows, (∀ cursor, current.nextCursor = some cursor → listing.place row ≤ cursor) →
    Shown listing current row

omit [DecidableEq Id] in
theorem first_covers (pages : Nat) :
    Covers list ⟨(answer listing list none).1, (answer listing list none).2, pages⟩ := by
  intro row member before
  refine List.mem_map_of_mem (answer_covers member ?_ before)
  intro last is
  cases is

theorem append_covers (covers : Covers list current) (next : current.nextCursor = some cursor) :
    Covers list (appendPage listing current (answer listing list (some cursor))) := by
  intro row member before
  refine merge_ids.mpr ?_
  by_cases early : listing.place row ≤ cursor
  · left
    apply covers row member
    intro other is
    rw [next] at is
    cases is
    exact early
  · right
    refine List.mem_map_of_mem (answer_covers member ?_ before)
    intro last is
    cases is
    exact not_le.mp early

theorem arrives_covers (covers : Covers list current) (sound : Sound listing current)
    (request : Request Place)
    (arrived : arrives listing list (some current) request = some after) : Covers list after := by
  cases request with
  | read =>
    cases arrived
    rcases Nat.lt_or_eq_of_le sound.loaded with many | single
    · rw [refresh_many many]
      intro row member before
      exact merge_ids.mpr (.inr (covers row member before))
    · rw [refresh_single (by rintro _ ⟨⟩; exact single.symm)]
      exact first_covers 1
  | loadMore cursor =>
    cases arrived
    dsimp only
    split
    · rename_i next
      exact append_covers covers next
    · exact covers

def Covered (list : listing.List) (state : Option (PagedOrders Item Place)) : Prop :=
  ∀ current, state = some current → Covers list current ∧ Sound listing current

theorem still_covered (covered : Covered list state) (request : Request Place) :
    Covered list (arrives listing list state request) := by
  intro current is
  cases state with
  | none =>
    cases request with
    | read =>
      cases is
      exact ⟨first_covers 1, answer_once, Nat.le_refl 1⟩
    | loadMore cursor => cases is
  | some before =>
    obtain ⟨covers, sound⟩ := covered before rfl
    refine ⟨arrives_covers covers sound request is, arrives_sound ?_ request is⟩
    rintro _ ⟨⟩
    exact sound

theorem complete_of_covers (covers : Covers list current) (sound : Sound listing current) :
    Complete listing list current := by
  intro final run ends row member
  have begins : Covered list (some current) := by
    rintro _ ⟨⟩
    exact ⟨covers, sound⟩
  have kept : Covered list (some final) := by
    refine run_keeps ?_ begins run
    rintro state request _ covered ⟨⟩
    exact still_covered covered request
  apply (kept final rfl).1 row member
  intro cursor is
  rw [ends] at is
  cases is

/-- An errand that is not shown though the next page starts past it. -/
structure Skipped (list : listing.List) (current : PagedOrders Item Place) (row : Item) : Prop where
  listed : row ∈ list.rows
  hidden : ¬ Shown listing current row
  early : ∀ cursor, current.nextCursor = some cursor → listing.place row ≤ cursor

theorem append_skipped (skipped : Skipped list current row)
    (next : current.nextCursor = some cursor) :
    Skipped list (appendPage listing current (answer listing list (some cursor))) row where
  listed := skipped.listed
  hidden := by
    intro shown
    rcases merge_ids.mp shown with before | behind
    · exact skipped.hidden before
    · obtain ⟨order, member, same⟩ := List.mem_map.mp behind
      have is := List.inj_on_of_nodup_map list.ids (answer_within member) skipped.listed same
      have past := answer_past member cursor rfl
      rw [is] at past
      exact absurd (skipped.early cursor next) (not_le.mpr past)
  early := by
    intro later is
    obtain ⟨⟨last, member, ends⟩, -, -⟩ := Keyset.page_some list.places is
    have past : cursor < listing.place last := answer_past member cursor rfl
    rw [ends] at past
    exact (skipped.early cursor next).trans past.le

/-- The errands past a page's start, fewer with each page. -/
def ahead (list : listing.List) (cursor : Place) : Nat :=
  (list.rows.filter fun row => cursor < listing.place row).length

omit [DecidableEq Id] in
theorem ahead_less {later : Place} (more : (answer listing list (some cursor)).2 = some later) :
    ahead list later < ahead list cursor := by
  obtain ⟨⟨last, member, ends⟩, -, -⟩ := Keyset.page_some list.places more
  have past : cursor < listing.place last := answer_past member cursor rfl
  have fewer : list.rows.filter (fun row => later < listing.place row) =
      (list.rows.filter fun row => cursor < listing.place row).filter
        fun row => later < listing.place row := by
    rw [List.filter_filter]
    apply List.filter_congr
    intro row _
    rw [ends] at past
    by_cases beyond : later < listing.place row
    · simp [beyond, past.trans beyond]
    · simp [beyond]
  rw [ahead, fewer]
  refine List.length_filter_lt_length_iff_exists.mpr ⟨last, ?_, ?_⟩
  · exact List.mem_filter.mpr ⟨answer_within member, decide_eq_true past⟩
  · rw [ends]
    simp

/-- Loading on ends the pages, and an errand that was skipped stays so. -/
theorem loads_end (skipped : Skipped list current row) :
    ∃ final, Run (stillTurn listing list) (some current) (some final) ∧
      final.nextCursor = none ∧ ¬ Shown listing final row := by
  cases next : current.nextCursor with
  | none => exact ⟨current, .refl, next, skipped.hidden⟩
  | some cursor =>
    induction left : ahead list cursor using Nat.strong_induction_on
      generalizing current cursor with
    | _ size ih =>
      have turned : stillTurn listing list (some current) (.loadMore cursor) =
          some (some (appendPage listing current (answer listing list (some cursor)))) := by
        simp [stillTurn, arrives, next]
      have first : Run (stillTurn listing list) (some current)
          (some (appendPage listing current (answer listing list (some cursor)))) :=
        Run.refl.next (.loadMore cursor) turned
      have again := append_skipped skipped next
      cases more : (answer listing list (some cursor)).2 with
      | none => exact ⟨_, first, more, again.hidden⟩
      | some later =>
        have less := ahead_less more
        rw [left] at less
        obtain ⟨final, run, ends, hidden⟩ := ih _ less again later more rfl
        exact ⟨final, run_append first run, ends, hidden⟩

theorem complete_iff_covers (sound : Sound listing current) :
    Complete listing list current ↔ Covers list current := by
  constructor
  · intro complete row member early
    by_contra hidden
    obtain ⟨final, run, ends, still⟩ := loads_end ⟨member, hidden, early⟩
    exact still (complete final run ends row member)
  · intro covers
    exact complete_of_covers covers sound

/-! ## What a refresh leaves -/

theorem fresh_iff (many : 1 < current.pagesLoaded) :
    Fresh listing list (refreshPage listing (some current) (answer listing list none)) ↔
      NoneLeft listing list current := by
  rw [refresh_many many]
  constructor
  · intro fresh last ends order member early
    by_contra gone
    have shown := fresh last ends order (mem_merge.mpr (.inr ⟨member, gone⟩)) early
    exact gone (List.mem_map_of_mem shown)
  · intro kept last ends order member early
    rcases mem_merge.mp member with first | ⟨old, gone⟩
    · exact first
    · exact absurd (kept last ends order old early) gone

theorem covers_iff (many : 1 < current.pagesLoaded) :
    Covers list (refreshPage listing (some current) (answer listing list none)) ↔
      NoneJoined listing list current := by
  rw [refresh_many many]
  constructor
  · intro covers row member past early
    rcases merge_ids.mp (covers row member early) with first | old
    · obtain ⟨order, there, same⟩ := List.mem_map.mp first
      have is := List.inj_on_of_nodup_map list.ids (answer_within there) member same
      rw [is] at there
      exact absurd there past
    · exact old
  · intro kept row member early
    refine merge_ids.mpr ?_
    by_cases first : row ∈ (answer listing list none).1
    · exact .inl (List.mem_map_of_mem first)
    · exact .inr (kept row member first early)

/-- No errand is ever shown twice. A refresh shows the list as it is, then and wherever the pages
end, exactly where no loaded page was made wrong by an errand that left or joined the list. -/
theorem refresh_truthful (listing : Listing Item Id Place)
    (state : Option (PagedOrders Item Place)) (run : Run (turn listing) none state) :
    (∀ current, state = some current → Unrepeated listing current) ∧
      ∀ list : listing.List,
        Fresh listing list (refreshPage listing state (answer listing list none)) ∧
            Complete listing list (refreshPage listing state (answer listing list none)) ↔
          Settled listing list state := by
  have kept := run_sound run
  refine ⟨fun current is => (kept current is).once, ?_⟩
  intro list
  rw [complete_iff_covers (refresh_sound kept list)]
  by_cases many : ∃ current, state = some current ∧ 1 < current.pagesLoaded
  · obtain ⟨current, rfl, more⟩ := many
    rw [fresh_iff more, covers_iff more]
    constructor
    · rintro changes _ ⟨⟩ _
      exact changes
    · intro settled
      exact settled current rfl more
  · have single : ∀ current, state = some current → current.pagesLoaded = 1 := by
      intro current is
      have loaded := (kept current is).loaded
      by_contra apart
      exact many ⟨current, is, by omega⟩
    have settled : Settled listing list state := by
      intro current is more
      exact absurd ⟨current, is, more⟩ many
    rw [refresh_single single]
    refine iff_of_true ⟨?_, first_covers 1⟩ settled
    intro last _ order member _
    exact member

end Feed

/-! ## Two pages of numbered errands -/

/-- Errands that are their own number and place, two on a page. -/
def numbered : Listing Nat Nat Nat := ⟨id, id, 2, by decide⟩

def numbers (rows : List Nat) (once : rows.Nodup) : numbered.List where
  rows := rows
  ids := by
    rw [numbered, List.map_id]
    exact once
  places := by
    rw [numbered, List.map_id]
    exact once

def three : numbered.List := numbers [1, 2, 3] (by decide)

/-- Both pages were loaded. -/
def loaded : Option (PagedOrders Nat Nat) := some ⟨[1, 2, 3], none, 2⟩

theorem unchanged_truthful :
    Run (turn numbered) none loaded ∧ Settled numbered three loaded ∧
      Fresh numbered three (refreshPage numbered loaded (answer numbered three none)) ∧
        Complete numbered three (refreshPage numbered loaded (answer numbered three none)) := by
  have run : Run (turn numbered) none loaded :=
    run_turns .refl [(three, .read), (three, .loadMore 2)] (by decide)
  have settled : Settled numbered three loaded := by
    have last_ : (answer numbered three none).1.getLast? = some 2 := by decide
    rintro _ ⟨⟩ _
    constructor
    · intro last ends
      rw [last_] at ends
      cases ends
      decide
    · intro row member _ _
      revert row
      unfold Shown
      decide
  exact ⟨run, settled, ((refresh_truthful numbered loaded run).2 three).mpr settled⟩

/-- An errand left the first page: it is still shown. Another joined behind: it never is. -/
theorem truth_lost :
    (¬ ∀ state, Run (turn numbered) none state → ∀ list : numbered.List,
      Fresh numbered list (refreshPage numbered state (answer numbered list none))) ∧
    ¬ ∀ state, Run (turn numbered) none state → ∀ list : numbered.List,
      Complete numbered list (refreshPage numbered state (answer numbered list none)) := by
  have run : Run (turn numbered) none loaded :=
    run_turns .refl [(three, .read), (three, .loadMore 2)] (by decide)
  constructor
  · intro all
    have fresh :=
      all loaded run (numbers [1, 3] (by decide)) 3 (by decide) 2 (by decide) (by decide)
    revert fresh
    decide
  · intro all
    have complete := all loaded run (numbers [1, 2, 3, 4] (by decide)) ⟨[1, 2, 3], none, 2⟩ ?_ rfl 4
      (by decide)
    · revert complete
      unfold Shown
      decide
    · exact .refl

end Foc.Web.Paging
