import Mathlib.Data.List.Sort
import Mathlib.Order.Basic
import Mathlib.Tactic.Common

/-!
Pages by key. A request reads the rows past a key, in the order of their keys, up to
a limit and one more, which tells whether the next page is to start from the last
row's key. The rows may be others at each request. Nothing here knows what the rows,
the keys or the texts of the keys are.
-/
namespace Foc.Library.Keyset

/-! ## Requests -/

/-- Requests one after the other, each from where the one before it ended: what they
listed, and whether the last of them found no more. -/
def walk {State Cursor Item Error : Type}
    (request : State → Option Cursor → Except Error (List Item × Option Cursor)) :
    Option Cursor → List State → Except Error (List Item × Bool)
  | _, [] => .ok ([], false)
  | after, state :: later =>
      match request state after with
      | .error error => .error error
      | .ok (items, none) => .ok (items, true)
      | .ok (items, some next) =>
          match walk request (some next) later with
          | .error error => .error error
          | .ok (rest, finished) => .ok (items ++ rest, finished)

/-- What holds of every item of a page holds of every item of a walk. -/
theorem walk_all {State Cursor Item Error : Type}
    {request : State → Option Cursor → Except Error (List Item × Option Cursor)}
    {fact : Item → Prop} {states : List State}
    (served : ∀ state ∈ states, ∀ cursor items next,
      request state cursor = .ok (items, next) → ∀ item ∈ items, fact item)
    {cursor : Option Cursor} {items : List Item} {finished : Bool}
    (walked : walk request cursor states = .ok (items, finished)) : ∀ item ∈ items, fact item := by
  induction states generalizing cursor items with
  | nil =>
      cases walked
      exact List.forall_mem_nil _
  | cons state later ih =>
      have here := served state List.mem_cons_self cursor
      rw [walk] at walked
      split at walked
      · cases walked
      · next answer =>
        cases walked
        exact here items none answer
      · next found next answer =>
        split at walked
        · cases walked
        · next rest ended onward =>
          cases walked
          intro item member
          rcases List.mem_append.mp member with early | late
          · exact here found (some next) answer item early
          · exact ih (fun state member => served state (List.mem_cons_of_mem _ member)) onward
              item late

section Pages

variable {α κ : Type} [LinearOrder κ] (key : α → κ) (limit : Nat)

/-- The rows past a key, in order. -/
def past (after : Option κ) (rows : List α) : List α :=
  (rows.filter fun row => after.all fun last => decide (last < key row)).insertionSort
    fun first second => key first ≤ key second

def page (after : Option κ) (rows : List α) : List α × Option κ :=
  let found := (past key after rows).take (limit + 1)
  (found.take limit,
    if limit < found.length then (found.take limit).getLast?.map key else none)

/-- The pages of rows that may change between the requests. -/
def pages : Option κ → List (List α) → List α × Bool
  | _, [] => ([], false)
  | after, rows :: later =>
      match page key limit after rows with
      | (items, none) => (items, true)
      | (items, some next) =>
          let rest := pages (some next) later
          (items ++ rest.1, rest.2)

variable {key limit} {after : Option κ} {rows : List α} {snapshots : List (List α)}

/-! ## One page -/

theorem mem_past {row : α} :
    row ∈ past key after rows ↔ row ∈ rows ∧ ∀ last, after = some last → last < key row := by
  cases after with
  | none => simp [past]
  | some last => simp [past]

theorem past_sorted (distinct : (rows.map key).Nodup) :
    (past key after rows).Pairwise fun first second => key first < key second := by
  have : Std.Total fun first second : α => key first ≤ key second :=
    ⟨fun first second => le_total (key first) (key second)⟩
  have : IsTrans α fun first second => key first ≤ key second :=
    ⟨fun _ _ _ earlier later => earlier.trans later⟩
  have weakly : (past key after rows).Pairwise fun first second => key first ≤ key second :=
    List.pairwise_insertionSort _ _
  have apart : (past key after rows).Pairwise fun first second => key first ≠ key second := by
    have kept : ((rows.filter fun row =>
        after.all fun last => decide (last < key row)).map key).Nodup :=
      distinct.sublist (List.filter_sublist.map key)
    have sorted := (List.perm_insertionSort (fun first second => key first ≤ key second) _).map key
      |>.nodup_iff.mpr kept
    exact List.pairwise_map.mp sorted
  apply (weakly.and apart).imp
  rintro first second ⟨before, different⟩
  exact lt_of_le_of_ne before different

theorem page_items : (page key limit after rows).1 = (past key after rows).take limit := by
  simp [page, List.take_take]

theorem page_none (none : (page key limit after rows).2 = none) (positive : 0 < limit) :
    (page key limit after rows).1 = past key after rows := by
  rw [page_items]
  apply List.take_of_length_le
  by_contra more
  have left : limit < (past key after rows).length := Nat.not_le.mp more
  simp only [page, List.length_take, List.take_take] at none
  rw [if_pos (by omega)] at none
  rw [Option.map_eq_none_iff, List.getLast?_eq_none_iff, List.take_eq_nil_iff] at none
  rcases none with zero | empty
  · omega
  · simp [empty] at left

/-- What a page leaves for later is past the key it ends with, and what it lists is not. -/
theorem page_some (distinct : (rows.map key).Nodup) {next : κ}
    (more : (page key limit after rows).2 = some next) :
    (∃ row ∈ (page key limit after rows).1, key row = next) ∧
      (∀ row ∈ (page key limit after rows).1, key row ≤ next) ∧
      ∀ row ∈ past key after rows, row ∈ (page key limit after rows).1 ∨ next < key row := by
  have sorted : (past key after rows).Pairwise fun first second => key first < key second :=
    past_sorted distinct
  have whole : past key after rows =
      (past key after rows).take limit ++ (past key after rows).drop limit :=
    (List.take_append_drop ..).symm
  rw [page_items]
  simp only [page, List.take_take, Nat.min_eq_left (Nat.le_succ limit)] at more
  split at more
  · obtain ⟨last, ends, rfl⟩ := Option.map_eq_some_iff.mp more
    obtain ⟨init, split⟩ := List.getLast?_eq_some_iff.mp ends
    rw [split]
    rw [whole, split, List.append_assoc] at sorted
    have ordered := List.pairwise_append.mp sorted
    have onward := List.pairwise_append.mp ordered.2.1
    refine ⟨⟨last, by simp, rfl⟩, ?_, ?_⟩
    · intro row member
      rcases List.mem_append.mp member with earlier | here
      · exact (ordered.2.2 row earlier last (by simp)).le
      · rw [List.mem_singleton.mp here]
    · intro row member
      rw [whole, split] at member
      rcases List.mem_append.mp member with listed | later
      · exact .inl listed
      · exact .inr (onward.2.2 last (by simp) row later)
  · cases more

/-- The page of rows made of others, each with the key of its own. -/
theorem page_map {β : Type} (make : β → α) (rows : List β) :
    page key limit after (rows.map make) =
      ((page (fun row => key (make row)) limit after rows).1.map make,
        (page (fun row => key (make row)) limit after rows).2) := by
  have same : past key after (rows.map make) =
      (past (fun row => key (make row)) after rows).map make := by
    rw [past, past, List.filter_map]
    symm
    apply List.map_insertionSort
    intro first _ second _
    exact Iff.rfl
  simp only [page, same, ← List.map_take, List.length_map, List.getLast?_map, Option.map_map]
  rfl

/-! ## All the pages -/

/-- The rows listed are past the key the pages start from, and each is past the one
before it. -/
theorem pages_sorted (distinct : ∀ rows ∈ snapshots, (rows.map key).Nodup) :
    (pages key limit after snapshots).1.Pairwise (fun first second => key first < key second) ∧
      ∀ row ∈ (pages key limit after snapshots).1, ∀ last, after = some last → last < key row := by
  induction snapshots generalizing after with
  | nil => simp [pages]
  | cons rows later ih =>
      have here := distinct rows List.mem_cons_self
      have sorted : (page key limit after rows).1.Pairwise
          fun first second => key first < key second := by
        rw [page_items]
        exact (past_sorted here).take
      have beyond : ∀ row ∈ (page key limit after rows).1,
          ∀ last, after = some last → last < key row := by
        intro row member
        rw [page_items] at member
        exact (mem_past.mp (List.mem_of_mem_take member)).2
      unfold pages
      cases listed : page key limit after rows with
      | mk items ended =>
          rw [listed] at sorted beyond
          cases ended with
          | none => exact ⟨sorted, beyond⟩
          | some next =>
              obtain ⟨⟨row, present, is⟩, upTo, _⟩ := page_some here (by rw [listed])
              rw [listed] at present upTo
              obtain ⟨onward, past⟩ := @ih (some next) fun rows member =>
                distinct rows (List.mem_cons_of_mem _ member)
              constructor
              · refine List.pairwise_append.mpr ⟨sorted, onward, ?_⟩
                intro first early second late
                exact (upTo first early).trans_lt (past second late next rfl)
              · intro found member last start
                rcases List.mem_append.mp member with early | late
                · exact beyond found early last start
                · subst is
                  exact (beyond row present last start).trans (past found late _ rfl)

/-- A key that has its row at every request, past the key the pages start from, is
listed, once the last page is. -/
theorem pages_complete (distinct : ∀ rows ∈ snapshots, (rows.map key).Nodup)
    (positive : 0 < limit) (finished : (pages key limit after snapshots).2 = true)
    {sought : κ} {fact : α → Prop}
    (there : ∀ rows ∈ snapshots, ∃ row ∈ rows, key row = sought ∧ fact row)
    (beyond : ∀ last, after = some last → last < sought) :
    ∃ row ∈ (pages key limit after snapshots).1, key row = sought ∧ fact row := by
  induction snapshots generalizing after with
  | nil => cases finished
  | cons rows later ih =>
      have here := distinct rows List.mem_cons_self
      obtain ⟨row, member, rfl, holds⟩ := there rows List.mem_cons_self
      have ahead : row ∈ past key after rows := mem_past.mpr ⟨member, beyond⟩
      unfold pages at finished ⊢
      cases listed : page key limit after rows with
      | mk items ended =>
          rw [listed] at finished
          cases ended with
          | none =>
              have all := @page_none _ _ _ key limit after rows (by rw [listed]) positive
              rw [listed] at all
              exact ⟨row, all ▸ ahead, rfl, holds⟩
          | some next =>
              obtain ⟨_, _, parts⟩ := page_some here (by rw [listed])
              rw [listed] at parts
              rcases parts row ahead with early | late
              · exact ⟨row, List.mem_append_left _ early, rfl, holds⟩
              · obtain ⟨found, present, is⟩ := @ih (some next)
                  (fun rows member => distinct rows (List.mem_cons_of_mem _ member)) finished
                  (fun rows member => there rows (List.mem_cons_of_mem _ member))
                  (fun last start => by cases start; exact late)
                exact ⟨found, List.mem_append_right _ present, is⟩

theorem pages_mem {row : α} (member : row ∈ (pages key limit after snapshots).1) :
    ∃ rows ∈ snapshots, row ∈ rows := by
  induction snapshots generalizing after with
  | nil => simp [pages] at member
  | cons rows later ih =>
      unfold pages at member
      cases listed : page key limit after rows with
      | mk items ended =>
          have early : row ∈ items → row ∈ rows := by
            intro present
            have is : (page key limit after rows).1 = items := by rw [listed]
            rw [← is, page_items] at present
            exact (mem_past.mp (List.mem_of_mem_take present)).1
          rw [listed] at member
          cases ended with
          | none => exact ⟨rows, List.mem_cons_self, early member⟩
          | some next =>
              rcases List.mem_append.mp member with present | late
              · exact ⟨rows, List.mem_cons_self, early present⟩
              · obtain ⟨found, there, is⟩ := ih late
                exact ⟨found, List.mem_cons_of_mem _ there, is⟩

/-- What has one key at every request is listed once. -/
theorem pages_once (distinct : ∀ rows ∈ snapshots, (rows.map key).Nodup) (positive : 0 < limit)
    (finished : (pages key limit after snapshots).2 = true) (sought : κ) {fact : α → Bool}
    (there : ∀ rows ∈ snapshots, ∃ row ∈ rows, key row = sought ∧ fact row = true)
    (only : ∀ rows ∈ snapshots, ∀ row ∈ rows, fact row = true → key row = sought)
    (beyond : ∀ last, after = some last → last < sought) :
    (pages key limit after snapshots).1.countP fact = 1 := by
  obtain ⟨row, listed, _, holds⟩ := pages_complete distinct positive finished there beyond
  have apart : ((pages key limit after snapshots).1.filter fact).Pairwise
      fun first second => key first < key second := (pages_sorted distinct).1.filter fact
  have same : ∀ found ∈ (pages key limit after snapshots).1.filter fact, key found = sought := by
    intro found member
    obtain ⟨member, holds⟩ := List.mem_filter.mp member
    obtain ⟨rows, given, is⟩ := pages_mem member
    exact only rows given found is holds
  have some_ : row ∈ (pages key limit after snapshots).1.filter fact :=
    List.mem_filter.mpr ⟨listed, holds⟩
  rw [List.countP_eq_length_filter]
  revert apart same some_
  generalize (pages key limit after snapshots).1.filter fact = found
  intro apart same some_
  cases found with
  | nil => cases some_
  | cons first rest =>
      cases rest with
      | nil => rfl
      | cons second rest =>
          have less := (List.pairwise_cons.mp apart).1 second List.mem_cons_self
          rw [same first List.mem_cons_self, same second (by simp)] at less
          exact absurd less (lt_irrefl _)

/-- A request that reads pages of rows, each starting from the text of a key, walks
through them. -/
theorem walk_pages {State Cursor Item Error : Type}
    {request : State → Option Cursor → Except Error (List Item × Option Cursor)}
    {listed : State → List α} {item : α → Item} {write : κ → Cursor} {issued : κ → Prop}
    {states : List State}
    (serves : ∀ state ∈ states, ∀ after : Option κ, (∀ last, after = some last → issued last) →
      request state (after.map write) = .ok ((page key limit after (listed state)).1.map item,
        (page key limit after (listed state)).2.map write))
    (issues : ∀ state ∈ states, ∀ row ∈ listed state, issued (key row))
    (distinct : ∀ state ∈ states, ((listed state).map key).Nodup)
    (start : ∀ last, after = some last → issued last) :
    walk request (after.map write) states =
      .ok ((pages key limit after (states.map listed)).1.map item,
        (pages key limit after (states.map listed)).2) := by
  induction states generalizing after with
  | nil => rfl
  | cons state later ih =>
      have answered := serves state List.mem_cons_self after start
      cases found : page key limit after (listed state) with
      | mk items ended =>
          cases ended with
          | none => simp only [walk, pages, List.map_cons, answered, found, Option.map_none]
          | some next =>
              obtain ⟨⟨row, present, is⟩, _⟩ :=
                page_some (distinct state List.mem_cons_self) (by rw [found])
              rw [page_items] at present
              have member := (mem_past.mp (List.mem_of_mem_take present)).1
              have onward := @ih (some next)
                (fun state member => serves state (List.mem_cons_of_mem _ member))
                (fun state member => issues state (List.mem_cons_of_mem _ member))
                (fun state member => distinct state (List.mem_cons_of_mem _ member))
                (fun last starts => by
                  cases starts
                  exact is ▸ issues state List.mem_cons_self row member)
              simp only [Option.map_some] at onward
              simp only [walk, pages, List.map_cons, answered, found, Option.map_some, onward,
                List.map_append]

end Pages

/-! ## Marks that are not the keys

A page may be resumed from a mark of its last row that lies past the row's key. Then the
rows between the two are lost.
-/

section Marks

variable {α κ : Type} [LinearOrder κ] (key mark : α → κ) (limit : Nat)

/-- A page and its last row, where there is more. -/
def markedPage (after : Option κ) (rows : List α) : List α × Option α :=
  let found := (past key after rows).take (limit + 1)
  (found.take limit, if limit < found.length then (found.take limit).getLast? else none)

/-- Wherever a page ends, its last row is good and its mark is before the row that is next. -/
def Resumes (good : α → Prop) (sorted : List α) : Prop :=
  ∀ count last next, 1 ≤ count → sorted[count * limit - 1]? = some last →
    sorted[count * limit]? = some next → good last ∧ mark last < key next

variable {key mark limit} {after : Option κ} {rows : List α} {good : α → Prop}

theorem past_filter (distinct : (rows.map key).Nodup) {from_ : κ}
    (onward : ∀ last, after = some last → last ≤ from_) :
    past key (some from_) rows =
      (past key after rows).filter fun row => decide (from_ < key row) := by
  have order : ∀ first second : α, first ∈ past key (some from_) rows →
      second ∈ (past key after rows).filter (fun row => decide (from_ < key row)) →
      key first < key second → key second < key first → first = second :=
    fun first second _ _ less more => absurd (less.trans more) (lt_irrefl _)
  apply List.Perm.eq_of_pairwise order (past_sorted distinct)
  · exact (past_sorted distinct).filter _
  · have left : (past key (some from_) rows).Perm
        (rows.filter fun row => decide (from_ < key row)) := List.perm_insertionSort _ _
    have right : ((past key after rows).filter fun row => decide (from_ < key row)).Perm
        ((rows.filter fun row => after.all fun last => decide (last < key row)).filter
          fun row => decide (from_ < key row)) := (List.perm_insertionSort _ _).filter _
    apply left.trans
    apply List.Perm.trans _ right.symm
    rw [List.filter_filter]
    have same : rows.filter (fun row => decide (from_ < key row)) =
        rows.filter fun row => decide (from_ < key row) &&
          after.all fun last => decide (last < key row) := by
      apply List.filter_congr
      intro row member
      by_cases beyond : from_ < key row
      · have passed : (after.all fun last => decide (last < key row)) = true := by
          rw [Option.all_eq_true]
          intro last is
          exact decide_eq_true ((onward last is).trans_lt beyond)
        rw [passed, Bool.and_true]
      · rw [decide_eq_false beyond, Bool.false_and]
    rw [same]

/-- What is left of sorted rows after a page that is resumed from its last row's mark. -/
theorem past_mark (distinct : (rows.map key).Nodup) {from_ : κ} {last : α}
    (ends : (past key after rows)[limit - 1]? = some last) (positive : 0 < limit)
    (coarse : key last ≤ from_) (onward : ∀ start, after = some start → start ≤ from_) :
    past key (some from_) rows =
      ((past key after rows).drop limit).filter fun row => decide (from_ < key row) := by
  rw [past_filter distinct onward]
  have sorted := @past_sorted _ _ _ key after rows distinct
  have whole : past key after rows =
      (past key after rows).take limit ++ (past key after rows).drop limit :=
    (List.take_append_drop ..).symm
  have before : ((past key after rows).take limit).filter (fun row => decide (from_ < key row)) =
      [] := by
    rw [List.filter_eq_nil_iff]
    intro row member beyond
    obtain ⟨index, inside, is⟩ := List.getElem_of_mem member
    rw [List.getElem_take] at is
    have most : index ≤ limit - 1 := by
      rw [List.length_take] at inside
      omega
    obtain ⟨there, at_⟩ := List.getElem?_eq_some_iff.mp ends
    have upTo : key row ≤ key last := by
      rcases Nat.lt_or_eq_of_le most with less | same
      · have earlier := List.pairwise_iff_getElem.mp sorted index (limit - 1) (by omega) there less
        rw [is, at_] at earlier
        exact earlier.le
      · subst same
        rw [← is, ← at_]
    exact absurd (of_decide_eq_true beyond) (not_lt.mpr (upTo.trans coarse))
  conv_lhs => rw [whole, List.filter_append, before, List.nil_append]

theorem resumes_short {sorted : List α} (short : sorted.length ≤ limit) :
    Resumes key mark limit good sorted := by
  intro count last next some_ _ there
  have inside := (List.getElem?_eq_some_iff.mp there).1
  have most : limit ≤ count * limit := Nat.le_mul_of_pos_left limit some_
  omega

/-- The first page's end, and the ends of the others. -/
theorem resumes_drop {sorted : List α} (positive : 0 < limit) {last next : α}
    (ends : sorted[limit - 1]? = some last) (follows : sorted[limit]? = some next) :
    Resumes key mark limit good sorted ↔
      (good last ∧ mark last < key next) ∧ Resumes key mark limit good (sorted.drop limit) := by
  constructor
  · intro resumes
    constructor
    · exact resumes 1 last next (Nat.le_refl 1) (by rw [Nat.one_mul]; exact ends)
        (by rw [Nat.one_mul]; exact follows)
    · intro count row other some_ at_ there
      have first : (count + 1) * limit = limit + count * limit := by
        rw [Nat.succ_mul, Nat.add_comm]
      have most : limit ≤ count * limit := Nat.le_mul_of_pos_left limit some_
      rw [List.getElem?_drop] at at_ there
      apply resumes (count + 1) row other (by omega)
      · rw [first, Nat.add_sub_assoc (by omega)]
        exact at_
      · rw [first]
        exact there
  · rintro ⟨here, later⟩ count row other some_ at_ there
    obtain ⟨before, rfl⟩ := Nat.exists_eq_add_of_le' some_
    rcases Nat.eq_zero_or_pos before with rfl | more
    · rw [Nat.zero_add, Nat.one_mul] at at_ there
      rw [ends, Option.some.injEq] at at_
      rw [follows, Option.some.injEq] at there
      exact at_ ▸ there ▸ here
    · have first : (before + 1) * limit = limit + before * limit := by
        rw [Nat.succ_mul, Nat.add_comm]
      have most : limit ≤ before * limit := Nat.le_mul_of_pos_left limit more
      apply later before row other more
      · rw [List.getElem?_drop, ← Nat.add_sub_assoc (by omega), ← first]
        exact at_
      · rw [List.getElem?_drop, ← first]
        exact there

theorem drop_least (distinct : (rows.map key).Nodup) {next row : α}
    (follows : (past key after rows)[limit]? = some next)
    (later : row ∈ (past key after rows).drop limit) : key next ≤ key row := by
  obtain ⟨index, inside, rfl⟩ := List.getElem_of_mem later
  obtain ⟨there, rfl⟩ := List.getElem?_eq_some_iff.mp follows
  rw [List.getElem_drop]
  rcases Nat.eq_zero_or_pos index with rfl | more
  · exact le_refl _
  · rw [List.length_drop] at inside
    exact (List.pairwise_iff_getElem.mp (past_sorted distinct) limit (limit + index) there
      (by omega) (by omega)).le

/-- A request that reads pages of rows which do not change, each resumed from a mark of
the last row of the one before: the walk lists every row exactly when each page resumes
before its next row. It never lists more than there are. -/
theorem walk_marked {State Cursor Item Error : Type}
    {request : State → Option Cursor → Except Error (List Item × Option Cursor)} {state : State}
    {item : α → Item} {write : α → Cursor} (distinct : (rows.map key).Nodup) (positive : 0 < limit)
    (coarse : ∀ row ∈ rows, key row ≤ mark row)
    (reads : ∀ row ∈ rows, good row → request state (some (write row)) =
      .ok ((markedPage key limit (some (mark row)) rows).1.map item,
        (markedPage key limit (some (mark row)) rows).2.map write))
    (refuses : ∀ row ∈ rows, ¬ good row → ∃ error, request state (some (write row)) = .error error)
    (cursor : Option Cursor) (here : request state cursor =
      .ok ((markedPage key limit after rows).1.map item,
        (markedPage key limit after rows).2.map write))
    (count : Nat) (enough : (past key after rows).length < count) :
    (∀ items finished, walk request cursor (List.replicate count state) = .ok (items, finished) →
      items.length ≤ (past key after rows).length) ∧
    (walk request cursor (List.replicate count state) = .ok ((past key after rows).map item, true) ↔
      Resumes key mark limit good (past key after rows)) := by
  induction count generalizing cursor after with
  | zero => exact absurd enough (Nat.not_lt_zero _)
  | succ count ih =>
      rw [List.replicate_succ, walk, here]
      have paged : (markedPage key limit after rows).1 = (past key after rows).take limit := by
        simp [markedPage, List.take_take]
      rcases Nat.lt_or_ge limit (past key after rows).length with more | short
      · -- There is a next page: the last row here and the first row there.
        have before : limit - 1 < (past key after rows).length := by omega
        obtain ⟨last, ends⟩ : ∃ last, (past key after rows)[limit - 1]? = some last :=
          ⟨_, List.getElem?_eq_getElem before⟩
        obtain ⟨next, follows⟩ : ∃ next, (past key after rows)[limit]? = some next :=
          ⟨_, List.getElem?_eq_getElem more⟩
        have ended : (markedPage key limit after rows).2 = some last := by
          have length : ((past key after rows).take (limit + 1)).length = limit + 1 := by
            rw [List.length_take]
            omega
          have inside : limit - 1 < limit := by omega
          simp only [markedPage, length, if_pos (Nat.lt_succ_self limit), List.take_take,
            Nat.min_eq_left (Nat.le_succ limit)]
          rw [List.getLast?_eq_getElem?, List.length_take, Nat.min_eq_left (Nat.le_of_lt more),
            List.getElem?_take_of_lt inside, ends]
        have listed : last ∈ past key after rows := List.mem_of_getElem? ends
        have member := (mem_past.mp listed).1
        have upTo := coarse last member
        have onward : ∀ start, after = some start → start ≤ mark last := fun start is =>
          ((mem_past.mp listed).2 start is).le.trans upTo
        have rest := past_mark distinct ends positive upTo onward
        rw [ended, Option.map_some, resumes_drop positive ends follows, paged]
        simp only
        by_cases fine : good last
        · -- The next request is served from the mark.
          have served := reads last member fine
          have fewer : (past key (some (mark last)) rows).length ≤
              ((past key after rows).drop limit).length := by
            rw [rest]
            exact List.length_filter_le _ _
          have dropped : ((past key after rows).drop limit).length =
              (past key after rows).length - limit := List.length_drop
          obtain ⟨bounded, complete⟩ := @ih (some (mark last)) (some (write last)) served (by omega)
          have taken : (((past key after rows).take limit).map item).length = limit := by
            rw [List.length_map, List.length_take]
            omega
          constructor
          · intro items finished
            split
            · nofun
            · rename_i found ended onwards
              rintro ⟨⟩
              have most := bounded found _ onwards
              rw [List.length_append, taken]
              omega
          · by_cases ahead : mark last < key next
            · -- The mark hides nothing: what is left is the rest of the rows.
              have all : ((past key after rows).drop limit).filter
                  (fun row => decide (mark last < key row)) = (past key after rows).drop limit := by
                rw [List.filter_eq_self]
                intro row later
                exact decide_eq_true (ahead.trans_le (drop_least distinct follows later))
              rw [rest, all] at complete
              rw [← complete]
              have split : (past key after rows).map item =
                  ((past key after rows).take limit).map item ++
                    ((past key after rows).drop limit).map item := by
                rw [← List.map_append, List.take_append_drop]
              rw [split]
              constructor
              · intro walked
                refine ⟨⟨fine, ahead⟩, ?_⟩
                revert walked
                split
                · nofun
                · rename_i found ended onwards
                  intro walked
                  obtain ⟨same, rfl⟩ := Prod.mk.injEq .. ▸ Except.ok.inj walked
                  rw [onwards, List.append_cancel_left same]
              · rintro ⟨-, walked⟩
                rw [walked]
            · -- The row that is next is lost, and no later one makes up for it.
              have lost : (past key (some (mark last)) rows).length <
                  ((past key after rows).drop limit).length := by
                rw [rest, List.length_filter_lt_length_iff_exists]
                refine ⟨next, List.mem_of_getElem? (i := 0) ?_, ?_⟩
                · rw [List.getElem?_drop, Nat.add_zero]
                  exact follows
                · rw [decide_eq_false ahead]
                  exact Bool.false_ne_true
              constructor
              · intro walked
                exfalso
                revert walked
                split
                · nofun
                · rename_i found ended onwards
                  intro walked
                  have most := bounded found _ onwards
                  have equal := congrArg List.length
                    (Prod.mk.injEq .. ▸ Except.ok.inj walked).1
                  rw [List.length_append, taken, List.length_map] at equal
                  omega
              · rintro ⟨⟨-, before⟩, -⟩
                exact absurd before ahead
        · obtain ⟨error, refused⟩ := refuses last member fine
          obtain ⟨count, rfl⟩ : ∃ before, count = before + 1 := ⟨count - 1, by omega⟩
          rw [List.replicate_succ, walk, refused]
          constructor
          · nofun
          · constructor
            · nofun
            · rintro ⟨⟨sound, -⟩, -⟩
              exact absurd sound fine
      · have ended : (markedPage key limit after rows).2 = none := by
          have length : ((past key after rows).take (limit + 1)).length ≤ limit := by
            rw [List.length_take]
            omega
          simp only [markedPage]
          rw [if_neg (Nat.not_lt.mpr length)]
        rw [ended, paged, List.take_of_length_le short]
        simp only [Option.map_none, Except.ok.injEq, Prod.mk.injEq, true_iff]
        refine ⟨?_, ?_⟩
        · rintro items finished ⟨rfl, -⟩
          rw [List.length_map]
        · simp [resumes_short short]

end Marks

end Foc.Library.Keyset
