import Foc.Library.Transaction
import Mathlib.Logic.Function.Basic
import Mathlib.Logic.Relation

/-!
Transactions one at a time. What a transaction writes is a list of moves, each
with the row it found. While the transaction holds those rows nobody else changes
them, so when it commits its moves still fit the committed rows: it is as if it
had run there alone, at once. A service whose programs all end so can be reasoned
about one whole transaction at a time. Nothing here knows what the rows are.
-/
namespace Foc.Library.Serial
open ReadCommitted Transaction

variable {Key : Type} {Row : Key → Type} [DecidableEq Key]

/-- The rows a statement sees. -/
abbrev View (Row : Key → Type) := (key : Key) → Option (Row key)

/-- A row written or locked: as it was found and as it was left. -/
structure Move (Row : Key → Type) where
  key : Key
  found : Option (Row key)
  left : Option (Row key)

def wrote (view : View Row) (moves : List (Move Row)) : View Row :=
  moves.foldl (fun view move => Function.update view move.key move.left) view

def added (own : Writes Row) (moves : List (Move Row)) : Writes Row :=
  moves.foldl (fun own move => own.insert move.key move.left) own

/-- Every move finds the row it names, after the moves before it. -/
def Fits : View Row → List (Move Row) → Prop
  | _, [] => True
  | view, move :: rest =>
      view move.key = move.found ∧ Fits (Function.update view move.key move.left) rest

omit [DecidableEq Key] in
/-- The rows some moves are about. -/
def touched (moves : List (Move Row)) (key : Key) : Prop := key ∈ moves.map Move.key

/-! ## Rows and moves -/

variable {view view' : View Row} {moves first second : List (Move Row)} {move : Move Row}
  {store store' : Store Row} {own : Writes Row} {key : Key}

theorem seen_insert (store : Store Row) (own : Writes Row) (key : Key) (value : Option (Row key)) :
    (overlay store (own.insert key value)).lookup =
      Function.update (overlay store own).lookup key value := by
  funext other
  rw [lookup_overlay]
  by_cases same : other = key
  · subst same
    simp
  · rw [AList.lookup_insert_ne same, Function.update_of_ne same, lookup_overlay]

/-- A transaction sees its own moves over what it saw before. -/
theorem seen_added (store : Store Row) (own : Writes Row) (moves : List (Move Row)) :
    (overlay store (added own moves)).lookup = wrote (overlay store own).lookup moves := by
  induction moves generalizing own with
  | nil => rfl
  | cons move rest ih =>
      simp only [added, wrote, List.foldl_cons] at ih ⊢
      rw [ih, seen_insert]

theorem seen (store : Store Row) (moves : List (Move Row)) :
    (overlay store (added ∅ moves)).lookup = wrote store.lookup moves := seen_added store ∅ moves

theorem seen_at (store : Store Row) (moves : List (Move Row)) (key : Key) :
    (overlay store (added ∅ moves)).lookup key = wrote store.lookup moves key :=
  congrFun (seen store moves) key

@[simp] theorem wrote_nil : wrote view [] = view := rfl

@[simp] theorem wrote_cons :
    wrote view (move :: moves) = wrote (Function.update view move.key move.left) moves := rfl

theorem wrote_append : wrote view (first ++ second) = wrote (wrote view first) second :=
  List.foldl_append

theorem added_append : added own (first ++ second) = added (added own first) second :=
  List.foldl_append

theorem added_snoc : added own (moves ++ [move]) = (added own moves).insert move.key move.left :=
  added_append

theorem fits_append : Fits view (first ++ second) ↔ Fits view first ∧ Fits (wrote view first) second := by
  induction first generalizing view with
  | nil => simp [Fits]
  | cons move rest ih => simp only [List.cons_append, Fits, ih, wrote_cons, and_assoc]

theorem fits_snoc :
    Fits view (moves ++ [move]) ↔ Fits view moves ∧ wrote view moves move.key = move.found := by
  simp [fits_append, Fits]

omit [DecidableEq Key] in
@[simp] theorem touched_append : touched (first ++ second) key ↔ touched first key ∨ touched second key := by
  simp [touched]

omit [DecidableEq Key] in
@[simp] theorem touched_cons : touched (move :: moves) key ↔ key = move.key ∨ touched moves key := by
  simp [touched]

omit [DecidableEq Key] in
@[simp] theorem touched_nil : ¬ touched ([] : List (Move Row)) key := by simp [touched]

theorem wrote_other (other : ¬ touched moves key) : wrote view moves key = view key := by
  induction moves generalizing view with
  | nil => rfl
  | cons move rest ih =>
      rw [touched_cons, not_or] at other
      rw [wrote_cons, ih other.2, Function.update_of_ne other.1]

theorem held_insert {other : Key} {value : Option (Row key)} :
    Held (own.insert key value) other ↔ other = key ∨ Held own other := by
  unfold Held
  by_cases same : other = key
  · subst same
    simp
  · simp [AList.lookup_insert_ne same, same]

/-- A transaction holds the rows it moved, and no others. -/
theorem held_added : Held (added own moves) key ↔ touched moves key ∨ Held own key := by
  induction moves generalizing own with
  | nil => simp [added]
  | cons move rest ih =>
      simp only [added, List.foldl_cons] at ih ⊢
      rw [ih, held_insert, touched_cons]
      tauto

theorem held : Held (added (∅ : Writes Row) moves) key ↔ touched moves key := by
  rw [held_added]
  simp [Held]

/-- Moves fit wherever the rows they are about are the same. -/
theorem fits_same (fits : Fits view moves) (same : ∀ key, touched moves key → view' key = view key) :
    Fits view' moves := by
  induction moves generalizing view view' with
  | nil => trivial
  | cons move rest ih =>
      refine ⟨(same _ (by simp)).trans fits.1, ih fits.2 fun key later => ?_⟩
      by_cases here : key = move.key
      · subst here
        simp
      · rw [Function.update_of_ne here, Function.update_of_ne here]
        exact same key (by simp [later])

/-- New rows are seen where nothing was. -/
theorem wrote_new {row : Row key} (fits : Fits view moves)
    (new : ∀ move ∈ moves, move.found = none ∧ move.left ≠ none) :
    wrote view moves key = some row ↔ view key = some row ∨ ⟨key, none, some row⟩ ∈ moves := by
  induction moves generalizing view with
  | nil => simp
  | cons move rest ih =>
      obtain ⟨name, found, left⟩ := move
      have absent : found = none := (new _ List.mem_cons_self).1
      subst absent
      rw [wrote_cons, ih fits.2 fun move member => new move (List.mem_cons_of_mem _ member)]
      have here : view name = none := fits.1
      by_cases same : key = name
      · subst same
        simp [here, eq_comm]
      · rw [Function.update_of_ne same]
        simp [same]

theorem fits_new (fits : Fits view moves)
    (new : ∀ move ∈ moves, move.found = none ∧ move.left ≠ none) (member : move ∈ moves) :
    view move.key = none := by
  induction moves generalizing view with
  | nil => cases member
  | cons first rest ih =>
      rcases List.mem_cons.mp member with rfl | later
      · exact fits.1.trans (new _ List.mem_cons_self).1
      · have absent := ih fits.2 (fun other present => new other (List.mem_cons_of_mem _ present)) later
        by_cases same : move.key = first.key
        · obtain ⟨name, found, left⟩ := move
          cases same
          simp only [Function.update_self] at absent
          exact absurd absent (new first List.mem_cons_self).2
        · rwa [Function.update_of_ne same] at absent

def keepMove (row : Sigma Row) : Move Row := ⟨row.1, some row.2, some row.2⟩

/-- Locking rows changes nothing to see. -/
theorem wrote_keep {rows : List (Sigma Row)} (fits : Fits view (rows.map keepMove)) :
    wrote view (rows.map keepMove) = view := by
  induction rows with
  | nil => rfl
  | cons row rest ih =>
      have same : Function.update view row.1 (some row.2) = view :=
        Function.update_eq_self_iff.mpr fits.1.symm
      have after := fits.2
      simp only [List.map_cons, wrote_cons, keepMove] at after ⊢
      rw [same] at after ⊢
      exact ih after

/-- Rows locked as they are, are as they were locked. -/
theorem keeps_found {rows : List (Sigma Row)} (fits : Fits view (rows.map keepMove)) :
    ∀ row ∈ rows, view row.1 = some row.2 := by
  induction rows with
  | nil => simp
  | cons first rest ih =>
      have same : Function.update view first.1 (some first.2) = view :=
        Function.update_eq_self_iff.mpr fits.1.symm
      have after := fits.2
      simp only [keepMove] at after
      rw [same] at after
      exact List.forall_mem_cons.mpr ⟨fits.1, ih after⟩

theorem wrote_kept {rows : List (Sigma Row)} (distinct : (rows.map Sigma.fst).Nodup)
    {row : Sigma Row} (member : row ∈ rows) : wrote view (rows.map keepMove) row.1 = some row.2 := by
  induction rows generalizing view with
  | nil => cases member
  | cons first rest ih =>
      rw [List.map_cons, List.nodup_cons] at distinct
      rw [List.map_cons, wrote_cons]
      rcases List.mem_cons.mp member with rfl | later
      · have other : ¬ touched (rest.map keepMove) row.1 := by
          simpa [touched, keepMove] using distinct.1
        rw [wrote_other other]
        exact Function.update_self ..
      · exact ih distinct.2 later

/-! ## Turns -/

section Turns

variable {Ask : Type} {Answer : Ask → Type} {Error Call α Env Stimulus : Type}

/-- What is known of each call: where it starts from, when it asks the world
outside, and how it ends, seen at once on the rows it commits to. -/
structure Contract (Row : Key → Type) (Ask Error Call α Env : Type) where
  initial : View Row → Env → Prop
  asks : Call → Ask → View Row → Env → Prop
  outcome : Call → Except Error α → View Row → Env → List (Move Row) → Prop

variable (service : Service Row Answer Error Call α Env Stimulus)
  (contract : Contract Row Ask Error Call α Env)

/-- One whole transaction, or one event outside all of them. The rows kept are
not touched. -/
inductive Turn (kept : Key → Prop) : View Row × Env → View Row × Env → Prop where
  | commit (call : Call) (result : α) (moves : List (Move Row)) (view : View Row) (env : Env)
      (fits : Fits view moves) (ended : contract.outcome call (.ok result) view env moves)
      (apart : ∀ key, touched moves key → ¬ kept key) :
      Turn kept (view, env) (wrote view moves, service.finished env call result)
  | refuse (call : Call) (error : Error) (view : View Row) (env : Env)
      (ended : contract.outcome call (.error error) view env []) :
      Turn kept (view, env) (view, service.refused env call error)
  | answer (call : Call) (ask : Ask) (value : Answer ask) (view : View Row) (env after : Env)
      (asked : contract.asks call ask view env)
      (responded : service.respond env call ask value = some after) :
      Turn kept (view, env) (view, after)
  | stimulus (value : Stimulus) (view : View Row) (env after : Env)
      (accepted : service.stimulus env value = some after) : Turn kept (view, env) (view, after)

abbrev Turns (kept : Key → Prop) : View Row × Env → View Row × Env → Prop :=
  Relation.ReflTransGen (Turn service contract kept)

/-- The states that turns lead to. -/
def Reached (state : View Row × Env) : Prop :=
  ∃ view env, contract.initial view env ∧
    Turns service contract (fun _ => False) (view, env) state

variable {service contract}

theorem turn_mono {kept fewer : Key → Prop} (weaker : ∀ key, fewer key → kept key)
    {before after : View Row × Env} (turn : Turn service contract kept before after) :
    Turn service contract fewer before after := by
  cases turn with
  | commit call result moves view env fits ended apart =>
      exact .commit call result moves view env fits ended fun key touches few =>
        apart key touches (weaker key few)
  | refuse call error view env ended => exact .refuse call error view env ended
  | answer call ask value view env after asked responded =>
      exact .answer call ask value view env after asked responded
  | stimulus value view env after accepted => exact .stimulus value view env after accepted

theorem turns_mono {kept fewer : Key → Prop} (weaker : ∀ key, fewer key → kept key)
    {before after : View Row × Env} (turns : Turns service contract kept before after) :
    Turns service contract fewer before after :=
  Relation.ReflTransGen.mono (fun _ _ => turn_mono weaker) _ _ turns

theorem turn_same {kept : Key → Prop} {before after : View Row × Env}
    (turn : Turn service contract kept before after) {key : Key} (held : kept key) :
    after.1 key = before.1 key := by
  cases turn with
  | commit call result moves view env fits ended apart =>
      exact wrote_other fun touches => apart key touches held
  | refuse => rfl
  | answer => rfl
  | stimulus => rfl

/-- Turns do not touch the rows kept from them. -/
theorem turns_same {kept : Key → Prop} {before after : View Row × Env}
    (turns : Turns service contract kept before after) {key : Key} (held : kept key) :
    after.1 key = before.1 key := by
  induction turns with
  | refl => rfl
  | tail _ turn ih => exact (turn_same turn held).trans ih

/-- What every turn keeps, any number of turns keep. -/
theorem turns_keep {kept : Key → Prop} {invariant : View Row × Env → Prop}
    {before after : View Row × Env}
    (step : ∀ before after, Turn service contract kept before after → invariant before →
      invariant after)
    (turns : Turns service contract kept before after) (initially : invariant before) :
    invariant after := by
  induction turns with
  | refl => exact initially
  | tail _ turn ih => exact step _ _ turn ih

theorem reached_turns {kept : Key → Prop} {before after : View Row × Env}
    (reached : Reached service contract before) (turns : Turns service contract kept before after) :
    Reached service contract after := by
  obtain ⟨view, env, start, earlier⟩ := reached
  exact ⟨view, env, start, earlier.trans (turns_mono (fun _ => False.elim) turns)⟩

/-- What holds at first and is kept by every turn holds in every state reached. -/
theorem reached_keeps {invariant : View Row × Env → Prop} {state : View Row × Env}
    (initially : ∀ view env, contract.initial view env → invariant (view, env))
    (step : ∀ before after, Reached service contract before →
      Turn service contract (fun _ => False) before after → invariant before → invariant after)
    (reached : Reached service contract state) : invariant state := by
  obtain ⟨view, env, start, turns⟩ := reached
  induction turns with
  | refl => exact initially view env start
  | tail earlier turn ih => exact step _ _ ⟨view, env, start, earlier⟩ turn ih

variable (service contract)

def serialProtocol : Protocol Row Env where
  holds := fun store env => Reached service contract (store.lookup, env)
  change := fun kept store env store' env' =>
    Turns service contract kept (store.lookup, env) (store'.lookup, env')
  refl := fun _ _ _ => .refl
  trans := fun before after => before.trans after

/-- How a call may end: the moves it made, and what its outcome says of them. -/
def serialPost (call : Call) : Except Error α → Assertion Row Env
  | .ok result, store, env, own => ∃ moves, own = added ∅ moves ∧ Fits store.lookup moves ∧
      contract.outcome call (.ok result) store.lookup env moves
  | .error error, store, env, _ => contract.outcome call (.error error) store.lookup env []

/-- From here on the program of a call, which has made these moves, ends as its
outcome says. -/
def Ends (call : Call) (moves : List (Move Row)) (program : Program Row Answer Error α)
    (store : Store Row) (env : Env) : Prop :=
  Reached service contract (store.lookup, env) → Fits store.lookup moves →
    ensures (serialProtocol service contract) (service.reply call) (serialPost contract call)
      program store env (added ∅ moves)

/-- What may have happened while a transaction that has made these moves waited. -/
structure Since (moves : List (Move Row)) (store : Store Row) (env : Env)
    (store' : Store Row) (env' : Env) : Prop where
  reached : Reached service contract (store'.lookup, env')
  turns : Turns service contract (touched moves) (store.lookup, env) (store'.lookup, env')
  fits : Fits store'.lookup moves

/-- Wherever the call throws, its outcome allows it. -/
def Fails (call : Call) (moves : List (Move Row)) (store : Store Row) (env : Env) : Prop :=
  ∀ error store' env', Since service contract moves store env store' env' →
    contract.outcome call (.error error) store'.lookup env' []

variable {service contract}

/-- It is enough that each program ends as its outcome says. -/
theorem serial_sound
    (calls : ∀ store env call, Reached service contract (store.lookup, env) →
      service.starts env call = true → Ends service contract call [] (service.main call) store env) :
    service.Sound (serialProtocol service contract) (serialPost contract) := by
  constructor
  · intro store env call reached starts
    exact calls store env call reached starts reached trivial
  · intro call result store env own reached ended
    cases result with
    | error error =>
        have turn : ∀ kept, Turn service contract kept (store.lookup, env)
            (store.lookup, service.refused env call error) :=
          fun kept => .refuse call error store.lookup env ended
        exact ⟨reached_turns reached (.single (turn fun _ => False)), fun kept => .single (turn kept)⟩
    | ok result =>
        obtain ⟨moves, rfl, fits, ended⟩ := ended
        have turn : ∀ kept, (∀ key, Held (added ∅ moves) key → ¬ kept key) →
            Turn service contract kept (store.lookup, env)
              ((overlay store (added ∅ moves)).lookup, service.finished env call result) := by
          intro kept apart
          rw [seen]
          exact .commit call result moves _ env fits ended fun key touches => apart key (held.mpr touches)
        exact ⟨reached_turns reached (.single (turn (fun _ => False) fun _ _ => not_false)),
          fun kept apart => .single (turn kept apart)⟩
  · intro store env value after reached accepted
    have turn : ∀ kept, Turn service contract kept (store.lookup, env) (store.lookup, after) :=
      fun kept => .stimulus value store.lookup env after accepted
    exact ⟨reached_turns reached (.single (turn fun _ => False)), fun kept => .single (turn kept)⟩

/-! ## Statements -/

section Rules

variable {call : Call} {moves more : List (Move Row)} {store store' : Store Row} {env env' : Env}
  {γ : Type}

theorem since_refl (reached : Reached service contract (store.lookup, env))
    (fits : Fits store.lookup moves) : Since service contract moves store env store env :=
  ⟨reached, .refl, fits⟩

theorem since_trans {store'' : Store Row} {env'' : Env}
    (before : Since service contract moves store env store' env')
    (after : Since service contract moves store' env' store'' env'') :
    Since service contract moves store env store'' env'' :=
  ⟨after.reached, before.turns.trans after.turns, after.fits⟩

/-- Fewer rows held keep less from the others. -/
theorem since_narrow (since : Since service contract (moves ++ more) store env store' env') :
    Since service contract moves store env store' env' :=
  ⟨since.reached, turns_mono (fun _ touches => touched_append.mpr (.inl touches)) since.turns,
    (fits_append.mp since.fits).1⟩

theorem since_any (since : Since service contract moves store env store' env') :
    Since service contract [] store env store' env' :=
  ⟨since.reached, turns_mono (fun _ none => absurd none touched_nil) since.turns, trivial⟩

theorem rely_since (fits : Fits store.lookup moves)
    (rely : (serialProtocol service contract).Rely (added ∅ moves) store env store' env') :
    Since service contract moves store env store' env' := by
  refine ⟨rely.holds, turns_mono (fun _ => held.mpr) rely.change, ?_⟩
  exact fits_same fits fun key touches => rely.same key (held.mpr touches)

/-- A transaction sees its rows as it left them, whatever others commit. -/
theorem since_seen (since : Since service contract moves store env store' env') {key : Key}
    (touches : touched moves key) : store'.lookup key = store.lookup key :=
  turns_same since.turns touches

theorem fails_later (fails : Fails service contract call moves store env)
    (since : Since service contract moves store env store' env') :
    Fails service contract call (moves ++ more) store' env' :=
  fun error later laterEnv next => fails error later laterEnv (since_trans since (since_narrow next))

theorem fails_since (fails : Fails service contract call moves store env)
    (since : Since service contract moves store env store' env') :
    Fails service contract call moves store' env' :=
  fun error later laterEnv next => fails error later laterEnv (since_trans since next)

theorem ends_done {result : α}
    (ended : ∀ store' env', Since service contract moves store env store' env' →
      contract.outcome call (.ok result) store'.lookup env' moves) :
    Ends service contract call moves (.done result) store env := by
  intro _ fits store' env' rely
  have since := rely_since fits rely
  exact ⟨moves, rfl, since.fits, ended store' env' since⟩

theorem ends_fail {error : Error} (fails : Fails service contract call moves store env) :
    Ends service contract call moves (.fail error) store env := by
  intro _ fits store' env' rely
  exact fails error store' env' (rely_since fits rely)

theorem ends_select {next : Store Row → Program Row Answer Error α}
    (goes : ∀ store' env', Since service contract moves store env store' env' →
      Ends service contract call moves (next (overlay store' (added ∅ moves))) store' env') :
    Ends service contract call moves (.select next) store env := by
  intro _ fits store' env' rely
  have since := rely_since fits rely
  exact goes store' env' since since.reached since.fits

theorem ends_insert {key : Key} {row : Row key} {next : Bool → Program Row Answer Error α}
    (fresh : ∀ store' env', Since service contract moves store env store' env' →
      wrote store'.lookup moves key = none →
      Ends service contract call (moves ++ [⟨key, none, some row⟩]) (next true) store' env')
    (conflict : ∀ store' env' old, Since service contract moves store env store' env' →
      wrote store'.lookup moves key = some old →
      Ends service contract call moves (next false) store' env') :
    Ends service contract call moves (.insert key row next) store env := by
  intro _ fits store' env' rely
  have since := rely_since fits rely
  rw [seen_at]
  constructor
  · intro absent
    have known := fresh store' env' since absent
    rw [Ends, added_snoc] at known
    exact known since.reached (fits_snoc.mpr ⟨since.fits, absent⟩)
  · intro old present
    exact conflict store' env' old since present since.reached since.fits

theorem ends_await {ask : Ask} {next : Answer ask → Program Row Answer Error α}
    (asked : ∀ store' env', Since service contract moves store env store' env' →
      contract.asks call ask store'.lookup env')
    (goes : ∀ store' env' value after, Since service contract moves store env store' env' →
      service.respond env' call ask value = some after →
      Since service contract moves store' env' store' after →
      Ends service contract call moves (next value) store' after) :
    Ends service contract call moves (.await ask next) store env := by
  intro _ fits store' env' rely value after responded
  have since := rely_since fits rely
  have turn : ∀ kept, Turn service contract kept (store'.lookup, env') (store'.lookup, after) :=
    fun kept => .answer call ask value store'.lookup env' after (asked store' env' since) responded
  have here : Since service contract moves store' env' store' after :=
    ⟨reached_turns since.reached (.single (turn fun _ => False)), .single (turn _), since.fits⟩
  exact ⟨here.reached, fun kept => .single (turn kept),
    goes store' env' value after since responded here here.reached since.fits⟩

theorem ends_lock {target : Key} {skipLocked : Bool} {wanted : Row target → Bool}
    {write : Row target → Option (Row target)}
    {rest : Option (Row target) → Program Row Answer Error α}
    (missing : ∀ store' env', Since service contract moves store env store' env' →
      skipLocked = true ∨
        (∀ row, wrote store'.lookup moves target = some row → wanted row = false) →
      Ends service contract call moves (rest none) store' env')
    (locked : ∀ store' env' row, Since service contract moves store env store' env' →
      wrote store'.lookup moves target = some row → wanted row = true →
      Ends service contract call (moves ++ [⟨target, some row, write row⟩]) (rest (some row))
        store' env') :
    Ends service contract call moves ((lockRow target skipLocked wanted write).bind rest)
      store env := by
  intro _ fits
  apply ensures_lock
  · intro store' env' rely cause
    simp only [seen_at] at cause
    have since := rely_since fits rely
    exact missing store' env' since cause since.reached since.fits
  · intro store' env' row rely found wants
    rw [seen_at] at found
    have since := rely_since fits rely
    have known := locked store' env' row since found wants
    rw [Ends, added_snoc] at known
    exact known since.reached (fits_snoc.mpr ⟨since.fits, found⟩)

end Rules

/-! ## Locking every row of a kind -/

section LockAll

variable {call : Call} {moves : List (Move Row)} {store : Store Row} {env : Env}

def lockingAll (wanted : (key : Key) → Row key → Bool) : Locking Row :=
  { wanted := fun _ => wanted
    write := fun _ row => some row
    skipLocked := false
    limit := none }

variable (service contract) in
/-- What is known while the rows seen at first are locked one by one: a row that
was to be locked was found to be no such row any more, or it is locked. -/
structure LockedSome (wanted : (key : Key) → Row key → Bool) (moves : List (Move Row))
    (store₀ : Store Row) (env₀ : Env) (remaining : List Key) (hits : List (Sigma Row))
    (store : Store Row) (env : Env) : Prop where
  since : Since service contract moves store₀ env₀ store env
  fits : Fits store.lookup (moves ++ hits.map keepMove)
  matched : ∀ hit ∈ hits, wanted hit.1 hit.2 = true
  distinct : (hits.map Sigma.fst).Nodup
  apart : ∀ key ∈ remaining, key ∉ hits.map Sigma.fst
  covered : ∀ key row, wrote store₀.lookup moves key = some row → wanted key row = true →
    key ∈ remaining ∨ key ∈ hits.map Sigma.fst ∨
      ∃ store₁ env₁, Since service contract moves store₀ env₀ store₁ env₁ ∧
        Since service contract moves store₁ env₁ store env ∧
        ∀ row, wrote store₁.lookup moves key = some row → wanted key row = false

theorem locked_rely {wanted : (key : Key) → Row key → Bool} {store₀ store store' : Store Row}
    {env₀ env env' : Env} {remaining : List Key} {hits : List (Sigma Row)}
    (locked : LockedSome service contract wanted moves store₀ env₀ remaining hits store env)
    (rely : (serialProtocol service contract).Rely (added ∅ (moves ++ hits.map keepMove))
      store env store' env') :
    LockedSome service contract wanted moves store₀ env₀ remaining hits store' env' := by
  have since := rely_since locked.fits rely
  refine ⟨since_trans locked.since (since_narrow since), since.fits, locked.matched,
    locked.distinct, locked.apart, fun key row seen wants => ?_⟩
  rcases locked.covered key row seen wants with left | hit | ⟨store₁, env₁, before, after, unwanted⟩
  · exact .inl left
  · exact .inr (.inl hit)
  · exact .inr (.inr ⟨store₁, env₁, before, since_trans after (since_narrow since), unwanted⟩)

theorem ends_lock_all {wanted : (key : Key) → Row key → Bool}
    {next : List (Sigma Row) → Program Row Answer Error α}
    (goes : ∀ store₀ env₀ hits store' env', Since service contract moves store env store₀ env₀ →
      LockedSome service contract wanted moves store₀ env₀ [] hits store' env' →
      Ends service contract call (moves ++ hits.map keepMove) (next hits) store' env') :
    Ends service contract call moves (.scan (lockingAll wanted) fun _ hits => next hits)
      store env := by
  intro _ fits
  refine ⟨fun progress store₁ env₁ own => ∃ store₀ env₀,
    own = added ∅ (moves ++ progress.hits.map keepMove) ∧
      Since service contract moves store env store₀ env₀ ∧
      LockedSome service contract wanted moves store₀ env₀ progress.remaining progress.hits
        store₁ env₁, ⟨?_, ?_, ?_⟩, ?_, ?_⟩
  · rintro progress first firstEnv own second secondEnv ⟨store₀, env₀, rfl, since, locked⟩ rely
    exact ⟨store₀, env₀, rfl, since, locked_rely locked rely⟩
  · rintro progress first firstEnv own key ⟨store₀, env₀, rfl, since, locked⟩ member cause
    refine ⟨store₀, env₀, rfl, since, locked.since, locked.fits, locked.matched, locked.distinct,
      fun other present => locked.apart other (mem_drop.mp present).1, fun other row seen wants => ?_⟩
    by_cases same : other = key
    · subst same
      -- The row is not wanted as it is now.
      refine .inr (.inr ⟨first, firstEnv, locked.since, since_refl locked.since.reached
        locked.since.fits, fun row present => ?_⟩)
      have fresh : wrote first.lookup (moves ++ progress.hits.map keepMove) =
          wrote first.lookup moves := by
        rw [wrote_append, wrote_keep (fits_append.mp locked.fits).2]
      rw [← fresh, ← seen_at] at present
      rcases cause with skips | unwanted
      · cases skips
      · exact Bool.eq_false_iff.mpr (unwanted row present)
    · rcases locked.covered other row seen wants with left | rest
      · exact .inl (mem_drop.mpr ⟨left, same⟩)
      · exact .inr rest
  · rintro progress first firstEnv own key row ⟨store₀, env₀, rfl, since, locked⟩ member found wants
    rw [seen_at] at found
    have fits : Fits first.lookup ((moves ++ progress.hits.map keepMove) ++ [keepMove ⟨key, row⟩]) :=
      fits_snoc.mpr ⟨locked.fits, found⟩
    have taken : moves ++ (progress.take key row).hits.map keepMove =
        (moves ++ progress.hits.map keepMove) ++ [keepMove ⟨key, row⟩] := by
      simp [Progress.take]
    refine ⟨store₀, env₀, ?_, since, locked.since, ?_, ?_, ?_, ?_, ?_⟩
    · rw [taken, added_snoc]
      rfl
    · rw [taken]
      exact fits
    · intro hit present
      rcases List.mem_append.mp present with earlier | here
      · exact locked.matched hit earlier
      · cases List.mem_singleton.mp here
        exact wants
    · simp only [Progress.take, List.map_append, List.map_cons, List.map_nil]
      refine List.nodup_append.mpr ⟨locked.distinct, by simp, ?_⟩
      intro first present second here same
      cases List.mem_singleton.mp here
      exact locked.apart _ member (same ▸ present)
    · intro other present hit
      have parts : other ∈ progress.remaining ∧ other ≠ key := mem_drop.mp present
      simp only [Progress.take, List.map_append, List.map_cons, List.map_nil, List.mem_append,
        List.mem_singleton] at hit
      rcases hit with earlier | here
      · exact locked.apart other parts.1 earlier
      · exact parts.2 here
    · intro other row seen wants
      by_cases same : other = key
      · subst same
        exact .inr (.inl (by simp [Progress.take]))
      · rcases locked.covered other row seen wants with left | hit | rest
        · exact .inl (mem_drop.mpr ⟨left, same⟩)
        · refine .inr (.inl ?_)
          simp only [Progress.take, List.map_append, List.mem_append]
          exact .inl hit
        · exact .inr (.inr rest)
  · intro first firstEnv rely
    have since := rely_since fits rely
    refine ⟨first, firstEnv, by simp [Locking.begin], since,
      since_refl since.reached since.fits, by simpa [Locking.begin] using since.fits,
      by simp [Locking.begin], by simp [Locking.begin], by simp [Locking.begin], ?_⟩
    intro key row present wants
    rw [← seen_at] at present
    refine .inl (List.mem_map.mpr ⟨⟨key, row⟩, List.mem_filter.mpr ⟨?_, wants⟩, rfl⟩)
    exact AList.mem_lookup_iff.mp present
  · rintro progress first firstEnv own ⟨store₀, env₀, rfl, since, locked⟩ finished
    have empty : progress.remaining = [] := by simpa [Locking.full, lockingAll] using finished
    rw [empty] at locked
    exact goes store₀ env₀ progress.hits first firstEnv since locked locked.since.reached locked.fits

end LockAll

/-! ## Whole runs -/

section Runs

variable [DecidableEq Ask]
  {allowed : World Row (Session Row Answer Error Call α) Env →
    Event Key (Session Row Answer Error Call α) (Sigma Answer) Stimulus → Prop}
  {committed : Store Row} {env : Env} {world : World Row (Session Row Answer Error Call α) Env}

theorem serial_hold
    (sound : service.Sound (serialProtocol service contract) (serialPost contract))
    (start : contract.initial committed.lookup env)
    (run : Run service.machine allowed (idle committed env) world) :
    (service.assertions (serialProtocol service contract) (serialPost contract)).Hold world :=
  service_run sound (hold_idle _ ⟨_, _, start, .refl⟩) run

/-- Whatever its transactions do together, a run leads where some transactions
lead one at a time. -/
theorem serial_run
    (sound : service.Sound (serialProtocol service contract) (serialPost contract))
    (start : contract.initial committed.lookup env)
    (run : Run service.machine allowed (idle committed env) world) :
    Turns service contract (fun _ => False) (committed.lookup, env)
      (world.committed.lookup, world.env) :=
  run_change sound (hold_idle _ ⟨_, _, start, .refl⟩) run

theorem serial_reached
    (sound : service.Sound (serialProtocol service contract) (serialPost contract))
    (start : contract.initial committed.lookup env)
    (run : Run service.machine allowed (idle committed env) world) :
    Reached service contract (world.committed.lookup, world.env) :=
  ⟨_, _, start, serial_run sound start run⟩

/-- A transaction that is ready to commit has made the moves of its outcome. -/
theorem serial_commit
    (sound : service.Sound (serialProtocol service contract) (serialPost contract))
    (start : contract.initial committed.lookup env)
    (run : Run service.machine allowed (idle committed env) world) {id : Nat}
    {tx : Tx Row (Session Row Answer Error Call α)} {result : α}
    (found : world.active.lookup id = some tx) (current : service.current tx.pc = .done result) :
    ∃ moves, tx.own = added ∅ moves ∧ Fits world.committed.lookup moves ∧
      contract.outcome tx.pc.call (.ok result) world.committed.lookup world.env moves :=
  underway_commit (serial_hold sound start run) found current

theorem serial_refusal
    (sound : service.Sound (serialProtocol service contract) (serialPost contract))
    (start : contract.initial committed.lookup env)
    (run : Run service.machine allowed (idle committed env) world) {id : Nat}
    {tx : Tx Row (Session Row Answer Error Call α)} {error : Error}
    (found : world.active.lookup id = some tx) (current : service.current tx.pc = .fail error) :
    contract.outcome tx.pc.call (.error error) world.committed.lookup world.env [] :=
  underway_fail (serial_hold sound start run) found current

end Runs

end Turns

end Foc.Library.Serial
