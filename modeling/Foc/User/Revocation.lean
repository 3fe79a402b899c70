import Foc.User.Sessions

/-!
Revocations against concurrent refreshes. Each place of the three programs has
an assertion about what its transaction has written, kept by its own steps and
by what others commit. A revoking statement waits for the rows of its snapshot
only: it must not find one of them rotated since.
-/
namespace Foc.Sessions
open Library.ReadCommitted

abbrev Own := Writes RowOf

def ownSession (own : Own) (id : SessionId) : Option (Option Session) :=
  own.lookup (Key.session id)

theorem own_insert (own : Own) (id : SessionId) (value : Option Session) :
    ownSession (own.insert (Key.session id) value) id = some value :=
  AList.lookup_insert own

theorem own_insert_other {own : Own} {id : SessionId} (key : Key) (value : Option (RowOf key))
    (different : Key.session id ≠ key) :
    ownSession (own.insert key value) id = ownSession own id :=
  AList.lookup_insert_ne different

theorem session_overlay (rows : Rows) (own : Own) (id : SessionId) :
    sessionRow (overlay rows own) id = (ownSession own id).getD (sessionRow rows id) :=
  lookup_overlay rows own (Key.session id)

theorem session_overlay_of_own {rows : Rows} {own : Own} {id : SessionId}
    {value : Option Session} (written : ownSession own id = some value) :
    sessionRow (overlay rows own) id = value := by
  rw [session_overlay, written, Option.getD_some]

theorem session_overlay_of_free {rows : Rows} {own : Own} {id : SessionId}
    (free : ownSession own id = none) :
    sessionRow (overlay rows own) id = sessionRow rows id := by
  rw [session_overlay, free, Option.getD_none]

/-! ## Assertions -/

/-- The transaction has locked sessions at most. -/
def Untouched (rows : Rows) (own : Own) : Prop :=
  ∀ id value, ownSession own id = some value → value = sessionRow rows id

/-- The transaction has rotated one session and touched no other. -/
structure Rotating (rows : Rows) (own : Own) (continued : SessionId) (old : Session)
    (now : Int) : Prop where
  found : sessionRow rows continued = some old
  unrotated : old.rotatedAt = none
  unrevoked : old.revokedAt = none
  marked : ownSession own continued = some (some { old with rotatedAt := some now })
  rest : ∀ id value, id ≠ continued → ownSession own id = some value →
    value = sessionRow rows id

/-- The transaction holds the live session it is about to rotate. -/
structure Locked (rows : Rows) (own : Own) (id : SessionId) (old : Session) : Prop where
  untouched : Untouched rows own
  held : ownSession own id = some (some old)
  unrotated : old.rotatedAt = none
  unrevoked : old.revokedAt = none

/-- `row` continues a session that was rotated after the statement began, and
that the statement has still to take. -/
structure Pursued (progress : Progress RowOf) (rows : Rows) (row : Session)
    (parent : SessionId) (was is : Session) : Prop where
  pending : Key.session parent ∈ progress.remaining
  seen : sessionRow progress.snapshot parent = some was
  unrotated : was.rotatedAt = none
  found : sessionRow rows parent = some is
  rotated : is.rotatedAt ≠ none
  unrevoked : is.revokedAt = none
  familyId : row.familyId = is.familyId
  userId : row.userId = is.userId

/-- A revocation under way has taken, will take or pursues all it covers. -/
structure Revoking (scope : Scope) (rows : Rows) (own : Own) (progress : Progress RowOf) :
    Prop where
  older : ∀ id old, sessionRow progress.snapshot id = some old →
    ∃ row, sessionRow rows id = some row ∧ Advances old row
  pending : ∀ id, Key.session id ∈ progress.remaining →
    ∃ old, sessionRow progress.snapshot id = some old ∧ scope.covers old = true
  unwritten : ∀ id value, Key.session id ∈ progress.remaining →
    ownSession own id = some value → value = sessionRow rows id
  changed : ∀ id value, ownSession own id = some value → value = sessionRow rows id ∨
    ∃ old now, sessionRow rows id = some old ∧ scope.covers old = true ∧
      value = some { old with revokedAt := some now }
  covered : ∀ id row, sessionRow rows id = some row → scope.covers row = true →
    row.revokedAt = none → Key.session id ∈ progress.remaining ∨
      (∃ now, ownSession own id = some (some { row with revokedAt := some now })) ∨
      ∃ parent was is, Pursued progress rows row parent was is

def RevokingAny (rows : Rows) (own : Own) (progress : Progress RowOf) : Option Scope → Prop
  | some scope => Revoking scope rows own progress
  | none => Untouched rows own

/-- Before and during a revoking statement. -/
def Closing (rows : Rows) (tx : Tx RowOf Pc) (scope : Rows → Option Scope) : Prop :=
  match tx.progress with
  | none => Untouched rows tx.own
  | some progress => RevokingAny rows tx.own progress (scope progress.snapshot)

/-- Before and during the statement that marks the session rotated. -/
def Marking (rows : Rows) (tx : Tx RowOf Pc) (id : SessionId) : Prop :=
  match tx.progress with
  | none => ∃ old, Locked rows tx.own id old
  | some progress => (∀ key, key ∈ progress.remaining → key = Key.session id) ∧
      ((∃ old, Locked rows tx.own id old ∧ Key.session id ∈ progress.remaining) ∨
        ∃ old now, Rotating rows tx.own id old now)

/-- During the locking read of `refresh`. -/
def Locking (rows : Rows) (tx : Tx RowOf Pc) : Prop :=
  Untouched rows tx.own ∧ ∀ progress id row, tx.progress = some progress →
    (⟨Key.session id, row⟩ : Sigma RowOf) ∈ progress.hits →
    ownSession tx.own id = some (some row)

/-- What a transaction about to commit will have done. -/
structure Ready (rows : Rows) (own : Own) (outcome : Outcome) (note : Note) : Prop where
  effect : Effect rows (overlay rows own) note
  renews : ∀ userId, outcome = .ok userId → ∃ row, note = .renewed row

def AssertedAt (rows : Rows) (tx : Tx RowOf Pc) : Prop :=
  match tx.pc with
  | .lockByHash .. => Locking rows tx
  | .revokeFamily familyId outcome _ =>
      Closing rows tx (fun _ => some (.family familyId)) ∧ ∀ userId, outcome ≠ .ok userId
  | .markRotated id .. => Marking rows tx id
  | .rotate continued .. => ∃ old now, Rotating rows tx.own continued old now
  | .insertRotated row .. => ∃ continued old now,
      Rotating rows tx.own continued old now ∧ Continues old row
  | .revokeFamilyByTokenHash tokenHash _ =>
      Closing rows tx fun snapshot => (familyOf tokenHash snapshot).map .family
  | .replacePassword .. => Untouched rows tx.own
  | .revokeAllForUser userId _ => Closing rows tx fun _ => some (.account userId)
  | .done outcome note => Ready rows tx.own outcome note
  | .failed => True

def asserted : Assertions RowOf Pc (List Finished) :=
  { global := Beaten
    localAt := fun rows _ tx => AssertedAt rows tx }

/-! ## Assertions against the commits of others -/

section Stable

variable {before after : Rows} {own : Own} {note : Note}

/-- Nobody else changed a session the transaction holds. -/
def Framed (own : Own) (before after : Rows) : Prop :=
  ∀ id value, ownSession own id = some value → sessionRow after id = sessionRow before id

theorem untouched_stable (framed : Framed own before after) (untouched : Untouched before own) :
    Untouched after own := by
  intro id value written
  rw [framed id value written]
  exact untouched id value written

theorem locked_stable {id : SessionId} {old : Session} (framed : Framed own before after)
    (locked : Locked before own id old) : Locked after own id old :=
  { locked with untouched := untouched_stable framed locked.untouched }

theorem rotating_stable {continued : SessionId} {old : Session} {now : Int}
    (framed : Framed own before after) (rotating : Rotating before own continued old now) :
    Rotating after own continued old now := by
  refine { rotating with found := ?_, rest := ?_ }
  · rw [framed continued _ rotating.marked]
    exact rotating.found
  · intro id value different written
    rw [framed id value written]
    exact rotating.rest id value different written

/-- A continued session was rotated by its transaction, so nobody else holds it. -/
theorem continued_free (framed : Framed own before after) {continued : SessionId}
    {old row : Session} {now : Int} (found : sessionRow before continued = some old)
    (continues : Continues old row)
    (marked : sessionRow after continued = some { old with rotatedAt := some now }) :
    ownSession own continued = none := by
  by_contra held
  obtain ⟨value, written⟩ := Option.ne_none_iff_exists'.mp held
  have same := framed continued value written
  rw [marked, found, Option.some.injEq] at same
  have rotated : old.rotatedAt = some now := by rw [← same]
  rw [continues.unrotated] at rotated
  exact nomatch rotated

/-- A session is revoked only together with the rest of its family. -/
theorem stays_unrevoked (effect : Effect before after note) {id other : SessionId}
    {old row new : Session} (found : sessionRow before id = some old)
    (unrevoked : old.revokedAt = none) (foundOther : sessionRow after other = some row)
    (live : row.revokedAt = none) (familyId : row.familyId = old.familyId)
    (userId : row.userId = old.userId) (foundNew : sessionRow after id = some new) :
    new.revokedAt = none := by
  cases effect with
  | nothing same =>
      rw [same, found, Option.some.injEq] at foundNew
      rwa [← foundNew]
  | revoked scope changed complete =>
      rcases changed id with same | ⟨was, now, present, covers, _⟩
      · rw [same, found, Option.some.injEq] at foundNew
        rwa [← foundNew]
      · rw [found, Option.some.injEq] at present
        subst present
        rw [← covers_same familyId userId] at covers
        exact absurd live (complete other row foundOther covers)
  | renewed renewed was continued next now continues present marked fresh inserted same =>
      by_cases isContinued : id = continued
      · subst isContinued
        rw [found, Option.some.injEq] at present
        subst present
        rw [marked, Option.some.injEq] at foundNew
        rwa [← foundNew]
      · have notNext : id ≠ next := by
          intro isNext
          rw [isNext, fresh] at found
          exact nomatch found
        rw [same id isContinued notNext, found, Option.some.injEq] at foundNew
        rwa [← foundNew]

theorem pursued_stable {progress : Progress RowOf} {row live : Session}
    {parent other : SessionId} {was is : Session} (effect : Effect before after note)
    (pursued : Pursued progress before row parent was is)
    (foundOther : sessionRow after other = some live) (unrevoked : live.revokedAt = none)
    (familyId : live.familyId = row.familyId) (userId : live.userId = row.userId) :
    ∃ parent was is, Pursued progress after live parent was is := by
  obtain ⟨now, found, advances⟩ := effect_advances effect parent is pursued.found
  have sameFamily := familyId.trans pursued.familyId
  have sameUser := userId.trans pursued.userId
  refine ⟨parent, was, now, ?_⟩
  exact
    { pending := pursued.pending
      seen := pursued.seen
      unrotated := pursued.unrotated
      found := found
      rotated := advances.rotated pursued.rotated
      unrevoked := stays_unrevoked effect pursued.found pursued.unrevoked foundOther unrevoked
        sameFamily sameUser found
      familyId := sameFamily.trans advances.familyId.symm
      userId := sameUser.trans advances.userId.symm }

theorem revoking_stable {scope : Scope} {progress : Progress RowOf}
    (effect : Effect before after note) (framed : Framed own before after)
    (revoking : Revoking scope before own progress) : Revoking scope after own progress := by
  constructor
  · intro id old seen
    obtain ⟨row, found, advances⟩ := revoking.older id old seen
    obtain ⟨new, stored, further⟩ := effect_advances effect id row found
    exact ⟨new, stored, advances_trans advances further⟩
  · exact revoking.pending
  · intro id value pending written
    rw [framed id value written]
    exact revoking.unwritten id value pending written
  · intro id value written
    rw [framed id value written]
    exact revoking.changed id value written
  · intro id row found covers unrevoked
    cases present : sessionRow before id with
    | some old =>
        obtain ⟨new, stored, advances⟩ := effect_advances effect id old present
        rw [found, Option.some.injEq] at stored
        subst stored
        have coversOld := covers
        rw [covers_same advances.familyId advances.userId] at coversOld
        have unrevokedOld : old.revokedAt = none := by
          by_contra revoked
          exact advances.revoked revoked unrevoked
        rcases revoking.covered id old present coversOld unrevokedOld with
          pending | ⟨now, written⟩ | ⟨parent, was, is, pursued⟩
        · exact .inl pending
        · have same := framed id _ written
          rw [found, present, Option.some.injEq] at same
          exact .inr (.inl ⟨now, same ▸ written⟩)
        · exact .inr (.inr (pursued_stable effect pursued found unrevoked advances.familyId
            advances.userId))
    | none =>
        -- A session that appeared continues one the statement has not taken.
        obtain ⟨continued, old, stored, continues, now, marked⟩ :=
          effect_appears effect present found
        have coversOld := covers
        rw [covers_same continues.familyId continues.userId] at coversOld
        have free := continued_free framed stored continues marked
        rcases revoking.covered continued old stored coversOld continues.unrevoked with
          pending | ⟨_, written⟩ | ⟨parent, was, is, pursued⟩
        · obtain ⟨was, seen, _⟩ := revoking.pending continued pending
          obtain ⟨_, same, advances⟩ := revoking.older continued was seen
          rw [stored, Option.some.injEq] at same
          subst same
          have unrotated : was.rotatedAt = none := by
            by_contra rotated
            exact advances.rotated rotated continues.unrotated
          exact .inr (.inr ⟨continued, was, _, pending, seen, unrotated, marked, by simp,
            continues.unrevoked, continues.familyId, continues.userId⟩)
        · exact nomatch free.symm.trans written
        · exact .inr (.inr (pursued_stable effect pursued found unrevoked continues.familyId
            continues.userId))

/-- A session is the transaction's own, and then nobody changes it, or nobody
but others writes it. -/
theorem view_cases (framed : Framed own before after) (id : SessionId) :
    (sessionRow (overlay after own) id = sessionRow (overlay before own) id ∧
        sessionRow after id = sessionRow before id) ∨
      ownSession own id = none ∧
        sessionRow (overlay before own) id = sessionRow before id ∧
        sessionRow (overlay after own) id = sessionRow after id := by
  cases held : ownSession own id with
  | some value =>
      refine .inl ⟨?_, framed id value held⟩
      rw [session_overlay_of_own held, session_overlay_of_own held]
  | none =>
      exact .inr ⟨rfl, session_overlay_of_free held, session_overlay_of_free held⟩

theorem complete_stable {scope : Scope} (effect : Effect before after note)
    (framed : Framed own before after)
    (complete : ∀ id row, sessionRow (overlay before own) id = some row →
      scope.covers row = true → row.revokedAt ≠ none) :
    ∀ id row, sessionRow (overlay after own) id = some row → scope.covers row = true →
      row.revokedAt ≠ none := by
  intro id row found covers
  rcases view_cases framed id with ⟨sameView, _⟩ | ⟨_, viewBefore, viewAfter⟩
  · exact complete id row (sameView ▸ found) covers
  · rw [viewAfter] at found
    cases present : sessionRow before id with
    | some old =>
        obtain ⟨new, stored, advances⟩ := effect_advances effect id old present
        rw [found, Option.some.injEq] at stored
        subst stored
        rw [covers_same advances.familyId advances.userId] at covers
        exact advances.revoked (complete id old (viewBefore.trans present) covers)
    | none =>
        obtain ⟨continued, old, stored, continues, now, marked⟩ :=
          effect_appears effect present found
        have free := continued_free framed stored continues marked
        rw [covers_same continues.familyId continues.userId] at covers
        exact absurd continues.unrevoked
          (complete continued old ((session_overlay_of_free free).trans stored) covers)

theorem effect_stable {noted : Note} (effect : Effect before after note)
    (framed : Framed own before after) (own_effect : Effect before (overlay before own) noted) :
    Effect after (overlay after own) noted := by
  cases own_effect with
  | nothing same =>
      refine .nothing fun id => ?_
      rcases view_cases framed id with ⟨sameView, sameRow⟩ | ⟨_, _, viewAfter⟩
      · rw [sameView, same, sameRow]
      · exact viewAfter
  | revoked scope changed complete =>
      refine .revoked scope (fun id => ?_) (complete_stable effect framed complete)
      rcases view_cases framed id with ⟨sameView, sameRow⟩ | ⟨_, _, viewAfter⟩
      · rw [sameView, sameRow]
        exact changed id
      · exact .inl viewAfter
  | renewed row old continued next now continues found marked fresh inserted same =>
      have held : ∀ id, sessionRow (overlay before own) id ≠ sessionRow before id →
          sessionRow (overlay after own) id = sessionRow (overlay before own) id ∧
            sessionRow after id = sessionRow before id := by
        intro id different
        rcases view_cases framed id with kept | ⟨_, viewBefore, _⟩
        · exact kept
        · exact absurd viewBefore different
      obtain ⟨viewContinued, rowContinued⟩ := held continued (by
        rw [marked, found]
        intro equal
        rw [Option.some.injEq] at equal
        have unrotated := continues.unrotated
        rw [← equal] at unrotated
        exact nomatch unrotated)
      obtain ⟨viewNext, rowNext⟩ := held next (by simp [inserted, fresh])
      refine .renewed row old continued next now continues (rowContinued.trans found)
        (viewContinued.trans marked) (rowNext.trans fresh) (viewNext.trans inserted) ?_
      intro id notContinued notNext
      rcases view_cases framed id with ⟨sameView, sameRow⟩ | ⟨_, _, viewAfter⟩
      · rw [sameView, same id notContinued notNext, sameRow]
      · exact viewAfter

theorem closing_stable {tx : Tx RowOf Pc} {scope : Rows → Option Scope}
    (effect : Effect before after note) (framed : Framed tx.own before after)
    (closing : Closing before tx scope) : Closing after tx scope := by
  unfold Closing at closing ⊢
  cases underway : tx.progress with
  | none =>
      rw [underway] at closing
      exact untouched_stable framed closing
  | some progress =>
      rw [underway] at closing
      dsimp only at closing ⊢
      cases covered : scope progress.snapshot with
      | none =>
          rw [covered] at closing
          exact untouched_stable framed closing
      | some found =>
          rw [covered] at closing
          exact revoking_stable effect framed closing

theorem marking_stable {tx : Tx RowOf Pc} {id : SessionId}
    (framed : Framed tx.own before after) (marking : Marking before tx id) :
    Marking after tx id := by
  unfold Marking at marking ⊢
  cases underway : tx.progress with
  | none =>
      rw [underway] at marking
      obtain ⟨old, locked⟩ := marking
      exact ⟨old, locked_stable framed locked⟩
  | some progress =>
      rw [underway] at marking
      obtain ⟨only, ⟨old, locked, pending⟩ | ⟨old, now, rotating⟩⟩ := marking
      · exact ⟨only, .inl ⟨old, locked_stable framed locked, pending⟩⟩
      · exact ⟨only, .inr ⟨old, now, rotating_stable framed rotating⟩⟩

theorem asserted_stable {tx : Tx RowOf Pc} (effect : Effect before after note)
    (framed : Framed tx.own before after) (assertedAt : AssertedAt before tx) :
    AssertedAt after tx := by
  unfold AssertedAt at assertedAt ⊢
  cases place : tx.pc with
  | lockByHash tokenHash next now =>
      rw [place] at assertedAt
      exact ⟨untouched_stable framed assertedAt.1, assertedAt.2⟩
  | revokeFamily familyId outcome now =>
      rw [place] at assertedAt
      exact ⟨closing_stable effect framed assertedAt.1, assertedAt.2⟩
  | markRotated id userId next now =>
      rw [place] at assertedAt
      exact marking_stable framed assertedAt
  | rotate continued userId next =>
      rw [place] at assertedAt
      obtain ⟨old, now, rotating⟩ := assertedAt
      exact ⟨old, now, rotating_stable framed rotating⟩
  | insertRotated row userId next =>
      rw [place] at assertedAt
      obtain ⟨continued, old, now, rotating, continues⟩ := assertedAt
      exact ⟨continued, old, now, rotating_stable framed rotating, continues⟩
  | revokeFamilyByTokenHash tokenHash now =>
      rw [place] at assertedAt
      exact closing_stable effect framed assertedAt
  | replacePassword userId expectedHash newHash now =>
      rw [place] at assertedAt
      exact untouched_stable framed assertedAt
  | revokeAllForUser userId now =>
      rw [place] at assertedAt
      exact closing_stable effect framed assertedAt
  | done outcome noted =>
      rw [place] at assertedAt
      exact { assertedAt with effect := effect_stable effect framed assertedAt.effect }
  | failed => trivial

end Stable

/-! ## Assertions against the transaction's own steps -/

section Moves

variable {rows : Rows} {own : Own} {taken : Key → Bool} {pick : Option Key}

theorem untouched_view (untouched : Untouched rows own) (id : SessionId) :
    sessionRow (overlay rows own) id = sessionRow rows id := by
  cases held : ownSession own id with
  | some value =>
      rw [session_overlay_of_own held]
      exact untouched id value held
  | none => exact session_overlay_of_free held

theorem untouched_lock {id : SessionId} {row : Session} (untouched : Untouched rows own)
    (found : sessionRow (overlay rows own) id = some row) :
    Untouched rows (own.insert (Key.session id) (some row)) := by
  intro other value written
  by_cases same : other = id
  · subst same
    rw [own_insert, Option.some.injEq] at written
    rw [← written, ← found]
    exact untouched_view untouched other
  · rw [own_insert_other _ _ (by simpa using same)] at written
    exact untouched other value written

theorem untouched_user {id : UserId} {value : Option User} (untouched : Untouched rows own) :
    Untouched rows (own.insert (Key.user id) value) := by
  intro other written held
  have same : ownSession (own.insert (Key.user id) value) other = ownSession own other :=
    own_insert_other (Key.user id) value (by simp)
  rw [same] at held
  exact untouched other written held

theorem first_session_mem {hits : List (Sigma RowOf)} {id : SessionId} {row : Session}
    (first : firstSession hits = some (id, row)) :
    (⟨Key.session id, row⟩ : Sigma RowOf) ∈ hits := by
  unfold firstSession at first
  split at first
  · rename_i other found rest
    rw [Option.some.injEq, Prod.mk.injEq] at first
    obtain ⟨rfl, rfl⟩ := first
    exact List.mem_cons_self
  · exact nomatch first

theorem nothing_ready {outcome : Outcome} (untouched : Untouched rows own)
    (refused : ∀ userId, outcome ≠ .ok userId) : Ready rows own outcome .nothing := by
  constructor
  · exact .nothing fun id => untouched_view untouched id
  · intro userId succeeded
    exact absurd succeeded (refused userId)

/-- `refresh` leaves its locking read to refuse, to revoke or to rotate. -/
theorem after_lock_asserted {next : NextSession} {now : Int} {snapshot : Rows}
    {hits : List (Sigma RowOf)} (untouched : Untouched rows own)
    (held : ∀ id row, (⟨Key.session id, row⟩ : Sigma RowOf) ∈ hits →
      ownSession own id = some (some row)) :
    AssertedAt rows { pc := afterLock next now snapshot hits, own, progress := none } := by
  unfold afterLock
  split
  · exact nothing_ready untouched (by simp)
  · rename_i id row first
    split
    · exact nothing_ready untouched (by simp)
    · rename_i user account
      split
      · exact ⟨untouched, by simp⟩
      · rename_i unrotated
        split
        · exact nothing_ready untouched (by simp)
        · rename_i live
          split
          · exact ⟨untouched, by simp⟩
          · split
            · exact ⟨untouched, by simp⟩
            · have locked := held id row (first_session_mem first)
              simp only [not_or, Option.not_isSome_iff_eq_none] at unrotated live
              exact ⟨row, untouched, locked, unrotated, live.1⟩

theorem locking_moves {tokenHash : String} {next : NextSession} {now : Int}
    {tx moved : Tx RowOf Pc} (place : tx.pc = .lockByHash tokenHash next now)
    (locking : Locking rows tx)
    (move : ScanMove (lockByHash tokenHash next now) rows taken tx pick moved) :
    AssertedAt rows moved := by
  obtain ⟨untouched, held⟩ := locking
  cases move with
  | start idle =>
      unfold AssertedAt
      dsimp only
      rw [place]
      refine ⟨untouched, ?_⟩
      intro progress id row underway member
      rw [← Option.some.inj underway] at member
      exact absurd member List.not_mem_nil
  | drop progress key underway picked member cause =>
      unfold AssertedAt
      dsimp only
      rw [place]
      refine ⟨untouched, ?_⟩
      intro after id row stored hit
      rw [← Option.some.inj stored] at hit
      exact held progress id row underway hit
  | take progress key row underway picked member free found wanted =>
      cases key with
      | user id => exact nomatch wanted
      | session id =>
          unfold AssertedAt
          dsimp only
          rw [place]
          refine ⟨untouched_lock untouched found, ?_⟩
          have written := own_insert tx.own id (some row)
          intro after other hit stored member
          rw [← Option.some.inj stored] at member
          rcases List.mem_append.mp member with past | new
          · by_cases isTaken : other = id
            · subst isTaken
              have same : sessionRow (overlay rows tx.own) other = some hit :=
                session_overlay_of_own (held progress other hit underway past)
              have agree : hit = row := Option.some.inj (same.symm.trans found)
              rw [agree]
              exact written
            · refine (own_insert_other _ _ (by simpa using isTaken)).trans ?_
              exact held progress other hit underway past
          · cases List.mem_singleton.mp new
            exact written
  | finish progress underway done =>
      exact after_lock_asserted untouched fun id row hit => held progress id row underway hit

theorem revoking_start {scope : Scope} {statement : Scan RowOf Pc}
    (untouched : Untouched rows own)
    (wanted : ∀ id row, statement.wanted (overlay rows own) (Key.session id) row = true ↔
      row.revokedAt = none ∧ scope.covers row = true) :
    Revoking scope rows own (statement.begin (overlay rows own)) := by
  constructor
  · intro id old seen
    refine ⟨old, ?_, advances_refl old⟩
    rwa [Scan.begin, untouched_view untouched] at seen
  · intro id pending
    obtain ⟨row, found, asked⟩ := mem_candidates.mp pending
    exact ⟨row, found, ((wanted id row).mp asked).2⟩
  · intro id value pending written
    exact untouched id value written
  · intro id value written
    exact .inl (untouched id value written)
  · intro id row found covers unrevoked
    refine .inl (mem_candidates.mpr ⟨row, ?_, (wanted id row).mpr ⟨unrevoked, covers⟩⟩)
    exact (untouched_view untouched id).trans found

theorem pending_view {scope : Scope} {progress : Progress RowOf} {id : SessionId}
    (revoking : Revoking scope rows own progress)
    (pending : Key.session id ∈ progress.remaining) :
    ∃ row, sessionRow (overlay rows own) id = some row ∧ sessionRow rows id = some row ∧
      scope.covers row = true := by
  obtain ⟨old, seen, covers⟩ := revoking.pending id pending
  obtain ⟨row, found, advances⟩ := revoking.older id old seen
  refine ⟨row, ?_, found, ?_⟩
  · cases held : ownSession own id with
    | some value =>
        rw [session_overlay_of_own held, revoking.unwritten id value pending held, found]
    | none => exact (session_overlay_of_free held).trans found
  · rwa [covers_same advances.familyId advances.userId]

/-- A row that no longer qualifies was revoked by another transaction. -/
theorem revoking_drop {scope : Scope} {progress : Progress RowOf} {key : Key}
    (revoking : Revoking scope rows own progress) (member : key ∈ progress.remaining)
    (cause : ∀ id row, key = Key.session id → sessionRow (overlay rows own) id = some row →
      scope.covers row = true → row.revokedAt ≠ none) :
    Revoking scope rows own (progress.drop key) := by
  have revoked : ∀ id row, key = Key.session id → sessionRow rows id = some row →
      row.revokedAt ≠ none := by
    intro id row same found
    obtain ⟨shown, view, stored, covers⟩ := pending_view revoking (same ▸ member)
    rw [found, Option.some.injEq] at stored
    subst stored
    exact cause id row same view covers
  constructor
  · exact revoking.older
  · intro id pending
    exact revoking.pending id (mem_drop.mp pending).1
  · intro id value pending
    exact revoking.unwritten id value (mem_drop.mp pending).1
  · exact revoking.changed
  · intro id row found covers unrevoked
    rcases revoking.covered id row found covers unrevoked with
      pending | written | ⟨parent, was, is, pursued⟩
    · by_cases same : key = Key.session id
      · exact absurd unrevoked (revoked id row same found)
      · exact .inl (mem_drop.mpr ⟨pending, Ne.symm same⟩)
    · exact .inr (.inl written)
    · by_cases same : key = Key.session parent
      · exact absurd pursued.unrevoked (revoked parent is same pursued.found)
      · exact .inr (.inr ⟨parent, was, is,
          { pursued with pending := mem_drop.mpr ⟨pursued.pending, Ne.symm same⟩ }⟩)

theorem revoking_take {scope : Scope} {progress : Progress RowOf} {id : SessionId}
    {row : Session} {now : Int} (revoking : Revoking scope rows own progress)
    (member : Key.session id ∈ progress.remaining)
    (found : sessionRow (overlay rows own) id = some row)
    (caughtUp : ∀ was is, sessionRow progress.snapshot id = some was → was.rotatedAt = none →
      sessionRow rows id = some is → is.revokedAt = none → is.rotatedAt = none) :
    Revoking scope rows
      (own.insert (Key.session id) (some { row with revokedAt := some now }))
      (progress.take (Key.session id) row) := by
  obtain ⟨shown, view, stored, coversRow⟩ := pending_view revoking member
  rw [found, Option.some.injEq] at view
  subst view
  have written := own_insert own id (some { row with revokedAt := some now })
  constructor
  · exact revoking.older
  · intro other pending
    exact revoking.pending other (mem_drop.mp pending).1
  · intro other value pending held
    have kept := mem_drop.mp pending
    rw [own_insert_other _ _ kept.2] at held
    exact revoking.unwritten other value kept.1 held
  · intro other value held
    by_cases same : other = id
    · subst same
      rw [written, Option.some.injEq] at held
      exact .inr ⟨row, now, stored, coversRow, held.symm⟩
    · rw [own_insert_other _ _ (by simpa using same)] at held
      exact revoking.changed other value held
  · intro other live present covers unrevoked
    by_cases same : other = id
    · subst same
      rw [stored, Option.some.injEq] at present
      subst present
      exact .inr (.inl ⟨now, written⟩)
    · have different : Key.session other ≠ Key.session id := by simpa using same
      rcases revoking.covered other live present covers unrevoked with
        pending | ⟨at', held⟩ | ⟨parent, was, is, pursued⟩
      · exact .inl (mem_drop.mpr ⟨pending, different⟩)
      · exact .inr (.inl ⟨at', (own_insert_other _ _ different).trans held⟩)
      · have behind : parent ≠ id := by
          intro isParent
          subst isParent
          exact pursued.rotated
            (caughtUp was is pursued.seen pursued.unrotated pursued.found pursued.unrevoked)
        exact .inr (.inr ⟨parent, was, is,
          { pursued with pending := mem_drop.mpr ⟨pursued.pending, by simpa using behind⟩ }⟩)

theorem revoking_finish {scope : Scope} {progress : Progress RowOf}
    (revoking : Revoking scope rows own progress) (done : progress.remaining = []) :
    Effect rows (overlay rows own) (.revoked scope) := by
  refine .revoked scope ?_ ?_
  · intro id
    cases held : ownSession own id with
    | none => exact .inl (session_overlay_of_free held)
    | some value =>
        rw [session_overlay_of_own held]
        exact revoking.changed id value held
  · intro id row found covers unrevoked
    have missed : ∀ stored, sessionRow rows id = some stored → scope.covers stored = true →
        stored.revokedAt = none →
        ∃ now, ownSession own id = some (some { stored with revokedAt := some now }) := by
      intro stored present coversStored live
      rcases revoking.covered id stored present coversStored live with
        pending | written | ⟨parent, was, is, pursued⟩
      · exact absurd (done ▸ pending) List.not_mem_nil
      · exact written
      · exact absurd (done ▸ pursued.pending) List.not_mem_nil
    cases held : ownSession own id with
    | none =>
        rw [session_overlay_of_free held] at found
        obtain ⟨now, written⟩ := missed row found covers unrevoked
        exact nomatch held.symm.trans written
    | some value =>
        rw [session_overlay_of_own held] at found
        subst found
        rcases revoking.changed id _ held with same | ⟨old, now, _, _, rewritten⟩
        · obtain ⟨now, written⟩ := missed row same.symm covers unrevoked
          rw [held, Option.some.injEq, Option.some.injEq] at written
          rw [written] at unrevoked
          exact nomatch unrevoked
        · rw [Option.some.injEq] at rewritten
          rw [rewritten] at unrevoked
          exact nomatch unrevoked

/-- The session to take was not rotated since the statement began. -/
def CaughtUp (rows : Rows) (tx : Tx RowOf Pc) (scope : Rows → Option Scope)
    (pick : Option Key) : Prop :=
  ∀ id progress was is, pick = some (Key.session id) → tx.progress = some progress →
    (scope progress.snapshot).isSome → sessionRow progress.snapshot id = some was →
    was.rotatedAt = none → sessionRow rows id = some is → is.revokedAt = none →
    is.rotatedAt = none

theorem revoke_wanted {scope : Rows → Option Scope} {now : Int} {next : Option Scope → Pc}
    {snapshot : Rows} {id : SessionId} {row : Session} :
    (revoke scope now next).wanted snapshot (Key.session id) row = true ↔
      row.revokedAt = none ∧ ∃ found, scope snapshot = some found ∧ found.covers row = true := by
  simp [revoke, sessionWhere, Option.any_eq_true]

theorem closing_moves {scope : Rows → Option Scope} {now : Int} {next : Option Scope → Pc}
    {tx moved : Tx RowOf Pc} (closing : Closing rows tx scope)
    (caughtUp : CaughtUp rows tx scope pick)
    (move : ScanMove (revoke scope now next) rows taken tx pick moved) :
    moved.pc = tx.pc ∧ Closing rows moved scope ∨
      ∃ found, moved = { tx with pc := next found, progress := none } ∧
        match found with
        | some scope => Effect rows (overlay rows tx.own) (.revoked scope)
        | none => Untouched rows tx.own := by
  unfold Closing at closing
  cases move with
  | start idle =>
      rw [idle] at closing
      refine .inl ⟨rfl, ?_⟩
      unfold Closing RevokingAny
      dsimp only [Scan.begin]
      split
      · rename_i found covered
        exact revoking_start closing fun id row => by simp [revoke_wanted, covered]
      · exact closing
  | drop progress key underway picked member cause =>
      rw [underway] at closing
      refine .inl ⟨rfl, ?_⟩
      unfold Closing RevokingAny
      unfold RevokingAny at closing
      dsimp only [Progress.drop] at closing ⊢
      split at closing
      · rename_i found covered
        refine revoking_drop closing member fun id row same view covers unrevoked => ?_
        subst same
        rcases cause with ⟨_, skips⟩ | unwanted
        · exact nomatch skips
        · have wanted := unwanted row view
          rw [revoke_wanted.mpr ⟨unrevoked, found, covered, covers⟩] at wanted
          exact nomatch wanted
      · exact closing
  | take progress key row underway picked member free found wanted =>
      rw [underway] at closing
      cases key with
      | user id => exact nomatch wanted
      | session id =>
          obtain ⟨_, scope', covered, _⟩ := revoke_wanted.mp wanted
          refine .inl ⟨rfl, ?_⟩
          unfold Closing RevokingAny
          unfold RevokingAny at closing
          dsimp only [Progress.take, Progress.drop] at closing ⊢
          rw [covered] at closing ⊢
          exact revoking_take closing member found fun was is =>
            caughtUp id progress was is picked underway (by simp [covered])
  | finish progress underway done =>
      rw [underway] at closing
      have empty : progress.remaining = [] := by simpa [Scan.full, revoke] using done
      refine .inr ⟨scope progress.snapshot, rfl, ?_⟩
      unfold RevokingAny at closing
      dsimp only at closing
      cases covered : scope progress.snapshot with
      | some found =>
          rw [covered] at closing
          exact revoking_finish closing empty
      | none =>
          rw [covered] at closing
          exact closing

theorem closed_asserted {outcome : Outcome} {found : Option Scope}
    (refused : ∀ userId, outcome ≠ .ok userId)
    (finished : match found with
      | some scope => Effect rows (overlay rows own) (.revoked scope)
      | none => Untouched rows own) :
    AssertedAt rows { pc := closed outcome found, own, progress := none } := by
  cases found with
  | some scope => exact ⟨finished, fun userId succeeded => absurd succeeded (refused userId)⟩
  | none => exact nothing_ready finished refused

theorem locked_view {id : SessionId} {old : Session} (locked : Locked rows own id old) :
    sessionRow rows id = some old :=
  (locked.untouched id (some old) locked.held).symm

theorem rotating_view {continued : SessionId} {old : Session} {now : Int}
    (rotating : Rotating rows own continued old now) {id : SessionId} (different : id ≠ continued) :
    sessionRow (overlay rows own) id = sessionRow rows id := by
  cases held : ownSession own id with
  | some value =>
      rw [session_overlay_of_own held]
      exact rotating.rest id value different held
  | none => exact session_overlay_of_free held

theorem marking_moves {id : SessionId} {userId : UserId} {next : NextSession} {now : Int}
    {tx moved : Tx RowOf Pc} (place : tx.pc = .markRotated id userId next now)
    (marking : Marking rows tx id)
    (move : ScanMove (markRotated id userId next now) rows taken tx pick moved) :
    AssertedAt rows moved := by
  unfold Marking at marking
  cases move with
  | start idle =>
      rw [idle] at marking
      obtain ⟨old, locked⟩ := marking
      unfold AssertedAt Marking
      dsimp only
      rw [place]
      constructor
      · intro key pending
        obtain ⟨row, _, wanted⟩ := mem_candidates.mp pending
        exact of_decide_eq_true wanted
      · refine .inl ⟨old, locked, mem_candidates.mpr ⟨old, ?_, decide_eq_true rfl⟩⟩
        exact session_overlay_of_own locked.held
  | drop progress key underway picked member cause =>
      rw [underway] at marking
      obtain ⟨only, marking⟩ := marking
      have isSession := only key member
      subst isSession
      -- The row is there to be marked, so it is not dropped.
      exfalso
      have present : ∃ row, sessionRow (overlay rows tx.own) id = some row := by
        rcases marking with ⟨old, locked, _⟩ | ⟨old, at', rotating⟩
        · exact ⟨old, session_overlay_of_own locked.held⟩
        · exact ⟨_, session_overlay_of_own rotating.marked⟩
      obtain ⟨row, found⟩ := present
      rcases cause with ⟨_, skips⟩ | unwanted
      · exact nomatch skips
      · have wanted := unwanted row found
        simp [markRotated] at wanted
  | take progress key row underway picked member free found wanted =>
      rw [underway] at marking
      obtain ⟨only, marking⟩ := marking
      have isSession := only key member
      subst isSession
      have written := own_insert tx.own id (some { (row : Session) with rotatedAt := some now })
      unfold AssertedAt Marking
      dsimp only
      rw [place]
      refine ⟨fun key pending => only key (mem_drop.mp pending).1, .inr ?_⟩
      rcases marking with ⟨old, locked, _⟩ | ⟨old, at', rotating⟩
      · have same : row = old :=
          Option.some.inj (found.symm.trans (session_overlay_of_own locked.held))
        subst same
        refine ⟨row, now, locked_view locked, locked.unrotated, locked.unrevoked, written, ?_⟩
        intro other value different held
        rw [own_insert_other _ _ (by simpa using different)] at held
        exact locked.untouched other value held
      · have same : row = { old with rotatedAt := some at' } :=
          Option.some.inj (found.symm.trans (session_overlay_of_own rotating.marked))
        subst same
        refine ⟨old, now, rotating.found, rotating.unrotated, rotating.unrevoked, written, ?_⟩
        intro other value different held
        rw [own_insert_other _ _ (by simpa using different)] at held
        exact rotating.rest other value different held
  | finish progress underway done =>
      rw [underway] at marking
      have empty : progress.remaining = [] := by simpa [Scan.full, markRotated] using done
      obtain ⟨only, ⟨old, locked, pending⟩ | rotated⟩ := marking
      · exact absurd (empty ▸ pending) List.not_mem_nil
      · exact rotated

theorem password_moves {userId : UserId} {expectedHash newHash : String} {now : Int}
    {tx moved : Tx RowOf Pc} (place : tx.pc = .replacePassword userId expectedHash newHash now)
    (untouched : Untouched rows tx.own)
    (move : ScanMove (replacePassword userId expectedHash newHash now) rows taken tx pick moved) :
    AssertedAt rows moved := by
  cases move with
  | start idle =>
      unfold AssertedAt
      dsimp only
      rw [place]
      exact untouched
  | drop progress key underway picked member cause =>
      unfold AssertedAt
      dsimp only
      rw [place]
      exact untouched
  | take progress key row underway picked member free found wanted =>
      cases key with
      | session id => exact nomatch wanted
      | user id =>
          unfold AssertedAt
          dsimp only
          rw [place]
          exact untouched_user untouched
  | finish progress underway done =>
      dsimp only [replacePassword]
      split
      · exact nothing_ready untouched (by simp)
      · exact untouched

theorem marked_view {continued : SessionId} {old : Session} {now : Int}
    (rotating : Rotating rows own continued old now) :
    sessionRow (overlay rows own) continued = some { old with rotatedAt := some now } :=
  session_overlay_of_own rotating.marked

theorem rotate_moves {continued : SessionId} {userId : UserId} {next : NextSession}
    {old : Session} {now : Int} (rotating : Rotating rows own continued old now)
    {progress : Option (Progress RowOf)} {moved : Tx RowOf Pc}
    (move : LocalMove service rows taken
      { pc := .rotate continued userId next, own, progress } pick moved) :
    AssertedAt rows moved := by
  have view := marked_view rotating
  have reached := select_moves rfl move
  rw [view] at reached
  subst reached
  exact ⟨continued, old, now, rotating, rotating.unrotated, rotating.unrevoked, rfl, rfl⟩

theorem insert_moves_ready {row old : Session} {continued : SessionId} {userId : UserId}
    {next : NextSession} {now : Int} (rotating : Rotating rows own continued old now)
    (continues : Continues old row) {progress : Option (Progress RowOf)} {moved : Tx RowOf Pc}
    (move : LocalMove service rows taken
      { pc := .insertRotated row userId next, own, progress } pick moved) :
    AssertedAt rows moved := by
  obtain ⟨free, ⟨absent, rfl⟩ | ⟨other, present, rfl⟩⟩ := insert_moves rfl move
  · have view := marked_view rotating
    have different : next.id ≠ continued := by
      intro same
      rw [← same] at view
      exact nomatch view.symm.trans absent
    have elsewhere : ∀ id, id ≠ next.id →
        ownSession (own.insert (Key.session next.id) (some row)) id = ownSession own id :=
      fun id other => own_insert_other _ _ (by simpa using other)
    constructor
    · refine .renewed row old continued next.id now continues rotating.found ?_ ?_ ?_ ?_
      · rw [session_overlay, elsewhere continued (Ne.symm different), ← session_overlay, view]
      · exact (rotating_view rotating different).symm.trans absent
      · exact session_overlay_of_own (own_insert own next.id (some row))
      · intro id notContinued notNext
        rw [session_overlay, elsewhere id notNext, ← session_overlay]
        exact rotating_view rotating notContinued
    · intro user succeeded
      exact ⟨row, rfl⟩
  · trivial

/-- The statement a transaction is in revokes what a scope covers. -/
theorem revoking_asserted {scope : Rows → Option Scope} {now : Int} {outcome : Outcome}
    {tx moved : Tx RowOf Pc} (closing : Closing rows tx scope)
    (refused : ∀ userId, outcome ≠ .ok userId) (caughtUp : CaughtUp rows tx scope pick)
    (move : ScanMove (revoke scope now (closed outcome)) rows taken tx pick moved) :
    moved.pc = tx.pc ∧ Closing rows moved scope ∨ AssertedAt rows moved := by
  rcases closing_moves closing caughtUp move with kept | ⟨found, rfl, finished⟩
  · exact .inl kept
  · exact .inr (closed_asserted refused finished)

theorem asserted_moves {tx moved : Tx RowOf Pc} (assertedAt : AssertedAt rows tx)
    (caughtUp : CaughtUp rows tx tx.pc.scope pick)
    (move : LocalMove service rows taken tx pick moved) : AssertedAt rows moved := by
  obtain ⟨pc, own, progress⟩ := tx
  cases pc with
  | lockByHash tokenHash next now => exact locking_moves rfl assertedAt (scan_moves rfl move)
  | revokeFamily familyId outcome now =>
      rcases revoking_asserted assertedAt.1 assertedAt.2 caughtUp (scan_moves rfl move) with
        ⟨same, closing⟩ | reached
      · unfold AssertedAt
        rw [same]
        exact ⟨closing, assertedAt.2⟩
      · exact reached
  | markRotated id userId next now => exact marking_moves rfl assertedAt (scan_moves rfl move)
  | rotate continued userId next =>
      obtain ⟨old, now, rotating⟩ := assertedAt
      exact rotate_moves rotating move
  | insertRotated row userId next =>
      obtain ⟨continued, old, now, rotating, continues⟩ := assertedAt
      exact insert_moves_ready rotating continues move
  | revokeFamilyByTokenHash tokenHash now =>
      have closing : Closing rows { pc := .revokeFamilyByTokenHash tokenHash now, own, progress }
          (Pc.revokeFamilyByTokenHash tokenHash now).scope := assertedAt
      rcases revoking_asserted closing (by simp) caughtUp (scan_moves rfl move) with
        ⟨same, closing⟩ | reached
      · unfold AssertedAt
        rw [same]
        exact closing
      · exact reached
  | replacePassword userId expectedHash newHash now =>
      exact password_moves rfl assertedAt (scan_moves rfl move)
  | revokeAllForUser userId now =>
      have closing : Closing rows { pc := .revokeAllForUser userId now, own, progress }
          (Pc.revokeAllForUser userId now).scope := assertedAt
      rcases revoking_asserted closing (by simp) caughtUp (scan_moves rfl move) with
        ⟨same, closing⟩ | reached
      · unfold AssertedAt
        rw [same]
        exact closing
      · exact reached
  | done outcome note => exact absurd move (no_local_move (.inl rfl))
  | failed => exact absurd move (no_local_move (.inr (.inl rfl)))

end Moves

/-! ## Every run -/

def rotatedSince (snapshot committed : Rows) (id : SessionId) : Bool :=
  (sessionRow snapshot id).any (fun row => row.rotatedAt.isNone) &&
    (sessionRow committed id).any fun row => row.rotatedAt.isSome && row.revokedAt.isNone

/-- A revoking statement takes a session that a refresh has rotated since the
statement began: what the refresh inserted is not in its snapshot. -/
def overtaken (world : World RowOf Pc (List Finished)) : Event Key Pc Empty Empty → Bool
  | .run id (some (.session session)) =>
      (world.active.lookup id).any fun tx => tx.progress.any fun progress =>
        (tx.pc.scope progress.snapshot).isSome &&
          rotatedSince progress.snapshot world.committed session
  | _ => false

theorem caught_up {world : World RowOf Pc (List Finished)} {id : Nat} {pick : Option Key}
    {tx : Tx RowOf Pc} (found : world.active.lookup id = some tx)
    (inTime : overtaken world (.run id pick) = false) :
    CaughtUp world.committed tx tx.pc.scope pick := by
  intro session progress was is picked underway covered seen unrotated present unrevoked
  subst picked
  by_contra rotated
  have late : overtaken world (.run id (some (Key.session session))) = true := by
    simp [overtaken, rotatedSince, found, underway, covered, seen, unrotated, present, unrevoked,
      Option.isSome_iff_ne_none, rotated]
  exact nomatch inTime.symm.trans late

theorem asserted_kept : asserted.Kept service fun world event => overtaken world event = false := by
  constructor
  · intro world id pc hold inTime starts
    have untouched : Untouched world.committed (∅ : Own) := by
      intro session value written
      exact nomatch written
    cases pc with
    | lockByHash tokenHash next now =>
        exact ⟨untouched, fun progress session row underway => nomatch underway⟩
    | revokeFamilyByTokenHash tokenHash now => exact untouched
    | replacePassword userId expectedHash newHash now => exact untouched
    | revokeFamily => exact nomatch starts
    | markRotated => exact nomatch starts
    | rotate => exact nomatch starts
    | insertRotated => exact nomatch starts
    | revokeAllForUser => exact nomatch starts
    | done => exact nomatch starts
    | failed => exact nomatch starts
  · intro world id pick tx moved hold inTime found move
    exact asserted_moves (hold.localAt id tx found) (caught_up found inTime) move
  · intro world id value
    exact nomatch value
  · intro world id tx hold inTime found asked
    cases place : tx.pc with
    | done outcome note =>
        have ready : Ready world.committed tx.own outcome note := by
          have assertedAt := hold.localAt id tx found
          unfold asserted AssertedAt at assertedAt
          dsimp only at assertedAt
          rwa [place] at assertedAt
        refine ⟨beaten_effect hold.global ready.effect ready.renews, ?_⟩
        intro other otherTx different foundOther
        refine asserted_stable ready.effect ?_ (hold.localAt other otherTx foundOther)
        intro session value written
        exact commit_frame hold.exclusive different found foundOther (by
          intro free
          exact nomatch free.symm.trans written)
    | _ =>
        rw [place] at asked
        exact nomatch asked
  · intro world id tx hold permitted found
    exact ⟨hold.global, fun other otherTx _ present => hold.localAt other otherTx present⟩
  · intro world value
    exact nomatch value

/-- In every run in which no revoking statement is overtaken by a refresh it
waits for, what a committed revocation covers stays revoked, continuations
included, and no later refresh succeeds with it. -/
theorem revocation_beats_refresh (rows : Rows) (world : World RowOf Pc (List Finished))
    (run : Run service (fun world event => overtaken world event = false) (idle rows []) world) :
    Beaten world.committed world.env := by
  have start : asserted.Hold (idle rows []) := by
    apply hold_idle
    constructor
    · intro finished scope member
      exact absurd member List.not_mem_nil
    · intro earlier finished later scope split
      exact absurd split (by simp)
  exact (assertions_run asserted_kept start run).global

def signedIn : Rows :=
  ((∅ : Rows).insert (.user "ada")
    { passwordHash := "old", status := .active, mustChangePassword := false }).insert
    (.session "s1")
    { familyId := "f", userId := "ada", tokenHash := "h1", expiresAt := 100, rotatedAt := none
      revokedAt := none, steppedUpAt := none }

def refreshing (id : Nat) (tokenHash : String) (session : SessionId) (next : NextSession)
    (now : Int) : List (Event Key Pc Empty Empty) :=
  [.begin id (.lockByHash tokenHash next now), .run id none, .run id (some (.session session)),
    .run id none, .run id none, .run id (some (.session session)), .run id none, .run id none,
    .run id none]

/-- `changePassword` up to the snapshot of its revoking statement. -/
def changingPassword (id : Nat) (now : Int) : List (Event Key Pc Empty Empty) :=
  [.begin id (.replacePassword "ada" "old" "new" now), .run id none,
    .run id (some (.user "ada")), .run id none, .run id none]

def renewal (tokenHash : String) : Finished :=
  { outcome := .ok "ada"
    note := .renewed
      { familyId := "f", userId := "ada", tokenHash, expiresAt := 100, rotatedAt := none
        revokedAt := none, steppedUpAt := none } }

def passwordChange : Finished :=
  { outcome := .passwordReplaced, note := .revoked (.account "ada") }

/-- A password change after a refresh revokes both sessions. -/
theorem later_revocation_beats_refresh : ∃ world,
    Run service (fun world event => overtaken world event = false) (idle signedIn []) world ∧
      world.env = [renewal "h2", passwordChange] ∧ Beaten world.committed world.env := by
  have reached : (steps service (fun world event => overtaken world event = false)
      (idle signedIn []) (refreshing 1 "h1" "s1" ⟨"s2", "h2"⟩ 5 ++ [.commit 1] ++
        changingPassword 2 6 ++ [.run 2 (some (.session "s1")), .run 2 (some (.session "s2")),
          .run 2 none, .commit 2])).map World.env =
      some [renewal "h2", passwordChange] := by decide
  obtain ⟨world, stepped, log⟩ := Option.map_eq_some_iff.mp reached
  have run := run_steps .refl _ stepped
  exact ⟨world, run, log, revocation_beats_refresh signedIn world run⟩

/-- The refresh commits while the password change waits for the session it
rotates; the session it inserted is still good afterwards. -/
theorem overtaken_revocation_misses : ¬ ∀ rows world,
    Run service (fun _ _ => True) (idle rows []) world → Beaten world.committed world.env := by
  intro beats
  have reached : (steps service (fun _ _ => True) (idle signedIn [])
      (refreshing 1 "h1" "s1" ⟨"s2", "h2"⟩ 5 ++ changingPassword 2 6 ++ [.commit 1] ++
        [.run 2 (some (.session "s1")), .run 2 none, .commit 2] ++
        refreshing 3 "h2" "s2" ⟨"s3", "h3"⟩ 7 ++ [.commit 3])).map World.env =
      some [renewal "h2", passwordChange, renewal "h3"] := by decide
  obtain ⟨world, stepped, log⟩ := Option.map_eq_some_iff.mp reached
  have beaten := beats signedIn world (run_steps .refl _ stepped)
  rw [log] at beaten
  obtain ⟨row, renewed, uncovered⟩ := beaten.refused [renewal "h2"] passwordChange [renewal "h3"]
    (.account "ada") rfl rfl (renewal "h3") "ada" (by simp) rfl
  cases renewed
  exact absurd uncovered (by decide)

end Foc.Sessions
