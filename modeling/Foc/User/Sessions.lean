import Foc.Library.ReadCommitted

/-!
Refresh sessions of the User Service (`auth/sessions.service.ts` over
`auth/sessions.repository.ts`): `refresh`, `logout` and `changePassword` as
programs of statements under READ COMMITTED. A login, a step-up and the reset
links are left out: none of them rotates or revokes. `issued_at` is left out.
-/
namespace Foc.Sessions
open Library.ReadCommitted

abbrev UserId := String
abbrev SessionId := String
abbrev FamilyId := String

inductive AccountStatus where
  | pendingActivation | active | suspended
  deriving DecidableEq, Repr

structure User where
  passwordHash : String
  status : AccountStatus
  mustChangePassword : Bool
  deriving DecidableEq, Repr

/-- A `refresh_sessions` row; times are the database's. -/
structure Session where
  familyId : FamilyId
  userId : UserId
  tokenHash : String
  expiresAt : Int
  rotatedAt : Option Int
  revokedAt : Option Int
  steppedUpAt : Option Int
  deriving DecidableEq, Repr

inductive Key where
  | user (id : UserId)
  | session (id : SessionId)
  deriving DecidableEq, Repr

@[reducible] def RowOf : Key → Type
  | .user _ => User
  | .session _ => Session

/-- What a revocation covers: one sign-in, or every session of an account. -/
inductive Scope where
  | family (familyId : FamilyId)
  | account (userId : UserId)
  deriving DecidableEq, Repr

def Scope.covers (scope : Scope) (session : Session) : Bool :=
  match scope with
  | .family familyId => decide (session.familyId = familyId)
  | .account userId => decide (session.userId = userId)

inductive Outcome where
  | ok (userId : UserId)
  | invalid
  | reused
  | inactive (status : AccountStatus)
  | passwordChangeRequired
  | loggedOut
  | passwordReplaced
  | invalidCredentials
  deriving DecidableEq, Repr

/-- What a committed transaction did to sessions. -/
inductive Note where
  | revoked (scope : Scope)
  | renewed (session : Session)
  | nothing
  deriving DecidableEq, Repr

/-- What a committed call answered, and what it did. -/
structure Finished where
  outcome : Outcome
  note : Note
  deriving DecidableEq, Repr

structure NextSession where
  id : SessionId
  tokenHash : String
  deriving DecidableEq, Repr

/-- Where a transaction stands, with the values its caller holds. -/
inductive Pc where
  | lockByHash (tokenHash : String) (next : NextSession) (now : Int)
  | revokeFamily (familyId : FamilyId) (outcome : Outcome) (now : Int)
  | markRotated (id : SessionId) (userId : UserId) (next : NextSession) (now : Int)
  | rotate (continues : SessionId) (userId : UserId) (next : NextSession)
  | insertRotated (row : Session) (userId : UserId) (next : NextSession)
  | revokeFamilyByTokenHash (tokenHash : String) (now : Int)
  | replacePassword (userId : UserId) (expectedHash newHash : String) (now : Int)
  | revokeAllForUser (userId : UserId) (now : Int)
  | done (outcome : Outcome) (note : Note)
  | failed
  deriving DecidableEq, Repr

abbrev Rows := Store RowOf

def userRow (rows : Rows) (id : UserId) : Option User := rows.lookup (Key.user id)

def sessionRow (rows : Rows) (id : SessionId) : Option Session := rows.lookup (Key.session id)

/-! ## Statements -/

def sessionWhere (wanted : Session → Bool) : (key : Key) → RowOf key → Bool
  | .session _, row => wanted row
  | .user _, _ => false

def setSession (change : Session → Session) : (key : Key) → RowOf key → Option (RowOf key)
  | .session _, row => some (change row)
  | .user _, row => some row

def userWhere (id : UserId) (wanted : User → Bool) : (key : Key) → RowOf key → Bool
  | .user other, row => decide (other = id) && wanted row
  | .session _, _ => false

def setUser (change : User → User) : (key : Key) → RowOf key → Option (RowOf key)
  | .user _, row => some (change row)
  | .session _, row => some row

def firstSession : List (Sigma RowOf) → Option (SessionId × Session)
  | ⟨.session id, row⟩ :: _ => some (id, row)
  | _ => none

/-- What `refresh` does with the row it locked, or found missing. The account
columns come from the statement's snapshot: only the session is locked. -/
def afterLock (next : NextSession) (now : Int) (snapshot : Rows)
    (hits : List (Sigma RowOf)) : Pc :=
  match firstSession hits with
  | none => .done .invalid .nothing
  | some (id, row) =>
      match userRow snapshot row.userId with
      | none => .done .invalid .nothing
      | some user =>
          if row.rotatedAt.isSome then .revokeFamily row.familyId .reused now
          else if row.revokedAt.isSome ∨ row.expiresAt ≤ now then .done .invalid .nothing
          else if user.status ≠ .active then
            .revokeFamily row.familyId (.inactive user.status) now
          else if user.mustChangePassword then
            .revokeFamily row.familyId .passwordChangeRequired now
          else .markRotated id row.userId next now

def lockByHash (tokenHash : String) (next : NextSession) (now : Int) : Scan RowOf Pc :=
  { wanted := fun _ => sessionWhere fun row => decide (row.tokenHash = tokenHash)
    write := setSession id
    skipLocked := false
    limit := none
    next := afterLock next now }

/-- `UPDATE refresh_sessions SET revoked_at = now() WHERE .. AND revoked_at IS NULL`.
A subquery in the condition is answered by the statement's snapshot. -/
def revoke (scope : Rows → Option Scope) (now : Int) (next : Option Scope → Pc) :
    Scan RowOf Pc :=
  { wanted := fun snapshot => sessionWhere fun row =>
      row.revokedAt.isNone && (scope snapshot).any fun scope => scope.covers row
    write := setSession fun row => { row with revokedAt := some now }
    skipLocked := false
    limit := none
    next := fun snapshot _ => next (scope snapshot) }

def familyOf (tokenHash : String) (snapshot : Rows) : Option FamilyId :=
  snapshot.entries.findSome? fun
    | ⟨.session _, row⟩ => if row.tokenHash = tokenHash then some row.familyId else none
    | ⟨.user _, _⟩ => none

def closed (outcome : Outcome) : Option Scope → Pc
  | some scope => .done outcome (.revoked scope)
  | none => .done outcome .nothing

def markRotated (id : SessionId) (userId : UserId) (next : NextSession) (now : Int) :
    Scan RowOf Pc :=
  { wanted := fun _ key _ => decide (key = .session id)
    write := setSession fun row => { row with rotatedAt := some now }
    skipLocked := false
    limit := none
    next := fun _ _ => .rotate id userId next }

def replacePassword (userId : UserId) (expectedHash newHash : String) (now : Int) :
    Scan RowOf Pc :=
  { wanted := fun _ => userWhere userId fun user => decide (user.passwordHash = expectedHash)
    write := setUser fun user =>
      { user with passwordHash := newHash, mustChangePassword := false }
    skipLocked := false
    limit := none
    next := fun _ hits =>
      if hits.isEmpty then .done .invalidCredentials .nothing else .revokeAllForUser userId now }

/-- The scope a revoking statement covers, given its snapshot. -/
def Pc.scope (pc : Pc) (snapshot : Rows) : Option Scope :=
  match pc with
  | .revokeFamily familyId _ _ => some (.family familyId)
  | .revokeFamilyByTokenHash tokenHash _ => (familyOf tokenHash snapshot).map .family
  | .revokeAllForUser userId _ => some (.account userId)
  | _ => none

def request : Pc → Request RowOf Pc Empty
  | .lockByHash tokenHash next now => .scan (lockByHash tokenHash next now)
  | .revokeFamily familyId outcome now =>
      .scan (revoke (fun _ => some (.family familyId)) now (closed outcome))
  | .markRotated id userId next now => .scan (markRotated id userId next now)
  | .rotate continues userId next => .select fun view =>
      match sessionRow view continues with
      | none => .done (.ok userId) .nothing
      | some row => .insertRotated { row with
          tokenHash := next.tokenHash, rotatedAt := none, revokedAt := none } userId next
  | .insertRotated row userId next => .insert (.session next.id) row fun inserted =>
      if inserted then .done (.ok userId) (.renewed row) else .failed
  | .revokeFamilyByTokenHash tokenHash now =>
      .scan (revoke (fun snapshot => (familyOf tokenHash snapshot).map .family) now
        (closed .loggedOut))
  | .replacePassword userId expectedHash newHash now =>
      .scan (replacePassword userId expectedHash newHash now)
  | .revokeAllForUser userId now =>
      .scan (revoke (fun _ => some (.account userId)) now (closed .passwordReplaced))
  | .done _ _ => .commit
  | .failed => .stop

/-- `refresh`, `logout` and `changePassword` after their checks outside the
transaction; the log is of what each committed. -/
def service : Machine RowOf Pc Empty (List Finished) Empty :=
  { request
    starts := fun _ pc => match pc with
      | .lockByHash .. | .revokeFamilyByTokenHash .. | .replacePassword .. => true
      | _ => false
    answered := fun _ _ _ => none
    finished := fun log pc => match pc with
      | .done outcome note => log ++ [{ outcome, note }]
      | _ => log
    stimulus := fun _ _ => none }

/-! ## What a commit does to sessions -/

structure Advances (old new : Session) : Prop where
  familyId : new.familyId = old.familyId
  userId : new.userId = old.userId
  rotated : old.rotatedAt ≠ none → new.rotatedAt ≠ none
  revoked : old.revokedAt ≠ none → new.revokedAt ≠ none

theorem advances_refl (session : Session) : Advances session session :=
  ⟨rfl, rfl, id, id⟩

theorem advances_trans {first second third : Session} (left : Advances first second)
    (right : Advances second third) : Advances first third :=
  ⟨right.familyId.trans left.familyId, right.userId.trans left.userId,
    right.rotated ∘ left.rotated, right.revoked ∘ left.revoked⟩

theorem covers_same {scope : Scope} {old new : Session} (family : new.familyId = old.familyId)
    (user : new.userId = old.userId) : scope.covers new = scope.covers old := by
  cases scope <;> simp [Scope.covers, family, user]

/-- `session` was continued by `row`, and was neither rotated nor revoked. -/
structure Continues (session row : Session) : Prop where
  unrotated : session.rotatedAt = none
  unrevoked : session.revokedAt = none
  familyId : row.familyId = session.familyId
  userId : row.userId = session.userId

/-- The committed sessions before and after a transaction, by its note. -/
inductive Effect (before after : Rows) : Note → Prop where
  | nothing (same : ∀ id, sessionRow after id = sessionRow before id) :
      Effect before after .nothing
  | revoked (scope : Scope)
      (changed : ∀ id, sessionRow after id = sessionRow before id ∨
        ∃ old now, sessionRow before id = some old ∧ scope.covers old = true ∧
          sessionRow after id = some { old with revokedAt := some now })
      (complete : ∀ id row, sessionRow after id = some row → scope.covers row = true →
        row.revokedAt ≠ none) :
      Effect before after (.revoked scope)
  | renewed (row old : Session) (continued next : SessionId) (now : Int)
      (continues : Continues old row) (found : sessionRow before continued = some old)
      (marked : sessionRow after continued = some { old with rotatedAt := some now })
      (fresh : sessionRow before next = none) (inserted : sessionRow after next = some row)
      (same : ∀ id, id ≠ continued → id ≠ next → sessionRow after id = sessionRow before id) :
      Effect before after (.renewed row)

theorem effect_advances {before after : Rows} {note : Note} (effect : Effect before after note)
    (id : SessionId) (old : Session) (found : sessionRow before id = some old) :
    ∃ new, sessionRow after id = some new ∧ Advances old new := by
  cases effect with
  | nothing same => exact ⟨old, by rw [same, found], advances_refl old⟩
  | revoked scope changed =>
      rcases changed id with same | ⟨was, now, present, _, after⟩
      · exact ⟨old, by rw [same, found], advances_refl old⟩
      · rw [found, Option.some.injEq] at present
        subst present
        exact ⟨_, after, ⟨rfl, rfl, by simp, by simp⟩⟩
  | renewed row was continued next now continues present marked fresh inserted same =>
      by_cases isContinued : id = continued
      · subst isContinued
        rw [found, Option.some.injEq] at present
        subst present
        exact ⟨_, marked, ⟨rfl, rfl, by simp, by simp⟩⟩
      · have notNext : id ≠ next := by
          intro isNext
          rw [isNext, fresh] at found
          exact nomatch found
        exact ⟨old, by rw [same id isContinued notNext, found], advances_refl old⟩

/-- Nothing a past revocation covers is left unrevoked, and no later refresh
succeeded with a session it covers. -/
structure Beaten (rows : Rows) (log : List Finished) : Prop where
  revoked : ∀ finished scope, finished ∈ log → finished.note = .revoked scope →
    ∀ id row, sessionRow rows id = some row → scope.covers row = true → row.revokedAt ≠ none
  refused : ∀ earlier finished later scope, log = earlier ++ finished :: later →
    finished.note = .revoked scope → ∀ refreshed userId, refreshed ∈ later →
    refreshed.outcome = .ok userId →
    ∃ row, refreshed.note = .renewed row ∧ scope.covers row = false

/-- A session that appears with a transaction continues one of its family. -/
theorem effect_appears {before after : Rows} {note : Note} (effect : Effect before after note)
    {id : SessionId} {row : Session} (absent : sessionRow before id = none)
    (found : sessionRow after id = some row) :
    ∃ continued old, sessionRow before continued = some old ∧ Continues old row ∧
      ∃ now, sessionRow after continued = some { old with rotatedAt := some now } := by
  cases effect with
  | nothing same => simp [same, absent] at found
  | revoked scope changed =>
      rcases changed id with same | ⟨old, now, present, _⟩
      · simp [same, absent] at found
      · simp [absent] at present
  | renewed renewed old continued next now continues present marked fresh inserted same =>
      have notContinued : id ≠ continued := by
        intro isContinued
        rw [isContinued, present] at absent
        exact nomatch absent
      have isNext : id = next := by
        by_contra notNext
        rw [same id notContinued notNext, absent] at found
        exact nomatch found
      subst isNext
      rw [inserted, Option.some.injEq] at found
      subst found
      exact ⟨continued, old, present, continues, now, marked⟩

/-- Every session a scope covers stays revoked, its continuations included. -/
theorem effect_stays_revoked {before after : Rows} {note : Note}
    (effect : Effect before after note) {scope : Scope}
    (revoked : ∀ id row, sessionRow before id = some row → scope.covers row = true →
      row.revokedAt ≠ none) :
    ∀ id row, sessionRow after id = some row → scope.covers row = true →
      row.revokedAt ≠ none := by
  intro id row found covers
  cases present : sessionRow before id with
  | some old =>
      obtain ⟨new, stored, advances⟩ := effect_advances effect id old present
      rw [found, Option.some.injEq] at stored
      subst stored
      rw [covers_same advances.familyId advances.userId] at covers
      exact advances.revoked (revoked id old present covers)
  | none =>
      obtain ⟨continued, old, stored, continues, _⟩ := effect_appears effect present found
      rw [covers_same continues.familyId continues.userId] at covers
      exact absurd continues.unrevoked (revoked continued old stored covers)

theorem beaten_effect {before after : Rows} {log : List Finished} {finished : Finished}
    (beaten : Beaten before log) (effect : Effect before after finished.note)
    (renews : ∀ userId, finished.outcome = .ok userId → ∃ row, finished.note = .renewed row) :
    Beaten after (log ++ [finished]) := by
  constructor
  · intro entry scope member revoking
    rcases List.mem_append.mp member with past | new
    · exact effect_stays_revoked effect (beaten.revoked entry scope past revoking)
    · rw [List.mem_singleton] at new
      subst new
      rw [revoking] at effect
      cases effect with
      | revoked scope changed complete => exact complete
  · intro earlier entry later scope split revoking refreshed userId member succeeded
    rcases List.eq_nil_or_concat later with rfl | ⟨rest, last, rfl⟩
    · exact absurd member List.not_mem_nil
    · have shifted : log ++ [finished] = (earlier ++ entry :: rest) ++ [last] := by
        simpa using split
      obtain ⟨rfl, same⟩ := List.append_inj' shifted rfl
      rw [List.cons.injEq] at same
      obtain rfl := same.1
      rw [List.concat_eq_append, List.mem_append, List.mem_singleton] at member
      rcases member with past | rfl
      · exact beaten.refused earlier entry rest scope rfl revoking refreshed userId past succeeded
      · obtain ⟨row, renewed⟩ := renews userId succeeded
        refine ⟨row, renewed, ?_⟩
        rw [renewed] at effect
        cases effect with
        | renewed row old continued next now continues stored =>
            by_contra covers
            rw [Bool.not_eq_false, covers_same continues.familyId continues.userId] at covers
            exact beaten.revoked entry scope (by simp) revoking continued old stored covers
              continues.unrevoked

end Foc.Sessions
