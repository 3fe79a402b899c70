import Foc.Supplier.Turns

/-!
Every program of the Supplier Service ends as its contract says, whatever other
programs commit between its statements.
-/
namespace Foc.Supplier
open Library Library.ReadCommitted Library.Transaction Library.Serial

section Programs

variable {settings : Settings} {origin : View Row} {call : Call settings.number} {moves : List (Move Row)}
  {store store' : Store Row} {env env' : Log settings.number}

abbrev EndsHere (settings : Settings) (origin : View Row) (call : Call settings.number) (moves : List (Move Row))
    (program : Tx Result) (store : Store Row) (env : Log settings.number) : Prop :=
  Ends (supplierService settings) (supplierContract settings origin) call moves program store env

abbrev SinceHere (settings : Settings) (origin : View Row) (moves : List (Move Row)) (store : Store Row)
    (env : Log settings.number) (store' : Store Row) (env' : Log settings.number) : Prop :=
  Since (supplierService settings) (supplierContract settings origin) moves store env store' env'

abbrev MayFail (settings : Settings) (origin : View Row) (call : Call settings.number) (moves : List (Move Row))
    (store : Store Row) (env : Log settings.number) : Prop :=
  Fails (supplierService settings) (supplierContract settings origin) call moves store env

/-! ## Statements -/

theorem kept_last (moves : List (Move Row)) {view : View Row} {key : Key}
    {found left : Option (Row key)} :
    wrote view (moves ++ [⟨key, found, left⟩]) key = left := by
  rw [wrote_append, wrote_cons, wrote_nil, Function.update_self]

theorem since_whole (since : SinceHere settings origin moves store env store' env') :
    Whole store'.lookup := reached_whole since.reached

/-- The lock of a key: nobody else's row can be in its place. -/
theorem ends_advisory {lock : Int} {rest : Unit → Tx Result}
    (goes : ∀ store' env', SinceHere settings origin [] store env store' env' →
      EndsHere settings origin call (lockMoves lock) (rest ()) store' env') :
    EndsHere settings origin call [] ((advisoryLock lock).bind rest) store env := by
  simp only [advisoryLock, insertNew, bind_eq, pure_eq, bind_bind]
  apply ends_insert
  · intro first firstEnv since _
    apply ends_lock
    · intro second secondEnv later cause
      rcases cause with skips | unwanted
      · cases skips
      · exact Bool.noConfusion (unwanted () (kept_last []))
    · intro second secondEnv row later _ _
      exact goes second secondEnv (since_trans since (since_narrow later))
  · intro first firstEnv old since present
    cases ((since_whole since).free lock).symm.trans present

theorem ends_find_idempotent {name : String} {rest : Option KeyRow → Tx Result}
    (goes : ∀ store' env', SinceHere settings origin moves store env store' env' →
      EndsHere settings origin call moves (rest (wrote store'.lookup moves (.idempotency name)))
        store' env') :
    EndsHere settings origin call moves ((findIdempotent name).bind rest) store env := by
  apply ends_select
  intro store' env' since
  have next := goes store' env' since
  rw [← seen_at] at next
  exact next

theorem ends_find_by_id {id : Uuid} {rest : Option SupplierRow → Tx Result}
    (goes : ∀ store' env', SinceHere settings origin moves store env store' env' →
      EndsHere settings origin call moves (rest (wrote store'.lookup moves (.supplier id))) store' env') :
    EndsHere settings origin call moves ((findById id).bind rest) store env := by
  apply ends_select
  intro store' env' since
  have next := goes store' env' since
  rw [← seen_at] at next
  exact next

theorem ends_delete_entry {name building : String} {rest : Unit → Tx Result}
    (goes : ∀ store' env' index, SinceHere settings origin moves store env store' env' →
      OnlyIndex index → EndsHere settings origin call (moves ++ index) (rest ()) store' env') :
    EndsHere settings origin call moves ((deleteEntry (.named name building)).bind rest) store env := by
  simp only [deleteEntry, bind_eq, pure_eq, bind_bind]
  apply ends_lock
  · intro first firstEnv since _
    have next := goes first firstEnv [] since (by simp [OnlyIndex])
    rw [List.append_nil] at next
    exact next
  · intro first firstEnv row since _ _
    exact goes first firstEnv _ since (by simp [OnlyIndex])

theorem ends_insert_supplier {row : SupplierRow} {rest : Unit → Tx Result}
    (fails : MayFail settings origin call moves store env)
    (goes : ∀ store' env', SinceHere settings origin moves store env store' env' →
      EndsHere settings origin call (moves ++ insertMoves settings row) (rest ()) store' env') :
    EndsHere settings origin call moves ((insertSupplier settings row).bind rest) store env := by
  simp only [insertSupplier, insertNew, bind_eq, pure_eq]
  split
  · exact ends_fail fails
  · apply ends_insert
    · intro first firstEnv since _
      apply ends_insert
      · intro second secondEnv later _
        have next := goes second secondEnv (since_trans since (since_narrow later))
        simpa [insertMoves] using next
      · intro second secondEnv old later _
        exact ends_fail (fails_since (fails_later fails since) later)
    · intro first firstEnv old since _
      exact ends_fail (fails_since fails since)

theorem ends_reindex {old new : SupplierRow} {rest : Unit → Tx Result}
    (fails : MayFail settings origin call moves store env)
    (goes : ∀ store' env' index, SinceHere settings origin moves store env store' env' →
      OnlyIndex index → EndsHere settings origin call (moves ++ index) (rest ()) store' env') :
    EndsHere settings origin call moves ((reindex settings old new).bind rest) store env := by
  have stays : EndsHere settings origin call moves (rest ()) store env := by
    intro reached fits
    have next := goes store env [] (since_refl reached fits) (by simp [OnlyIndex])
    rw [List.append_nil] at next
    exact next reached fits
  simp only [reindex]
  split
  · exact ends_fail fails
  split
  · exact stays
  split
  · exact ends_delete_entry goes
  split
  · exact stays
  simp only [insertNew, bind_eq, pure_eq, bind_bind]
  apply ends_delete_entry
  intro first firstEnv index since entries
  apply ends_insert
  · intro second secondEnv later _
    have next := goes second secondEnv
      (index ++ [⟨.named (settings.lower new.name) (settings.lower new.building), none,
        some new.supplierId⟩]) (since_trans since (since_narrow later))
    rw [← List.append_assoc] at next
    apply next
    intro move member
    rcases List.mem_append.mp member with earlier | last
    · exact entries move earlier
    · cases List.mem_singleton.mp last
      exact ⟨_, _, rfl⟩
  · intro second secondEnv held later _
    exact ends_fail (fails_since (fails_later fails since) later)

/-! ## Programs -/

theorem create_ends (body : Body settings.number) (key : Option String) (id : Uuid)
    (now : Millis) :
    EndsHere settings origin (.create body key id now) [] (create settings body key id now) store env := by
  cases keyed : keyOf key with
  | none =>
      have plain : create settings body key id now =
          (insertSupplier settings (newSupplier id body.input now)).bind fun _ =>
            .done (.created (newSupplier id body.input now)) := by
        unfold create
        rw [show key.filter (· ≠ "") = none from keyed]
        simp only [insertFresh, bind_eq, pure_eq, bind_bind]
        rfl
      rw [plain]
      apply ends_insert_supplier
      · intro error store' env' since name existing used
        cases keyed.symm.trans used
      · intro store' env' since
        apply ends_done
        intro last lastEnv later
        exact ⟨.created body key id now keyed, by simp⟩
  | some name =>
      unfold create
      rw [show key.filter (· ≠ "") = some name from keyed]
      simp only [bind_eq, pure_eq]
      apply ends_advisory
      intro first firstEnv since
      apply ends_find_idempotent
      intro second secondEnv later
      have locked : touched (lockMoves (settings.hashtext name))
          (.advisory (settings.hashtext name)) := by simp [lockMoves]
      have seenKey : wrote second.lookup (lockMoves (settings.hashtext name))
          (.idempotency name) = second.lookup (.idempotency name) := by simp [lockMoves]
      rw [seenKey]
      cases stored : second.lookup (.idempotency name) with
      | none =>
          simp only [insertFresh, claimIdempotencyKey, insertNew, bind_eq, pure_eq, bind_bind]
          have unused : ∀ {third thirdEnv},
              SinceHere settings origin (lockMoves (settings.hashtext name)) second secondEnv third thirdEnv →
              third.lookup (.idempotency name) = none := by
            intro third thirdEnv since
            exact (turns_locked since.turns locked).trans stored
          apply ends_insert_supplier
          · intro error third thirdEnv next used existing keyed' present
            cases keyed.symm.trans keyed'
            cases (unused next).symm.trans present
          · intro third thirdEnv next
            apply ends_insert
            · intro fourth fourthEnv last _
              apply ends_done
              intro fifth fifthEnv final
              have absent := unused
                (since_trans next (since_narrow (since_trans last (since_narrow final))))
              exact ⟨.createdUnder body key id now name keyed absent, by simp⟩
            · intro fourth fourthEnv old last present
              have absent := unused (since_trans next (since_narrow last))
              simp [lockMoves, insertMoves, absent] at present
      | some existing =>
          have used : ∀ {third thirdEnv},
              SinceHere settings origin (lockMoves (settings.hashtext name)) second secondEnv third thirdEnv →
              third.lookup (.idempotency name) = some existing :=
            fun since => turns_key since.turns stored
          dsimp only
          split
          · next differs =>
              apply ends_fail
              intro error third thirdEnv next other held keyed' present
              cases keyed.symm.trans keyed'
              cases (used next).symm.trans present
              exact differs
          · next differs =>
              have same := not_not.mp differs
              apply ends_find_by_id
              intro third thirdEnv next
              obtain ⟨row, stands⟩ := (since_whole next).kept name existing (used next)
              have found : wrote third.lookup (lockMoves (settings.hashtext name))
                  (.supplier existing.supplierId) = some row := by simpa [lockMoves] using stands
              rw [found]
              apply ends_done
              intro fourth fourthEnv last
              exact ⟨.replayed body key id now name keyed existing (used (since_trans next last)) same
                row ((since_whole next).named _ row stands), by simp⟩

theorem update_ends (id : Uuid) (expectedVersion : Int) (changes : Changes) (now : Millis) :
    EndsHere settings origin (.update id expectedVersion changes now) []
      (update settings id expectedVersion changes now) store env := by
  have fails : ∀ {moves : List (Move Row)} {store : Store Row} {env : Log settings.number},
      MayFail settings origin (.update id expectedVersion changes now) moves store env :=
    fun _ _ _ _ => trivial
  simp only [update, bind_eq, pure_eq]
  apply ends_lock
  · intro first firstEnv since _
    apply ends_find_by_id
    intro second secondEnv later
    split
    · exact ends_fail fails
    · exact ends_fail fails
  · intro first firstEnv old since found wanted
    have expected : old.version = expectedVersion := of_decide_eq_true wanted
    subst expected
    apply ends_reindex fails
    intro second secondEnv index later entries
    apply ends_done
    intro third thirdEnv last
    exact ⟨.updated id changes now old index entries, by simp⟩

theorem deactivate_ends (id : Uuid) (expectedVersion : Int) (now : Millis) :
    EndsHere settings origin (.deactivate id expectedVersion now) []
      (deactivate settings id expectedVersion now) store env := by
  have fails : ∀ {moves : List (Move Row)} {store : Store Row} {env : Log settings.number},
      MayFail settings origin (.deactivate id expectedVersion now) moves store env :=
    fun _ _ _ _ => trivial
  simp only [deactivate, bind_eq, pure_eq]
  apply ends_lock
  · intro first firstEnv since _
    apply ends_find_by_id
    intro second secondEnv later
    cases found : wrote second.lookup [] (.supplier id) with
    | none => exact ends_fail fails
    | some current =>
        dsimp only
        split
        · next repeated =>
            obtain ⟨inactive, expected⟩ := (Bool.and_eq_true _ _).mp repeated
            have same : current.version = expectedVersion := of_decide_eq_true expected
            subst same
            apply ends_done
            intro third thirdEnv last
            obtain ⟨stored, present, advances⟩ := turns_row last.turns found
            have off : current.active = false := by simpa using inactive
            refine ⟨.unchanged id now current stored off present (advances.inactive off)
              advances.later advances.same, fun row is => ?_⟩
            cases is
            exact known_later (reached_known later.reached found) (turns_log last.turns)
        · exact ends_fail fails
  · intro first firstEnv old since found wanted
    obtain ⟨expected, active⟩ := (Bool.and_eq_true _ _).mp wanted
    have same : old.version = expectedVersion := of_decide_eq_true expected
    subst same
    apply ends_reindex fails
    intro second secondEnv index later entries
    apply ends_done
    intro third thirdEnv last
    exact ⟨.deactivated id now old active index entries, by simp⟩

variable (settings origin) in
/-- Calls interleaved in any way do what they would do one at a time. -/
theorem supplier_sound :
    (supplierService settings).Sound
      (serialProtocol (supplierService settings) (supplierContract settings origin))
      (serialPost (supplierContract settings origin)) := by
  apply serial_sound
  intro store env call reached starts
  cases call with
  | create body key id now => exact create_ends body key id now
  | update id version changes now => exact update_ends id version changes now
  | deactivate id version now => exact deactivate_ends id version now

end Programs

end Foc.Supplier
