import Mathlib
import Foc.Platform.ErrorWalk

/-!
The values bound to a failed query, and what is logged of the error: two heaps that differ in
nothing else are serialized alike, where no such error is the cause of one that carries its query.
-/
namespace Foc.Platform.Logging
open Library
open Library.Utf16 (Units)

/-! ## Failed queries -/

/-- What stands before the message in a stack: the message of a failed query begins nowhere in it,
as it does not in the name of an error and a colon. -/
structure Header where
  units : Units
  apart : ∀ before after, units = before ++ after → after ≠ [] →
    ¬ failedQuery <+: after ++ failedQuery

section Drizzle

variable {Ref : Type}

/-- The message that the query builder gives. -/
def drizzleMessage (query values : Units) : Units := failedQuery ++ query ++ paramsMark ++ values

/-- An error of the query builder: its query, the values, their text in the message, and a stack
that begins with the message. -/
def drizzle (base : ErrorNode Ref) (query : Units) (stack : Option (Header × Units)) (params : Data)
    (values : Units) : ErrorNode Ref :=
  { base with
    message := drizzleMessage query values
    query := some query
    params := some params
    stack := stack.map fun parts => parts.1.units ++ drizzleMessage query values ++ parts.2 }

def IsDrizzle (node : ErrorNode Ref) : Prop :=
  ∃ base query stack params values, node = drizzle base query stack params values

/-- Two errors that differ in nothing but the bound values of a failed query. -/
inductive Rebound : ErrorNode Ref → ErrorNode Ref → Prop where
  | same (node : ErrorNode Ref) : Rebound node node
  | values (base : ErrorNode Ref) (query : Units) (stack : Option (Header × Units))
      (params others : Data) (one two : Units) :
      Rebound (drizzle base query stack params one) (drizzle base query stack others two)

def Rebinds (heap other : Heap Ref) : Prop := ∀ ref, Rebound (heap ref) (other ref)

/-- It is named by its query: it has one, and values. -/
def Carries (node : ErrorNode Ref) : Prop := node.query.isSome ∧ node.params.isSome

/-- No error that is reached and carries its query has a failed query as its cause. -/
def Unnested (heap : Heap Ref) (root : Value Ref) : Prop :=
  ∀ ref, Reach heap root (.error ref) → Carries (heap ref) →
    ∀ cause, (heap ref).cause = some (.error cause) → ¬ IsDrizzle (heap cause)

variable {heap other : Heap Ref} {root : Value Ref} {ref : Ref} {node changed : ErrorNode Ref}

theorem drizzle_carries (base : ErrorNode Ref) (query : Units) (stack : Option (Header × Units))
    (params : Data) (values : Units) : Carries (drizzle base query stack params values) :=
  ⟨rfl, rfl⟩

theorem Rebound.children (rebound : Rebound node changed) : children changed = children node := by
  cases rebound <;> rfl

theorem Rebound.errors (rebound : Rebound node changed) : changed.errors = node.errors := by
  cases rebound <;> rfl

theorem Rebound.cause (rebound : Rebound node changed) : changed.cause = node.cause := by
  cases rebound <;> rfl

theorem Rebound.carries (rebound : Rebound node changed) (carries : Carries node) :
    Carries changed := by
  cases rebound with
  | same => exact carries
  | values => exact drizzle_carries ..

theorem Rebound.kept (rebound : Rebound node changed) (plain : ¬ IsDrizzle node) :
    changed = node := by
  cases rebound with
  | same => rfl
  | values base query stack params others one two =>
    exact absurd ⟨base, query, stack, params, one, rfl⟩ plain

theorem reach_rebound {value : Value Ref} (rebinds : Rebinds heap other)
    (reach : Reach heap root value) : Reach other root value := by
  induction reach with
  | here => exact .here
  | @child ref value _ member ih =>
    refine ih.child ?_
    rw [(rebinds ref).children]
    exact member

/-! ## Messages and stacks -/

theorem replace_head (header : Units) (rest query values mark : Units)
    (apart : ∀ before after, header = before ++ after → after ≠ [] →
      ¬ failedQuery <+: after ++ failedQuery) :
    replaceFirst (drizzleMessage query values) mark
        (header ++ drizzleMessage query values ++ rest) = header ++ mark ++ rest := by
  induction header with
  | nil =>
    have begins : drizzleMessage query values <+: drizzleMessage query values ++ rest :=
      List.prefix_append _ _
    rw [List.nil_append, List.nil_append]
    cases is : drizzleMessage query values ++ rest with
    | nil =>
      have empty := (List.append_eq_nil_iff.mp is).1
      cases empty
    | cons first more =>
      rw [is] at begins
      rw [replaceFirst, if_pos begins, ← is, List.drop_left]
  | cons first more ih =>
    have late : ¬ drizzleMessage query values <+:
        first :: (more ++ drizzleMessage query values ++ rest) := by
      intro early
      have start : failedQuery <+: drizzleMessage query values := ⟨query ++ paramsMark ++ values, by
        simp [drizzleMessage]⟩
      have shared : (first :: more) ++ failedQuery <+:
          first :: (more ++ drizzleMessage query values ++ rest) :=
        ⟨query ++ paramsMark ++ values ++ rest, by simp [drizzleMessage]⟩
      refine apart [] (first :: more) rfl (List.cons_ne_nil _ _) ?_
      refine List.prefix_of_prefix_length_le (start.trans early) shared ?_
      rw [List.length_append]
      exact Nat.le_add_left _ _
    have onward := ih fun before after is some_ => by
      refine apart (first :: before) after ?_ some_
      rw [is]
      rfl
    rw [List.cons_append, List.cons_append, replaceFirst, if_neg late, onward]
    rfl

theorem drizzle_begins (query values : Units) :
    units "Failed query" <+: drizzleMessage query values := by
  have start : units "Failed query" <+: failedQuery := by decide
  exact start.trans ⟨query ++ paramsMark ++ values, by simp [drizzleMessage]⟩

theorem reason_error {cause : Ref} (is : node.cause = some (.error cause)) :
    reasonOf heap node = units ": " ++ (heap cause).message := by
  rw [reasonOf, is]

theorem reason_own (none_ : ∀ cause, node.cause ≠ some (.error cause)) :
    reasonOf heap node =
      if units "Failed query" <+: node.message then [] else units ": " ++ node.message := by
  unfold reasonOf
  split
  · rename_i cause is
    exact absurd is (none_ cause)
  · rfl

theorem carried_message {query : Units} (is : node.query = some query)
    (carries : Carries node) :
    nodeMessage heap node = maskPersonalData (failedQuery ++ query ++ reasonOf heap node) := by
  obtain ⟨params, bound⟩ := Option.isSome_iff_exists.mp carries.2
  rw [nodeMessage, is, bound]

/-- The causes whose message is quoted have it in both heaps. -/
def Quoted (heap other : Heap Ref) (node : ErrorNode Ref) : Prop :=
  Carries node → ∀ cause, node.cause = some (.error cause) →
    (other cause).message = (heap cause).message

theorem reason_rebound (rebound : Rebound node changed) (carries : Carries node)
    (quoted : Quoted heap other node) : reasonOf other changed = reasonOf heap node := by
  by_cases some_ : ∃ cause, node.cause = some (.error cause)
  · obtain ⟨cause, is⟩ := some_
    have also := rebound.cause.trans is
    rw [reason_error is, reason_error also, quoted carries cause is]
  · have none_ : ∀ cause, node.cause ≠ some (.error cause) := fun cause is => some_ ⟨cause, is⟩
    have also : ∀ cause, changed.cause ≠ some (.error cause) := by
      rw [rebound.cause]
      exact none_
    rw [reason_own none_, reason_own also]
    cases rebound with
    | same => rfl
    | values base query stack params others one two =>
      exact (if_pos (drizzle_begins query two)).trans (if_pos (drizzle_begins query one)).symm

theorem message_rebound (rebound : Rebound node changed) (quoted : Quoted heap other node) :
    nodeMessage other changed = nodeMessage heap node := by
  by_cases carries : Carries node
  · obtain ⟨query, is⟩ := Option.isSome_iff_exists.mp carries.1
    have also : changed.query = some query := by
      cases rebound <;> exact is
    rw [carried_message is carries, carried_message also (rebound.carries carries),
      reason_rebound rebound carries quoted]
  · cases rebound with
    | values => exact absurd (drizzle_carries ..) carries
    | same =>
      unfold nodeMessage
      split
      · rename_i query params is bound
        exact absurd ⟨by rw [is]; rfl, by rw [bound]; rfl⟩ carries
      · rfl

/-- An error's own part of the output is the same. -/
theorem described_rebound (rebound : Rebound node changed) (quoted : Quoted heap other node)
    (cause : Option Out) (errors : Option (List Out)) :
    described other changed cause errors = described heap node cause errors := by
  have message := message_rebound rebound quoted
  unfold described
  rw [message]
  cases rebound with
  | same => rfl
  | values base query stack params others one two =>
    cases stack with
    | none => rfl
    | some parts =>
      have first := replace_head parts.1.units parts.2 query one
        (nodeMessage heap (drizzle base query (some parts) params one)) parts.1.apart
      have second := replace_head parts.1.units parts.2 query two
        (nodeMessage heap (drizzle base query (some parts) params one)) parts.1.apart
      dsimp only [drizzle, Option.map_some] at first second ⊢
      rw [first, second]

end Drizzle

/-! ## Two runs -/

section Runs

variable {Ref : Type} [DecidableEq Ref] {heap other : Heap Ref} {root value : Value Ref}
  {ref : Ref} {seen after : List Ref} {out : Out} {fuel : Nat}

section Visits

variable {visit again : Value Ref → List Ref → Option (Out × List Ref)}

omit [DecidableEq Ref] in
theorem walk_congr {values : List (Value Ref)}
    (alike : ∀ value ∈ values, ∀ seen, again value seen = visit value seen) (seen : List Ref) :
    walk again values seen = walk visit values seen := by
  induction values generalizing seen with
  | nil => rfl
  | cons value rest ih =>
    obtain ⟨here, later⟩ := List.forall_mem_cons.mp alike
    rw [walk, walk, here]
    congr 1
    funext first
    rw [ih later]

omit [DecidableEq Ref] in
theorem cause_congr {node : ErrorNode Ref}
    (alike : ∀ value ∈ children node, ∀ seen, again value seen = visit value seen)
    (seen : List Ref) : walkCause again node.cause seen = walkCause visit node.cause seen := by
  cases is : node.cause with
  | none => rfl
  | some value =>
    have member : value ∈ children node := List.mem_append_left _ (by simp [is])
    rw [walkCause, walkCause, alike value member]

omit [DecidableEq Ref] in
theorem errors_congr {node : ErrorNode Ref}
    (alike : ∀ value ∈ children node, ∀ seen, again value seen = visit value seen)
    (seen : List Ref) : walkErrors again node.errors seen = walkErrors visit node.errors seen := by
  cases is : node.errors with
  | none => rfl
  | some values =>
    rw [walkErrors, walkErrors, walk_congr]
    intro value member
    exact alike value (List.mem_append_right _ (by simp [is, member]))

end Visits

omit [DecidableEq Ref] in
theorem unnested_quoted (rebinds : Rebinds heap other) (unnested : Unnested heap root)
    (reach : Reach heap root (.error ref)) : Quoted heap other (heap ref) := by
  intro carries cause is
  rw [(rebinds cause).kept (unnested ref reach carries cause is)]

theorem serialize_rebound (rebinds : Rebinds heap other) (unnested : Unnested heap root)
    (reach : Reach heap root value) (seen : List Ref) :
    serializeFrom other fuel value seen = serializeFrom heap fuel value seen := by
  induction fuel generalizing value seen with
  | zero => rfl
  | succ fuel ih =>
    cases value with
    | text string => rfl
    | plain plain => rfl
    | error ref =>
      have alike : ∀ child ∈ children (heap ref), ∀ seen,
          serializeFrom other fuel child seen = serializeFrom heap fuel child seen :=
        fun child member seen => ih (reach.child member) seen
      have quoted := unnested_quoted rebinds unnested reach
      rw [serializeFrom, serializeFrom, (rebinds ref).cause, (rebinds ref).errors]
      split
      · rfl
      · rw [cause_congr alike]
        congr 1
        funext cause
        rw [errors_congr alike]
        congr 1
        funext errors
        rw [described_rebound (rebinds ref) quoted]

/-- The heap in which one failed query was bound to values of as many spaces. -/
theorem rebinds_update {cause : Ref} {base : ErrorNode Ref} {query : Units}
    {stack : Option (Header × Units)} {params : Data} {values : Units}
    (is : heap cause = drizzle base query stack params values) (longer : Units) :
    Rebinds heap (Function.update heap cause (drizzle base query stack params longer)) := by
  intro ref
  by_cases same : ref = cause
  · rw [same, Function.update_self, is]
    exact .values base query stack params params values longer
  · rw [Function.update_of_ne same]
    exact .same _

omit [DecidableEq Ref] in
/-- An error that quotes a failed query shows the spaces that were bound to it. -/
theorem quoted_spaces {cause : Ref} (carries : Carries (heap ref))
    (is : (heap ref).cause = some (.error cause)) :
    (heap cause).message.count 32 ≤ (nodeMessage heap (heap ref)).count 32 := by
  obtain ⟨query, named⟩ := Option.isSome_iff_exists.mp carries.1
  rw [carried_message named carries, reason_error is, mask_spaces, List.count_append,
    List.count_append, List.count_append]
  exact Nat.le_trans (Nat.le_add_left _ _) (Nat.le_add_left _ _)

section Theorem

variable [Fintype Ref] (stringOf : Plain → Units)

theorem unnested_of_alike
    (alike : ∀ other, Rebinds heap other → serializeError other root = serializeError heap root) :
    Unnested heap root := by
  intro ref reach carries cause is nested
  obtain ⟨base, query, stack, params, values, node⟩ := nested
  obtain ⟨out, after, serialized⟩ := serialize_some heap root
  -- More spaces than any string of the output has.
  let many := (out.strings.map (·.count 32)).sum + 1
  have rebinds := rebinds_update node (List.replicate many 32)
  generalize changed : Function.update heap cause
    (drizzle base query stack params (List.replicate many 32)) = other at rebinds
  obtain ⟨again, later, onward⟩ := serialize_some other root
  have same : again = out := by
    have equal := alike other rebinds
    rw [serializeError, serializeError, serialized, onward] at equal
    exact Option.some.inj equal
  have shown := reach_message onward (reach_rebound rebinds reach)
  rw [same] at shown
  have spaces := quoted_spaces ((rebinds ref).carries carries) ((rebinds ref).cause.trans is)
  have message : (other cause).message = drizzleMessage query (List.replicate many 32) := by
    rw [← changed, Function.update_self]
    rfl
  have bound : many ≤ (other cause).message.count 32 := by
    rw [message, drizzleMessage, List.count_append, List.count_replicate_self]
    exact Nat.le_add_left _ _
  have most := List.le_sum_of_mem (List.mem_map_of_mem (f := (·.count 32)) shown)
  omega

omit [DecidableEq Ref] [Fintype Ref] in
theorem message_alike (rebinds : Rebinds heap other) (unnested : Unnested heap root) :
    errorMessage stringOf other root = errorMessage stringOf heap root := by
  cases root with
  | text string => rfl
  | plain plain => rfl
  | error ref => exact message_rebound (rebinds ref) (unnested_quoted rebinds unnested .here)

/-- The serializer ends. Heaps that differ in bound values alone are logged alike exactly where no
error that is reached and carries its query has a failed query as its cause. -/
theorem bound_values_hidden (stringOf : Plain → Units) (heap : Heap Ref) (root : Value Ref) :
    (∃ out, ∀ fuel, Fintype.card Ref < fuel →
      (serializeFrom heap fuel root []).map Prod.fst = some out) ∧
    ((∀ other, Rebinds heap other →
      serializeError other root = serializeError heap root ∧
        errorMessage stringOf other root = errorMessage stringOf heap root) ↔
      Unnested heap root) := by
  refine ⟨serialize_steady heap root, ?_⟩
  constructor
  · intro alike
    exact unnested_of_alike fun other rebinds => (alike other rebinds).1
  · intro unnested other rebinds
    refine ⟨?_, message_alike stringOf rebinds unnested⟩
    rw [serializeError, serializeError, serialize_rebound rebinds unnested .here]

end Theorem

end Runs

/-! ## A failed query as the cause of another -/

def bareNode (cause : Option (Value Bool)) : ErrorNode Bool :=
  ⟨units "Error", [], none, none, none, fun _ => none, cause, none⟩

/-- Two failed queries, the second bound to some values. -/
def nested (values : Units) : Heap Bool := fun outer =>
  if outer then drizzle (bareNode (some (.error false))) (units "q") none .null []
  else drizzle (bareNode none) (units "r") none .null values

theorem nested_rebinds (one two : Units) : Rebinds (nested one) (nested two) := by
  intro outer
  cases outer with
  | true => exact .same _
  | false => exact .values (bareNode none) (units "r") none .null .null one two

theorem values_shown : ¬ ∀ (stringOf : Plain → Units) (heap other : Heap Bool) (root : Value Bool),
    Rebinds heap other → serializeError other root = serializeError heap root ∧
      errorMessage stringOf other root = errorMessage stringOf heap root := by
  intro all
  have same := (all (fun _ => []) (nested (units "Ann")) (nested (units "Ben")) (.error true)
    (nested_rebinds _ _)).2
  revert same
  decide

end Foc.Platform.Logging
