import Mathlib
import Foc.Platform.LogMasking

/-!
The walk of the serializer over an error's causes and aggregated errors: it ends, meets every
error once and leaves out none. What it lets through unmasked.
-/
namespace Foc.Platform.Logging
open Library
open Library.Utf16 (Units)

section Parts

variable {Ref : Type}

/-- The values an error leads to. -/
def children (node : ErrorNode Ref) : List (Value Ref) :=
  node.cause.toList ++ node.errors.getD []

/-- The values that are reached from one through causes and aggregated errors. -/
inductive Reach (heap : Heap Ref) (root : Value Ref) : Value Ref → Prop where
  | here : Reach heap root root
  | child {ref : Ref} {value : Value Ref} (reach : Reach heap root (.error ref))
      (member : value ∈ children (heap ref)) : Reach heap root value

/-! ## One error -/

/-- What an output has of its own error, but for the children. -/
def ownStrings (heap : Heap Ref) (node : ErrorNode Ref) : List Units :=
  (described heap node none none).strings

theorem described_strings (heap : Heap Ref) (node : ErrorNode Ref) (cause : Option Out)
    (errors : Option (List Out)) {text : Units} :
    text ∈ (described heap node cause errors).strings ↔
      text ∈ ownStrings heap node ∨ text ∈ Out.causeStrings cause ∨
        text ∈ Out.errorStrings errors := by
  simp only [ownStrings, described, Out.strings, Out.causeStrings, Out.errorStrings,
    List.append_nil, List.mem_append, List.mem_cons]
  tauto

theorem own_message (heap : Heap Ref) (node : ErrorNode Ref) :
    nodeMessage heap node ∈ ownStrings heap node :=
  List.mem_append_left _ (List.mem_append_left _ List.mem_cons_self)

theorem masked_clean (value : Scalar) : ∀ text ∈ value.masked.strings, Clean text := by
  intro text member
  cases value with
  | text string =>
    rw [List.mem_singleton.mp member]
    exact mask_clean string
  | number value => cases member

theorem message_clean (heap : Heap Ref) (node : ErrorNode Ref) : Clean (nodeMessage heap node) := by
  unfold nodeMessage
  split <;> exact mask_clean _

theorem own_clean (heap : Heap Ref) (node : ErrorNode Ref) :
    ∀ text ∈ ownStrings heap node, Clean text := by
  intro text member
  simp only [ownStrings, described, Out.strings, Out.causeStrings, Out.errorStrings,
    List.append_nil, List.mem_append, List.mem_cons, Option.mem_toList, Option.map_eq_some_iff,
    List.mem_flatMap, List.mem_filterMap] at member
  rcases member with (rfl | ⟨stack, -, rfl⟩) | ⟨field, ⟨name, -, value, -, rfl⟩, there⟩
  · exact message_clean heap node
  · exact mask_clean _
  · exact masked_clean value text there

theorem circular_clean : Clean circular := clean_plain (by decide) (by decide) (by decide)

/-! ## Lists of values -/

variable {visit : Value Ref → List Ref → Option (Out × List Ref)} {values : List (Value Ref)}
  {seen after : List Ref} {outs : List Out}

/-- What holds of every string a visit gives holds of all of a walk's. -/
theorem walk_all {fact : Units → Prop}
    (each : ∀ value ∈ values, ∀ seen out after, visit value seen = some (out, after) →
      ∀ text ∈ out.strings, fact text)
    (walked : walk visit values seen = some (outs, after)) :
    ∀ text ∈ Out.stringsOf outs, fact text := by
  induction values generalizing seen outs with
  | nil =>
    cases walked
    intro text member
    cases member
  | cons value more ih =>
    obtain ⟨first, visited, rest⟩ := Option.bind_eq_some_iff.mp walked
    obtain ⟨later, onward, is⟩ := Option.map_eq_some_iff.mp rest
    cases is
    intro text member
    rcases List.mem_append.mp member with here | there
    · exact each value List.mem_cons_self seen first.1 first.2 visited text here
    · exact ih (fun value member => each value (List.mem_cons_of_mem _ member)) onward text there

theorem children_all {fact : Units → Prop} {node : ErrorNode Ref} {middle : List Ref}
    {cause : Option Out} {errors : Option (List Out)}
    (each : ∀ value ∈ children node, ∀ seen out after, visit value seen = some (out, after) →
      ∀ text ∈ out.strings, fact text)
    (first : walkCause visit node.cause seen = some (cause, middle))
    (then_ : walkErrors visit node.errors middle = some (errors, after)) :
    (∀ text ∈ Out.causeStrings cause, fact text) ∧ ∀ text ∈ Out.errorStrings errors, fact text := by
  constructor
  · cases is : node.cause with
    | none =>
      rw [is] at first
      cases first
      intro text member
      cases member
    | some value =>
      rw [is] at first
      obtain ⟨given, visited, same⟩ := Option.map_eq_some_iff.mp first
      cases same
      have member : value ∈ children node := List.mem_append_left _ (by simp [is])
      exact each value member seen given.1 given.2 visited
  · cases is : node.errors with
    | none =>
      rw [is] at then_
      cases then_
      intro text member
      cases member
    | some values =>
      rw [is] at then_
      obtain ⟨given, walked, same⟩ := Option.map_eq_some_iff.mp then_
      cases same
      refine walk_all ?_ walked
      intro value member
      exact each value (List.mem_append_right _ (by simp [is, member]))

end Parts

section Walk

variable {Ref : Type} [DecidableEq Ref] {heap : Heap Ref} {root value : Value Ref}
  {values : List (Value Ref)} {seen after : List Ref} {out : Out} {fuel : Nat} {ref : Ref}

/-- How an error is serialized: it was met before, or its children are walked. -/
inductive Visit (heap : Heap Ref) (fuel : Nat) (ref : Ref) (seen : List Ref) :
    Out → List Ref → Prop where
  | met (member : ref ∈ seen) : Visit heap fuel ref seen (.text circular) seen
  | new {middle after : List Ref} {cause : Option Out} {errors : Option (List Out)}
      (absent : ref ∉ seen)
      (first : walkCause (serializeFrom heap fuel) (heap ref).cause (ref :: seen) =
        some (cause, middle))
      (then_ : walkErrors (serializeFrom heap fuel) (heap ref).errors middle =
        some (errors, after)) :
      Visit heap fuel ref seen (described heap (heap ref) cause errors) after

theorem serialize_error :
    serializeFrom heap (fuel + 1) (.error ref) seen = some (out, after) ↔
      Visit heap fuel ref seen out after := by
  rw [serializeFrom]
  constructor
  · intro is
    split at is
    · rename_i member
      cases is
      exact .met member
    · rename_i absent
      obtain ⟨cause, first, rest⟩ := Option.bind_eq_some_iff.mp is
      obtain ⟨errors, then_, is⟩ := Option.map_eq_some_iff.mp rest
      cases is
      exact .new absent first then_
  · intro visit
    cases visit with
    | met member => rw [if_pos member]
    | new absent first then_ =>
      rw [if_neg absent, first, Option.bind_some, then_, Option.map_some]

/-! ## What comes out -/

/-- A string that comes out is clean, or was let through in a value that is reached. -/
def Explained (heap : Heap Ref) (root : Value Ref) (text : Units) : Prop :=
  Clean text ∨ ∃ plain, Reach heap root (.plain plain) ∧ text ∈ plain.data.strings

theorem serialize_explained (reach : Reach heap root value)
    (serialized : serializeFrom heap fuel value seen = some (out, after)) :
    ∀ text ∈ out.strings, Explained heap root text := by
  induction fuel generalizing value seen out after with
  | zero => cases serialized
  | succ fuel ih =>
    cases value with
    | text string =>
      cases serialized
      intro text member
      rw [List.mem_singleton.mp member]
      exact .inl (mask_clean string)
    | plain plain =>
      cases serialized
      intro text member
      exact .inr ⟨plain, reach, member⟩
    | error ref =>
      cases serialize_error.mp serialized with
      | met member =>
        intro text there
        rw [List.mem_singleton.mp there]
        exact .inl circular_clean
      | new absent first then_ =>
        obtain ⟨early, late⟩ := children_all (fun value member seen out after =>
          ih (reach.child member)) first then_
        intro text member
        rcases (described_strings ..).mp member with own | cause | errors
        · exact .inl (own_clean heap _ text own)
        · exact early text cause
        · exact late text errors

/-! ## Every error is met -/

/-- What a value that is met leaves: an error is among those seen, and a value that is let
through is in the output. -/
def Settled (after : List Ref) (strings : List Units) : Value Ref → Prop
  | .text _ => True
  | .plain plain => plain.data.strings ⊆ strings
  | .error ref => ref ∈ after

/-- The errors met between two moments are in the output, and so are all their children. -/
structure Told (heap : Heap Ref) (before after : List Ref) (strings : List Units) : Prop where
  grows : before ⊆ after
  own : ∀ ref ∈ after, ref ∉ before → nodeMessage heap (heap ref) ∈ strings
  inner : ∀ ref ∈ after, ref ∉ before → ∀ child ∈ children (heap ref), Settled after strings child

variable {strings more : List Units} {before middle : List Ref}

omit [DecidableEq Ref] in
theorem Settled.mono (settled : Settled middle strings value) (grows : middle ⊆ after)
    (kept : strings ⊆ more) : Settled after more value := by
  cases value with
  | text string => trivial
  | plain plain => exact List.Subset.trans settled kept
  | error ref => exact grows settled

omit [DecidableEq Ref] in
theorem Told.refl (heap : Heap Ref) (seen : List Ref) : Told heap seen seen strings where
  grows := List.Subset.refl _
  own _ member absent := absurd member absent
  inner _ member absent := absurd member absent

theorem Told.trans {others : List Units} (first : Told heap before middle strings)
    (second : Told heap middle after others) (one : strings ⊆ more) (two : others ⊆ more) :
    Told heap before after more where
  grows := List.Subset.trans first.grows second.grows
  own := by
    intro ref member absent
    by_cases early : ref ∈ middle
    · exact one (first.own ref early absent)
    · exact two (second.own ref member early)
  inner := by
    intro ref member absent child there
    by_cases early : ref ∈ middle
    · exact (first.inner ref early absent child there).mono second.grows one
    · exact (second.inner ref member early child there).mono (List.Subset.refl _) two

/-- What each value's visit tells. -/
def Tells (heap : Heap Ref) (visit : Value Ref → List Ref → Option (Out × List Ref)) : Prop :=
  ∀ value seen out after, visit value seen = some (out, after) →
    Told heap seen after out.strings ∧ Settled after out.strings value

variable {visit : Value Ref → List Ref → Option (Out × List Ref)}

theorem walk_tells (tells : Tells heap visit) {outs : List Out}
    (walked : walk visit values seen = some (outs, after)) :
    Told heap seen after (Out.stringsOf outs) ∧
      ∀ value ∈ values, Settled after (Out.stringsOf outs) value := by
  induction values generalizing seen outs with
  | nil =>
    cases walked
    exact ⟨Told.refl heap _, List.forall_mem_nil _⟩
  | cons value rest ih =>
    obtain ⟨first, visited, later⟩ := Option.bind_eq_some_iff.mp walked
    obtain ⟨onward, done_, is⟩ := Option.map_eq_some_iff.mp later
    cases is
    obtain ⟨told, settled⟩ := tells value seen first.1 first.2 visited
    obtain ⟨others, all⟩ := ih done_
    have one : first.1.strings ⊆ Out.stringsOf (first.1 :: onward.1) :=
      List.subset_append_left _ _
    have two : Out.stringsOf onward.1 ⊆ Out.stringsOf (first.1 :: onward.1) :=
      List.subset_append_right _ _
    refine ⟨told.trans others one two, ?_⟩
    rw [List.forall_mem_cons]
    refine ⟨settled.mono others.grows one, ?_⟩
    intro other member
    exact (all other member).mono (List.Subset.refl _) two

theorem children_tell (tells : Tells heap visit) {node : ErrorNode Ref} {cause : Option Out}
    {errors : Option (List Out)} (first : walkCause visit node.cause seen = some (cause, middle))
    (then_ : walkErrors visit node.errors middle = some (errors, after)) :
    Told heap seen after (Out.causeStrings cause ++ Out.errorStrings errors) ∧
      ∀ child ∈ children node,
        Settled after (Out.causeStrings cause ++ Out.errorStrings errors) child := by
  have early : Told heap seen middle (Out.causeStrings cause) ∧
      ∀ child ∈ node.cause.toList, Settled middle (Out.causeStrings cause) child := by
    cases is : node.cause with
    | none =>
      rw [is] at first
      cases first
      exact ⟨Told.refl heap _, List.forall_mem_nil _⟩
    | some value =>
      rw [is] at first
      obtain ⟨given, visited, same⟩ := Option.map_eq_some_iff.mp first
      cases same
      obtain ⟨told, settled⟩ := tells value seen given.1 given.2 visited
      exact ⟨told, List.forall_mem_singleton.mpr settled⟩
  have late : Told heap middle after (Out.errorStrings errors) ∧
      ∀ child ∈ node.errors.getD [], Settled after (Out.errorStrings errors) child := by
    cases is : node.errors with
    | none =>
      rw [is] at then_
      cases then_
      exact ⟨Told.refl heap _, List.forall_mem_nil _⟩
    | some values =>
      rw [is] at then_
      obtain ⟨given, walked, same⟩ := Option.map_eq_some_iff.mp then_
      cases same
      exact walk_tells tells walked
  have one : Out.causeStrings cause ⊆ Out.causeStrings cause ++ Out.errorStrings errors :=
    List.subset_append_left _ _
  have two : Out.errorStrings errors ⊆ Out.causeStrings cause ++ Out.errorStrings errors :=
    List.subset_append_right _ _
  refine ⟨early.1.trans late.1 one two, ?_⟩
  intro child member
  rcases List.mem_append.mp member with cause | error
  · exact (early.2 child cause).mono late.1.grows one
  · exact (late.2 child error).mono (List.Subset.refl _) two

theorem serialize_tells (fuel : Nat) : Tells heap (serializeFrom heap fuel) := by
  induction fuel with
  | zero =>
    intro value seen out after is
    cases is
  | succ fuel ih =>
    intro value seen out after is
    cases value with
    | text string =>
      cases is
      exact ⟨Told.refl heap _, trivial⟩
    | plain plain =>
      cases is
      exact ⟨Told.refl heap _, List.Subset.refl _⟩
    | error ref =>
      cases serialize_error.mp is with
      | met member => exact ⟨Told.refl heap _, member⟩
      | @new _ _ cause errors absent first then_ =>
        obtain ⟨told, settled⟩ := children_tell ih first then_
        have kept : Out.causeStrings cause ++ Out.errorStrings errors ⊆
            (described heap (heap ref) cause errors).strings := by
          intro text member
          exact (described_strings ..).mpr (.inr (List.mem_append.mp member))
        have here : nodeMessage heap (heap ref) ∈
            (described heap (heap ref) cause errors).strings :=
          (described_strings ..).mpr (.inl (own_message heap _))
        refine ⟨⟨?_, ?_, ?_⟩, told.grows List.mem_cons_self⟩
        · exact fun other member => told.grows (List.mem_cons_of_mem _ member)
        · intro other member unseen
          by_cases same : other = ref
          · rw [same]
            exact here
          · refine kept (told.own other member ?_)
            rw [List.mem_cons, not_or]
            exact ⟨same, unseen⟩
        · intro other member unseen child there
          by_cases same : other = ref
          · rw [same] at there
            exact (settled child there).mono (List.Subset.refl _) kept
          · refine (told.inner other member ?_ child there).mono (List.Subset.refl _) kept
            rw [List.mem_cons, not_or]
            exact ⟨same, unseen⟩

/-- Everything that is reached is met. -/
theorem reach_settled (serialized : serializeFrom heap fuel root [] = some (out, after))
    (reach : Reach heap root value) : Settled after out.strings value := by
  obtain ⟨told, settled⟩ := serialize_tells fuel root [] out after serialized
  induction reach with
  | here => exact settled
  | child reach member ih => exact told.inner _ ih List.not_mem_nil _ member

/-- An error that is reached is in the output by its message. -/
theorem reach_message (serialized : serializeFrom heap fuel root [] = some (out, after))
    (reach : Reach heap root (.error ref)) : nodeMessage heap (heap ref) ∈ out.strings := by
  obtain ⟨told, -⟩ := serialize_tells fuel root [] out after serialized
  exact told.own ref (reach_settled serialized reach) List.not_mem_nil

/-! ## The walk ends -/

section Ending

variable [Fintype Ref]

/-- A visit that has fuel for the errors that were not seen ends, and none is seen twice. -/
def Ends (fuel : Nat) (visit : Value Ref → List Ref → Option (Out × List Ref)) : Prop :=
  ∀ value seen, seen.Nodup → Fintype.card Ref < fuel + seen.length →
    ∃ out after, visit value seen = some (out, after) ∧ after.Nodup ∧ seen.length ≤ after.length

omit [DecidableEq Ref] in
theorem walk_ends (ends : Ends fuel visit) (values : List (Value Ref)) (once : seen.Nodup)
    (fuelled : Fintype.card Ref < fuel + seen.length) :
    ∃ outs after, walk visit values seen = some (outs, after) ∧ after.Nodup ∧
      seen.length ≤ after.length := by
  induction values generalizing seen with
  | nil => exact ⟨[], seen, rfl, once, Nat.le_refl _⟩
  | cons value rest ih =>
    obtain ⟨out, middle, visited, kept, longer⟩ := ends value seen once fuelled
    obtain ⟨outs, after, walked, still, on⟩ := ih kept (by omega)
    refine ⟨out :: outs, after, ?_, still, longer.trans on⟩
    rw [walk, visited, Option.bind_some, walked, Option.map_some]

omit [DecidableEq Ref] in
theorem cause_ends (ends : Ends fuel visit) (cause : Option (Value Ref)) (once : seen.Nodup)
    (fuelled : Fintype.card Ref < fuel + seen.length) :
    ∃ out after, walkCause visit cause seen = some (out, after) ∧ after.Nodup ∧
      seen.length ≤ after.length := by
  cases cause with
  | none => exact ⟨none, seen, rfl, once, Nat.le_refl _⟩
  | some value =>
    obtain ⟨out, after, visited, kept, longer⟩ := ends value seen once fuelled
    exact ⟨some out, after, by rw [walkCause, visited, Option.map_some], kept, longer⟩

omit [DecidableEq Ref] in
theorem errors_end (ends : Ends fuel visit) (errors : Option (List (Value Ref)))
    (once : seen.Nodup) (fuelled : Fintype.card Ref < fuel + seen.length) :
    ∃ out after, walkErrors visit errors seen = some (out, after) ∧ after.Nodup ∧
      seen.length ≤ after.length := by
  cases errors with
  | none => exact ⟨none, seen, rfl, once, Nat.le_refl _⟩
  | some values =>
    obtain ⟨outs, after, walked, kept, longer⟩ := walk_ends ends values once fuelled
    exact ⟨some outs, after, by rw [walkErrors, walked, Option.map_some], kept, longer⟩

theorem serialize_ends (fuel : Nat) : Ends fuel (serializeFrom heap fuel) := by
  induction fuel with
  | zero =>
    intro value seen once fuelled
    have most := once.length_le_card
    omega
  | succ fuel ih =>
    intro value seen once fuelled
    cases value with
    | text string => exact ⟨_, seen, rfl, once, Nat.le_refl _⟩
    | plain plain => exact ⟨_, seen, rfl, once, Nat.le_refl _⟩
    | error ref =>
      by_cases member : ref ∈ seen
      · exact ⟨_, seen, serialize_error.mpr (.met member), once, Nat.le_refl _⟩
      · have fresh : (ref :: seen).Nodup := List.nodup_cons.mpr ⟨member, once⟩
        have long : (ref :: seen).length = seen.length + 1 := rfl
        obtain ⟨cause, middle, first, kept, longer⟩ :=
          cause_ends ih (heap ref).cause fresh (by omega)
        obtain ⟨errors, after, then_, still, on⟩ :=
          errors_end ih (heap ref).errors kept (by omega)
        exact ⟨_, after, serialize_error.mpr (.new member first then_), still, by omega⟩

theorem serialize_some (heap : Heap Ref) (value : Value Ref) :
    ∃ out after, serializeFrom heap (Fintype.card Ref + 1) value [] = some (out, after) := by
  obtain ⟨out, after, is, -⟩ :=
    serialize_ends (Fintype.card Ref + 1) value [] List.nodup_nil (Nat.lt_succ_self _)
  exact ⟨out, after, is⟩

/-- Where a visit ends, another that knows all it does ends with the same. -/
def Extends (visit again : Value Ref → List Ref → Option (Out × List Ref)) : Prop :=
  ∀ value seen result, visit value seen = some result → again value seen = some result

omit [DecidableEq Ref] [Fintype Ref] in
theorem walk_extends {again : Value Ref → List Ref → Option (Out × List Ref)}
    (extends_ : Extends visit again) {result : List Out × List Ref}
    (walked : walk visit values seen = some result) : walk again values seen = some result := by
  induction values generalizing seen result with
  | nil => exact walked
  | cons value rest ih =>
    obtain ⟨first, visited, later⟩ := Option.bind_eq_some_iff.mp walked
    obtain ⟨onward, done_, is⟩ := Option.map_eq_some_iff.mp later
    rw [walk, extends_ _ _ _ visited, Option.bind_some, ih done_, Option.map_some, is]

omit [DecidableEq Ref] [Fintype Ref] in
theorem cause_extends {again : Value Ref → List Ref → Option (Out × List Ref)}
    (extends_ : Extends visit again) {cause : Option (Value Ref)}
    {result : Option Out × List Ref} (walked : walkCause visit cause seen = some result) :
    walkCause again cause seen = some result := by
  cases cause with
  | none => exact walked
  | some value =>
    obtain ⟨given, visited, is⟩ := Option.map_eq_some_iff.mp walked
    rw [walkCause, extends_ _ _ _ visited, Option.map_some, is]

omit [DecidableEq Ref] [Fintype Ref] in
theorem errors_extend {again : Value Ref → List Ref → Option (Out × List Ref)}
    (extends_ : Extends visit again) {errors : Option (List (Value Ref))}
    {result : Option (List Out) × List Ref} (walked : walkErrors visit errors seen = some result) :
    walkErrors again errors seen = some result := by
  cases errors with
  | none => exact walked
  | some values =>
    obtain ⟨given, visited, is⟩ := Option.map_eq_some_iff.mp walked
    rw [walkErrors, walk_extends extends_ visited, Option.map_some, is]

omit [Fintype Ref] in
/-- More fuel changes nothing. -/
theorem serialize_extends (fuel : Nat) :
    Extends (serializeFrom heap fuel) (serializeFrom heap (fuel + 1)) := by
  induction fuel with
  | zero =>
    intro value seen result is
    cases is
  | succ fuel ih =>
    intro value seen result is
    cases value with
    | text string => exact is
    | plain plain => exact is
    | error ref =>
      obtain ⟨out, after⟩ := result
      rw [serialize_error] at is ⊢
      cases is with
      | met member => exact .met member
      | new absent first then_ =>
        exact .new absent (cause_extends ih first) (errors_extend ih then_)

/-- With fuel for all the errors there are, the output is always the same. -/
theorem serialize_steady (heap : Heap Ref) (value : Value Ref) :
    ∃ out, ∀ fuel, Fintype.card Ref < fuel →
      (serializeFrom heap fuel value []).map Prod.fst = some out := by
  obtain ⟨out, after, first⟩ := serialize_some heap value
  have all : ∀ fuel, Fintype.card Ref + 1 ≤ fuel →
      serializeFrom heap fuel value [] = some (out, after) := by
    intro fuel enough
    induction fuel, enough using Nat.le_induction with
    | base => exact first
    | succ fuel enough ih => exact serialize_extends fuel value [] _ ih
  refine ⟨out, fun fuel enough => ?_⟩
  rw [all fuel enough, Option.map_some]

end Ending

end Walk

/-! ## A plain cause -/

def plainEmail : Units := units "a@b.co"

/-- An object without a message. -/
def detail : Plain := ⟨.object [(units "detail", .text plainEmail)], rfl⟩

/-- An error with that object as its cause. -/
def refused : Heap Unit := fun _ =>
  ⟨units "Error", units "refused", none, none, none, fun _ => none, some (.plain detail), none⟩

end Foc.Platform.Logging
