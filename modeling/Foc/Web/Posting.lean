import Mathlib
import Foc.Library.EventLoop
import Foc.Web.Composer

/-!
Posting a draft (`request/new/review/page.tsx`). A draft's key and the first body sent under it
outlive edits, reloads and lost answers: a later submission that the key is refused to replays
that body, to find the errand an answer was lost of.
-/
namespace Foc.Web.Posting
open Library Library.EventLoop Composer

/-! ## Failures -/

structure ApiError where
  status : Nat
  code : String
  message : String
  details : List (String × String)
  deriving DecidableEq, Repr

inductive SubmitFailure where
  | supplier (message : String)
  | fields (errors : List (String × String))
  | retry (message : String)
  | reused (message : String)
  | error (message : String)
  deriving DecidableEq, Repr

def RETRY : String := "We couldn't send your request. Try again — it won't be posted twice."

/-- The key already holds a different body. What is thrown need not be an `ApiError`. -/
def keyReused (cause : Option ApiError) : Bool :=
  cause.any fun err => err.code == "IDEMPOTENCY_KEY_REUSED"

/-- `errors[field] ??= message`. -/
def addError (errors : List (String × String)) (detail : String × String) :
    List (String × String) :=
  if errors.any fun error => error.1 == detail.1 then errors else errors ++ [detail]

def submitFailure : Option ApiError → SubmitFailure
  | none => .retry RETRY
  | some err =>
      if err.code = "INVALID_SUPPLIER" then .supplier err.message
      else if err.code = "NOT_CONFIGURED" then .error err.message
      else if err.code = "IDEMPOTENCY_KEY_REUSED" then
        .reused ("This request was already sent from another tab. Start over to post these " ++
          "details as a new request.")
      else if err.status = 0 ∨ 500 ≤ err.status then .retry RETRY
      else if (err.status = 400 ∨ err.status = 422) ∧ err.details ≠ [] then
        .fields (err.details.foldl addError [])
      else .error err.message

def SubmitFailure.retries : SubmitFailure → Bool
  | .retry _ => true
  | _ => false

def SubmitFailure.isReused : SubmitFailure → Bool
  | .reused _ => true
  | _ => false

/-! ## Drafts -/

/-- A key is a new random id, here the next one. -/
abbrev Key := Nat

abbrev OrderId := Nat

structure Draft where
  form : Composer.Draft
  idempotencyKey : Key
  sentBody : Option CreateOrder
  errors : Option (List (String × String))
  deriving DecidableEq

/-- The stored draft, now for this supplier, or a new one with its own key. -/
def resumeDraft (stored : Option Draft) (supplierId : Utf16.Units) (key : Key) : Draft :=
  match stored with
  | some draft => { draft with form := { draft.form with supplierId } }
  | none =>
      { form :=
          { supplierId
            items := [{ name := [], quantity := .ofInt 1, note := [] }]
            deliveryZone := []
            deliveryInstructions := []
            reward := .ofInt REWARD_MIN }
        idempotencyKey := key
        sentBody := none
        errors := none }

def restartDraft (draft : Draft) (key : Key) : Draft :=
  { draft with idempotencyKey := key, sentBody := none, errors := none }

def Draft.order (draft : Draft) : CreateOrder := toCreateOrder draft.form

/-- `draft.sentBody ?? order`. -/
def Draft.sent (draft : Draft) : CreateOrder := draft.sentBody.getD draft.order

/-! ## The Order Service -/

/-- The errand a key holds, and the request it was made of: the hash of a request the server reads
tells it from every other. -/
structure Held where
  body : CreateOrder
  orderId : OrderId

inductive Reply where
  | created (orderId : OrderId)
  | replayed (orderId : OrderId)
  | reused
  | refused (error : ApiError)
  deriving DecidableEq, Repr

/-- What becomes of a post that arrives: it is refused before its key is looked at, or its key
decides. -/
def createPending (held : Key → Option Held) (key : Key) (body : CreateOrder)
    (choice : Except ApiError OrderId) : (Key → Option Held) × Reply :=
  match choice with
  | .error error => (held, .refused error)
  | .ok orderId =>
      match held key with
      | some found =>
          if found.body = body then (held, .replayed found.orderId) else (held, .reused)
      | none => (Function.update held key (some ⟨body, orderId⟩), .created orderId)

/-! ## The tab -/

/-- One press of Post, on the summary and with the draft it was pressed on. It outlives its
page, not the document. -/
structure Submission where
  summary : Nat
  draft : Draft
  /-- Whether the key was refused to the order, and the remembered body is posted now. -/
  replaying : Bool
  /-- What the server answered the post awaited, once it has dealt with it. -/
  reply : Option Reply
  deriving DecidableEq

def Submission.body (posting : Submission) : CreateOrder :=
  if posting.replaying then posting.draft.sent else posting.draft.order

/-- A post nobody awaits any more, which may still arrive. -/
structure Orphan where
  key : Key
  body : CreateOrder
  sentBody : CreateOrder
  deriving DecidableEq

def Submission.orphan (posting : Submission) : Option Orphan :=
  if posting.reply = none then
    some ⟨posting.draft.idempotencyKey, posting.body, posting.draft.sent⟩
  else none

inductive Page where
  | elsewhere
  | details (draft : Draft)
  | review (summary : Nat) (draft : Draft) (submitting : Bool) (failure : Option SubmitFailure)
      (alreadyPosted : Option OrderId)
  deriving DecidableEq

/-- How a submission ended, all of whose posts were answered with a 2xx or that the key is
reused. -/
inductive Ending where
  | taken (orderId : OrderId)
  | told (orderId : OrderId)
  -- The notice had no page to be shown on.
  | missed (orderId : OrderId)
  | anotherTab
  deriving DecidableEq, Repr

inductive Entry where
  | ended (key : Key) (ending : Ending)
  | renewed (old new : Key)
  deriving DecidableEq, Repr

structure Tab where
  stored : Option Draft
  page : Page
  running : List Submission
  orphans : List Orphan
  held : Key → Option Held
  nextKey : Key
  summaries : Nat
  log : List Entry

def begun : Tab :=
  { stored := none, page := .elsewhere, running := [], orphans := [], held := fun _ => none
    nextKey := 0, summaries := 0, log := [] }

/-- The review reads the stored draft when it is mounted. -/
def Tab.mountReview (tab : Tab) (supplierId : Utf16.Units) : Tab :=
  match tab.stored with
  | some draft =>
      if draft.form.supplierId = supplierId then
        { tab with
          page := .review tab.summaries draft false none none
          summaries := tab.summaries + 1 }
      else { tab with page := .elsewhere }
  | none => { tab with page := .elsewhere }

def Tab.mountDetails (tab : Tab) (supplierId : Utf16.Units) : Tab :=
  { tab with
    page := .details (resumeDraft tab.stored supplierId tab.nextKey)
    nextKey := tab.nextKey + 1 }

/-- What a document keeps when it is loaded again: its address and the session's storage. -/
def Tab.reloaded (tab : Tab) : Tab :=
  let fresh :=
    { tab with
      page := .elsewhere
      running := []
      orphans := tab.orphans ++ tab.running.filterMap Submission.orphan }
  match tab.page with
  | .elsewhere => fresh
  | .details draft => fresh.mountDetails draft.form.supplierId
  | .review _ draft _ _ _ => fresh.mountReview draft.form.supplierId

/-- The summary's own state changes while it is on the page. -/
def Page.update (page : Page) (summary : Nat) (next : Page) : Page :=
  match page with
  | .review shown .. => if shown = summary then next else page
  | _ => page

def Page.shows (page : Page) (summary : Nat) : Bool :=
  match page with
  | .review shown .. => shown == summary
  | _ => false

/-- The `catch` of `submit`. -/
def Tab.fail (tab : Tab) (index : Nat) (posting : Submission) (cause : Option ApiError) : Tab :=
  let next := submitFailure cause
  let draft :=
    { posting.draft with
      sentBody := if next.retries then some posting.draft.sent else posting.draft.sentBody
      errors :=
        match next with
        | .fields errors => some errors
        | _ => posting.draft.errors }
  { tab with
    stored := some draft
    page := tab.page.update posting.summary (.review posting.summary draft false (some next) none)
    running := tab.running.eraseIdx index }

/-- The answer to the post that a submission awaits. -/
def Tab.answered (tab : Tab) (index : Nat) (posting : Submission) (reply : Reply) : Tab :=
  match posting.replaying, reply with
  | _, .refused error => tab.fail index posting (some error)
  | false, .created orderId | false, .replayed orderId =>
      { tab with
        stored := none
        page := .elsewhere
        running := tab.running.eraseIdx index
        log := tab.log ++ [.ended posting.draft.idempotencyKey (.taken orderId)] }
  | false, .reused =>
      { tab with
        running := tab.running.set index { posting with replaying := true, reply := none } }
  | true, .created orderId | true, .replayed orderId =>
      let draft := restartDraft posting.draft tab.nextKey
      { tab with
        stored := some draft
        page := tab.page.update posting.summary
          (.review posting.summary draft false none (some orderId))
        running := tab.running.eraseIdx index
        nextKey := tab.nextKey + 1
        log := tab.log ++
          [ .ended posting.draft.idempotencyKey
              (if tab.page.shows posting.summary then .told orderId else .missed orderId),
            .renewed posting.draft.idempotencyKey tab.nextKey ] }
  | true, .reused =>
      let error : ApiError :=
        { status := 422
          code := "IDEMPOTENCY_KEY_REUSED"
          message := "The Idempotency-Key was already used for a different request."
          details := [] }
      let failed := tab.fail index posting (some error)
      { failed with log := tab.log ++ [.ended posting.draft.idempotencyKey .anotherTab] }

inductive Event where
  | openDetails (supplierId : Utf16.Units)
  | edit (form : Composer.Draft)
  | review
  | openReview (supplierId : Utf16.Units)
  | leave
  | reload
  | submit
  | startOver
  | postChanges
  | serve (index : Nat) (choice : Except ApiError OrderId)
  | deliver (index : Nat)
  | lose (index : Nat) (cause : Option ApiError)
  | arrive (index : Nat) (choice : Except ApiError OrderId)

/-- Only the key's own check refuses a request with its code. -/
def honest : Except ApiError OrderId → Bool
  | .error error => error.code != "IDEMPOTENCY_KEY_REUSED"
  | .ok _ => true

def turn (tab : Tab) : Event → Option Tab
  | .openDetails supplierId => some (tab.mountDetails supplierId)
  | .edit form =>
      match tab.page with
      | .details draft =>
          if form.supplierId = draft.form.supplierId then
            some { tab with page := .details { draft with form } }
          else none
      | _ => none
  | .review =>
      match tab.page with
      | .details draft =>
          if validateDraft draft.form = [] then
            let saved := { tab with stored := some { draft with errors := none } }
            some (saved.mountReview draft.form.supplierId)
          else none
      | _ => none
  | .openReview supplierId => some (tab.mountReview supplierId)
  | .leave => some { tab with page := .elsewhere }
  | .reload => some tab.reloaded
  | .submit =>
      match tab.page with
      | .review summary draft false failure none =>
          match failure with
          -- Neither of these has a button to post with.
          | some (.supplier _) | some (.reused _) => none
          | _ =>
              let kept := { draft with sentBody := some draft.sent }
              some
                { tab with
                  stored := some kept
                  page := .review summary kept true none none
                  running := tab.running ++ [⟨summary, draft, false, none⟩] }
      | _ => none
  | .startOver =>
      match tab.page with
      | .review summary draft false (some (.reused _)) none =>
          let restarted := restartDraft draft tab.nextKey
          some
            { tab with
              stored := some restarted
              page := .review summary restarted false none none
              nextKey := tab.nextKey + 1
              log := tab.log ++ [.renewed draft.idempotencyKey tab.nextKey] }
      | _ => none
  | .postChanges =>
      match tab.page with
      | .review summary draft submitting failure (some _) =>
          some { tab with page := .review summary draft submitting failure none }
      | _ => none
  | .serve index choice =>
      match tab.running[index]? with
      | some posting =>
          if posting.reply = none ∧ honest choice then
            let (held, reply) :=
              createPending tab.held posting.draft.idempotencyKey posting.body choice
            some
              { tab with
                held
                running := tab.running.set index { posting with reply := some reply } }
          else none
      | none => none
  | .deliver index =>
      match tab.running[index]? with
      | some posting => posting.reply.map (tab.answered index posting)
      | none => none
  | .lose index cause =>
      match tab.running[index]? with
      | some posting =>
          if (submitFailure cause).retries then
            let failed := tab.fail index posting cause
            some { failed with orphans := tab.orphans ++ posting.orphan.toList }
          else none
      | none => none
  | .arrive index choice =>
      match tab.orphans[index]? with
      | some orphan =>
          if honest choice then
            some
              { tab with
                held := (createPending tab.held orphan.key orphan.body choice).1
                orphans := tab.orphans.eraseIdx index }
          else none
      | none => none

/-! ## What a run is to keep -/

/-- Whoever was answered was taken to the errand their key holds or told of it, and a key is made
anew only once they were told of the old one's. -/
structure Truthful (held : Key → Option Held) (log : List Entry) : Prop where
  ended : ∀ key ending, .ended key ending ∈ log → ∃ found, held key = some found ∧
    (ending = .taken found.orderId ∨ ending = .told found.orderId)
  renewed : ∀ old new, .renewed old new ∈ log → ∃ orderId, .ended old (.told orderId) ∈ log

/-- A body other than the remembered one was stored, and its answer is still to come. -/
def Submission.unremembered (posting : Submission) : Bool :=
  match posting.reply with
  | some (.created _) => posting.body != posting.draft.sent
  | _ => false

def Reply.finds : Reply → Bool
  | .created _ | .replayed _ => true
  | _ => false

/-- No body but the remembered one is stored without its answer, no submission begins beside
another, and whoever is to be told of an errand is still on the page. -/
def careful (tab : Tab) : Event → Bool
  | .submit => tab.running.isEmpty
  | .reload => tab.running.all fun posting => !posting.unremembered
  | .lose index _ => tab.running[index]?.all fun posting => !posting.unremembered
  | .deliver index =>
      tab.running[index]?.all fun posting =>
        !(posting.replaying && posting.reply.any Reply.finds) || tab.page.shows posting.summary
  | .arrive index (.ok _) =>
      tab.orphans[index]?.all fun orphan =>
        (tab.held orphan.key).isSome || orphan.body == orphan.sentBody
  | _ => true

def carefulTurn (tab : Tab) (event : Event) : Option Tab :=
  if careful tab event then turn tab event else none

/-! ## What a draft remembers -/

def Page.draft? : Page → Option Draft
  | .elsewhere => none
  | .details draft => some draft
  | .review _ draft _ _ _ => some draft

/-- A draft a later submission may be made of. -/
def Tab.Has (tab : Tab) (draft : Draft) : Prop :=
  tab.stored = some draft ∨ tab.page.draft? = some draft

/-- The body a draft remembers is what its key holds, or will hold of what was given up. -/
structure Remembers (tab : Tab) (draft : Draft) : Prop where
  old : draft.idempotencyKey < tab.nextKey
  held : ∀ found, tab.held draft.idempotencyKey = some found →
    draft.sentBody = some found.body ∨
      ∃ posting ∈ tab.running, posting.draft.idempotencyKey = draft.idempotencyKey ∧
        posting.reply = some (.created found.orderId)
  orphans : ∀ orphan ∈ tab.orphans, orphan.key = draft.idempotencyKey →
    draft.sentBody = some orphan.sentBody

structure Loose (tab : Tab) (draft : Draft) : Prop extends Remembers tab draft where
  running : ∀ posting ∈ tab.running, posting.draft.idempotencyKey = draft.idempotencyKey →
    draft.sentBody = some posting.draft.sent

structure Awaiting (tab : Tab) (posting : Submission) : Prop where
  remembers : Remembers tab posting.draft
  found : ∀ orderId, posting.reply = some (.created orderId) ∨
    posting.reply = some (.replayed orderId) →
      tab.held posting.draft.idempotencyKey = some ⟨posting.body, orderId⟩
  reused : posting.reply = some .reused →
    ∃ found, tab.held posting.draft.idempotencyKey = some found ∧ found.body ≠ posting.body
  refused : ∀ error, posting.reply = some (.refused error) → keyReused (some error) = false

def Page.calm : Page → Bool
  | .review _ _ _ (some failure) _ => !failure.isReused
  | _ => true

structure Sound (tab : Tab) : Prop where
  alone : tab.running.length ≤ 1
  drafts : ∀ draft, tab.Has draft → Loose tab draft
  running : ∀ posting ∈ tab.running, Awaiting tab posting
  heldKeys : ∀ key found, tab.held key = some found → key < tab.nextKey
  orphanKeys : ∀ orphan ∈ tab.orphans, orphan.key < tab.nextKey
  calm : tab.page.calm = true
  truthful : Truthful tab.held tab.log

theorem begun_sound : Sound begun where
  alone := by decide
  drafts := by
    rintro draft (stored | shown)
    · cases stored
    · cases shown
  running := by simp [begun]
  heldKeys := by simp [begun]
  orphanKeys := by simp [begun]
  calm := rfl
  truthful := ⟨by simp [begun], by simp [begun]⟩

section Steps

variable {tab next : Tab} {draft other : Draft} {posting : Submission}

theorem loose_same (loose : Loose tab draft) (key : other.idempotencyKey = draft.idempotencyKey)
    (body : other.sentBody = draft.sentBody) : Loose tab other := by
  refine ⟨⟨?_, ?_, ?_⟩, ?_⟩
  · exact key ▸ loose.old
  · rw [key, body]
    exact loose.held
  · rw [key, body]
    exact loose.orphans
  · rw [key, body]
    exact loose.running

/-- Nothing is known of a key that is new. -/
theorem loose_fresh (sound : Sound tab) (running : next.running = tab.running)
    (orphans : next.orphans = tab.orphans) (held : next.held = tab.held)
    (fresh : tab.nextKey ≤ draft.idempotencyKey) (made : draft.idempotencyKey < next.nextKey) :
    Loose next draft := by
  refine ⟨⟨made, ?_, ?_⟩, ?_⟩
  · intro found holds
    rw [held] at holds
    exact absurd (sound.heldKeys _ found holds) (Nat.not_lt.mpr fresh)
  · intro orphan given same
    rw [orphans] at given
    exact absurd (same ▸ sound.orphanKeys orphan given) (Nat.not_lt.mpr fresh)
  · intro posting running_ same
    rw [running] at running_
    have old := (sound.running posting running_).remembers.old
    exact absurd (same ▸ old) (Nat.not_lt.mpr fresh)

/-- The page and the storage change, and keys are made. -/
theorem redrawn (sound : Sound tab) (running : next.running = tab.running)
    (orphans : next.orphans = tab.orphans) (held : next.held = tab.held)
    (keys : tab.nextKey ≤ next.nextKey) (truthful : Truthful next.held next.log)
    (drafts : ∀ draft, next.Has draft → Loose tab draft ∨
      tab.nextKey ≤ draft.idempotencyKey ∧ draft.idempotencyKey < next.nextKey)
    (calm : next.page.calm = true) : Sound next := by
  have kept : ∀ draft, Remembers tab draft → Remembers next draft := by
    intro draft remembers
    refine ⟨Nat.lt_of_lt_of_le remembers.old keys, ?_, ?_⟩
    · rw [held, running]
      exact remembers.held
    · rw [orphans]
      exact remembers.orphans
  refine ⟨running ▸ sound.alone, ?_, ?_, ?_, ?_, calm, truthful⟩
  · intro draft has
    rcases drafts draft has with loose | ⟨fresh, made⟩
    · refine ⟨kept draft loose.toRemembers, ?_⟩
      rw [running]
      exact loose.running
    · exact loose_fresh sound running orphans held fresh made
  · intro posting awaits
    rw [running] at awaits
    have awaiting := sound.running posting awaits
    refine ⟨kept _ awaiting.remembers, ?_, ?_, awaiting.refused⟩
    · rw [held]
      exact awaiting.found
    · rw [held]
      exact awaiting.reused
  · intro key found holds
    rw [held] at holds
    exact Nat.lt_of_lt_of_le (sound.heldKeys key found holds) keys
  · intro orphan given
    rw [orphans] at given
    exact Nat.lt_of_lt_of_le (sound.orphanKeys orphan given) keys

/-! ### Pages -/

theorem mount_details_sound (sound : Sound tab) (supplierId : Utf16.Units) :
    Sound (tab.mountDetails supplierId) := by
  refine redrawn sound rfl rfl rfl (Nat.le_succ _) sound.truthful ?_ rfl
  rintro draft (stored | shown)
  · exact .inl (sound.drafts draft (.inl stored))
  · cases shown
    cases held : tab.stored with
    | none => exact .inr ⟨Nat.le_refl _, Nat.lt_succ_self _⟩
    | some kept => exact .inl (loose_same (sound.drafts kept (.inl held)) rfl rfl)

theorem mount_review_sound (sound : Sound tab) (supplierId : Utf16.Units) :
    Sound (tab.mountReview supplierId) := by
  unfold Tab.mountReview
  split
  · rename_i kept held
    split
    · refine redrawn sound rfl rfl rfl (Nat.le_refl _) sound.truthful ?_ rfl
      rintro draft (stored | shown)
      · exact .inl (sound.drafts draft (.inl stored))
      · cases shown
        exact .inl (sound.drafts kept (.inl held))
    · refine redrawn sound rfl rfl rfl (Nat.le_refl _) sound.truthful ?_ rfl
      rintro draft (stored | shown)
      · exact .inl (sound.drafts draft (.inl stored))
      · cases shown
  · refine redrawn sound rfl rfl rfl (Nat.le_refl _) sound.truthful ?_ rfl
    rintro draft (stored | shown)
    · exact .inl (sound.drafts draft (.inl stored))
    · cases shown

theorem leave_sound (sound : Sound tab) : Sound { tab with page := .elsewhere } := by
  refine redrawn sound rfl rfl rfl (Nat.le_refl _) sound.truthful ?_ rfl
  rintro draft (stored | shown)
  · exact .inl (sound.drafts draft (.inl stored))
  · cases shown

theorem edit_sound (sound : Sound tab) (page : tab.page = .details draft) (form : Composer.Draft) :
    Sound { tab with page := .details { draft with form } } := by
  refine redrawn sound rfl rfl rfl (Nat.le_refl _) sound.truthful ?_ rfl
  rintro changed (stored | shown)
  · exact .inl (sound.drafts changed (.inl stored))
  · cases shown
    have before := sound.drafts draft (.inr (by rw [page]; rfl))
    exact .inl (loose_same before rfl rfl)

theorem save_sound (sound : Sound tab) (page : tab.page = .details draft) :
    Sound { tab with stored := some { draft with errors := none } } := by
  refine redrawn sound rfl rfl rfl (Nat.le_refl _) sound.truthful ?_ sound.calm
  rintro saved (stored | shown)
  · cases stored
    have before := sound.drafts draft (.inr (by rw [page]; rfl))
    exact .inl (loose_same before rfl rfl)
  · exact .inl (sound.drafts saved (.inr shown))

theorem post_changes_sound {summary : Nat} {submitting : Bool} {failure : Option SubmitFailure}
    {posted : Option OrderId} (sound : Sound tab)
    (page : tab.page = .review summary draft submitting failure posted) :
    Sound { tab with page := .review summary draft submitting failure none } := by
  have calm : (Page.review summary draft submitting failure none).calm = true := by
    have before := sound.calm
    rw [page] at before
    cases failure <;> exact before
  refine redrawn sound rfl rfl rfl (Nat.le_refl _) sound.truthful ?_ calm
  rintro shown_ (stored | shown)
  · exact .inl (sound.drafts shown_ (.inl stored))
  · cases shown
    exact .inl (sound.drafts draft (.inr (by rw [page]; rfl)))

/-! ### Submissions -/

theorem submit_sound {summary : Nat} {submitting : Bool} {failure : Option SubmitFailure}
    {posted : Option OrderId} (sound : Sound tab)
    (page : tab.page = .review summary draft submitting failure posted)
    (idle : tab.running = []) :
    let kept := { draft with sentBody := some draft.sent }
    Sound
      { tab with
        stored := some kept
        page := .review summary kept true none none
        running := tab.running ++ [⟨summary, draft, false, none⟩] } := by
  intro kept
  have before := sound.drafts draft (.inr (by rw [page]; rfl))
  have known : ∀ found, tab.held draft.idempotencyKey = some found →
      draft.sentBody = some found.body := by
    intro found holds
    rcases before.held found holds with same | ⟨posting, running, _⟩
    · exact same
    · rw [idle] at running
      cases running
  have sent : ∀ {body}, draft.sentBody = some body → kept.sentBody = some body := by
    intro body same
    simp [kept, Draft.sent, same]
  rw [idle]
  refine ⟨by simp, ?_, ?_, sound.heldKeys, sound.orphanKeys, rfl, sound.truthful⟩
  · intro other has
    have same : other = kept := by
      rcases has with stored | shown
      · exact (Option.some.inj stored).symm
      · exact (Option.some.inj shown).symm
    subst same
    refine ⟨⟨before.old, ?_, ?_⟩, ?_⟩
    · intro found holds
      exact .inl (sent (known found holds))
    · intro orphan given same
      exact sent (before.orphans orphan given same)
    · intro posting running same
      cases List.mem_singleton.mp running
      rfl
  · intro posting running
    cases List.mem_singleton.mp running
    refine ⟨⟨before.old, fun found holds => .inl (known found holds), before.orphans⟩, ?_, ?_, ?_⟩
    · rintro orderId (created | replayed)
      · cases created
      · cases replayed
    · intro reused
      cases reused
    · intro error refused
      cases refused

theorem running_cases (sound : Sound tab) :
    tab.running = [] ∨ ∃ posting, tab.running = [posting] := by
  have alone := sound.alone
  cases running : tab.running with
  | nil => exact .inl rfl
  | cons one rest =>
      rw [running, List.length_cons] at alone
      have none_ : rest = [] := List.eq_nil_of_length_eq_zero (by omega)
      exact .inr ⟨one, by rw [none_]⟩

/-- The one submission under way. -/
theorem only_running {index : Nat} (sound : Sound tab)
    (found : tab.running[index]? = some posting) : index = 0 ∧ tab.running = [posting] := by
  rcases running_cases sound with idle | ⟨one, running⟩
  · rw [idle] at found
    cases found
  · rw [running] at found ⊢
    cases index with
    | zero =>
        cases found
        exact ⟨rfl, rfl⟩
    | succ index => cases found

def Tab.drop (tab : Tab) (posting : Submission) : Tab :=
  { tab with running := [], orphans := tab.orphans ++ posting.orphan.toList }

theorem orphan_parts {orphan : Orphan} (given : orphan ∈ posting.orphan.toList) :
    orphan.key = posting.draft.idempotencyKey ∧ orphan.sentBody = posting.draft.sent := by
  unfold Submission.orphan at given
  split at given
  · cases List.mem_singleton.mp given
    exact ⟨rfl, rfl⟩
  · cases given

/-- What a submission was to remember, it remembers when it is given up. -/
theorem remembered_body {found : Held} (awaiting : Awaiting tab posting)
    (only : tab.running = [posting]) (remembered : posting.unremembered = false)
    (holds : tab.held posting.draft.idempotencyKey = some found) :
    posting.draft.sent = found.body := by
  rcases awaiting.remembers.held found holds with same | ⟨other, running, _, created⟩
  · simp [Draft.sent, same]
  · rw [only] at running
    cases List.mem_singleton.mp running
    have stored := awaiting.found _ (.inl created)
    rw [holds] at stored
    have body : found.body = posting.body := congrArg Held.body (Option.some.inj stored)
    have same : posting.body = posting.draft.sent := by
      simpa [Submission.unremembered, created] using remembered
    rw [body, same]

theorem drop_sound (sound : Sound tab) (only : tab.running = [posting])
    (remembered : posting.unremembered = false) : Sound (tab.drop posting) := by
  have awaiting := sound.running posting (by simp [only])
  refine ⟨by simp [Tab.drop], ?_, by simp [Tab.drop], sound.heldKeys, ?_, sound.calm,
    sound.truthful⟩
  · intro draft has
    have loose := sound.drafts draft has
    refine ⟨⟨loose.old, ?_, ?_⟩, by simp [Tab.drop]⟩
    · intro found holds
      rcases loose.held found holds with same | ⟨other, running, key, _⟩
      · exact .inl same
      · rw [only] at running
        cases List.mem_singleton.mp running
        rw [loose.running posting (by simp [only]) key]
        refine .inl (congrArg some (remembered_body awaiting only remembered ?_))
        rw [key]
        exact holds
    · intro orphan given key
      rcases List.mem_append.mp given with old | new
      · exact loose.orphans orphan old key
      · obtain ⟨same, body⟩ := orphan_parts new
        rw [body]
        exact loose.running posting (by simp [only]) (same.symm.trans key)
  · intro orphan given
    rcases List.mem_append.mp given with old | new
    · exact sound.orphanKeys orphan old
    · rw [(orphan_parts new).1]
      exact awaiting.remembers.old

/-- Once given up, a submission's draft remembers what it sent. -/
theorem sent_loose (sound : Sound tab) (only : tab.running = [posting])
    (remembered : posting.unremembered = false)
    (key : draft.idempotencyKey = posting.draft.idempotencyKey)
    (body : draft.sentBody = some posting.draft.sent) : Loose (tab.drop posting) draft := by
  have awaiting := sound.running posting (by simp [only])
  refine ⟨⟨key ▸ awaiting.remembers.old, ?_, ?_⟩, by simp [Tab.drop]⟩
  · intro found holds
    rw [key] at holds
    rw [body]
    exact .inl (congrArg some (remembered_body awaiting only remembered holds))
  · intro orphan given same
    rcases List.mem_append.mp given with old | new
    · have before := awaiting.remembers.orphans orphan old (same.trans key)
      rw [body, Draft.sent, before]
      rfl
    · rw [body, (orphan_parts new).2]

/-- A refused submission's draft remembers what it did before. -/
theorem refused_loose {error : ApiError} (sound : Sound tab) (only : tab.running = [posting])
    (refused : posting.reply = some (.refused error))
    (key : draft.idempotencyKey = posting.draft.idempotencyKey)
    (body : draft.sentBody = posting.draft.sentBody) : Loose (tab.drop posting) draft := by
  have awaiting := sound.running posting (by simp [only])
  refine ⟨⟨key ▸ awaiting.remembers.old, ?_, ?_⟩, by simp [Tab.drop]⟩
  · intro found holds
    rw [key] at holds
    rcases awaiting.remembers.held found holds with same | ⟨other, running, _, created⟩
    · exact .inl (body.trans same)
    · rw [only] at running
      cases List.mem_singleton.mp running
      rw [refused] at created
      cases created
  · intro orphan given same
    rcases List.mem_append.mp given with old | new
    · exact body.trans (awaiting.remembers.orphans orphan old (same.trans key))
    · simp [Submission.orphan, refused] at new

/-! ### Answers -/

theorem update_draft {page next : Page} {summary : Nat}
    (shown : (page.update summary next).draft? = some draft) :
    page.draft? = some draft ∨ next.draft? = some draft := by
  unfold Page.update at shown
  split at shown
  · split at shown
    · exact .inr shown
    · exact .inl shown
  · exact .inl shown

theorem update_calm {page next : Page} {summary : Nat} (before : page.calm = true)
    (after : next.calm = true) : (page.update summary next).calm = true := by
  unfold Page.update
  split
  · split
    · exact after
    · exact before
  · exact before

theorem submit_failure_calm {cause : Option ApiError} (other : keyReused cause = false) :
    (submitFailure cause).isReused = false := by
  cases cause with
  | none => rfl
  | some err =>
      have differs : err.code ≠ "IDEMPOTENCY_KEY_REUSED" := by simpa [keyReused] using other
      simp only [submitFailure, if_neg differs]
      split_ifs <;> rfl

theorem retries_not_reused {cause : Option ApiError}
    (retries : (submitFailure cause).retries = true) : keyReused cause = false := by
  cases cause with
  | none => rfl
  | some err =>
      by_contra same
      have code : err.code = "IDEMPOTENCY_KEY_REUSED" := by simpa [keyReused] using same
      simp [submitFailure, code, SubmitFailure.retries] at retries

/-- A submission fails: what it posts next may be kept, and nobody is told of anything. -/
theorem fail_sound (cause : Option ApiError) {orphans : List Orphan} (sound : Sound tab)
    (only : tab.running = [posting]) (remembered : posting.unremembered = false)
    (given : orphans = tab.orphans ++ posting.orphan.toList)
    (other : keyReused cause = false)
    (kept : (submitFailure cause).retries = true ∨
      ∃ error, posting.reply = some (.refused error)) :
    Sound { tab.fail 0 posting cause with orphans } := by
  have dropped := drop_sound sound only remembered
  refine redrawn dropped ?_ given rfl (Nat.le_refl _) sound.truthful ?_ ?_
  · simp [Tab.fail, only, Tab.drop]
  · have failed : ∀ draft, draft.idempotencyKey = posting.draft.idempotencyKey →
        draft.sentBody = (if (submitFailure cause).retries then some posting.draft.sent
          else posting.draft.sentBody) → Loose (tab.drop posting) draft := by
      intro draft key body
      by_cases retries : (submitFailure cause).retries = true
      · rw [if_pos retries] at body
        exact sent_loose sound only remembered key body
      · rw [if_neg retries] at body
        obtain ⟨error, refused⟩ := kept.resolve_left retries
        exact refused_loose sound only refused key body
    rintro draft (stored | shown)
    · cases stored
      exact .inl (failed _ rfl rfl)
    · rcases update_draft shown with before | after
      · exact .inl (dropped.drafts draft (.inr before))
      · cases after
        exact .inl (failed _ rfl rfl)
  · apply update_calm sound.calm
    simp [Page.calm, submit_failure_calm other]

theorem truthful_taken {held : Key → Option Held} {log : List Entry} {key : Key} {found : Held}
    (truthful : Truthful held log) (holds : held key = some found) :
    Truthful held (log ++ [.ended key (.taken found.orderId)]) := by
  constructor
  · intro other ending listed
    rcases List.mem_append.mp listed with old | new
    · exact truthful.ended other ending old
    · cases List.mem_singleton.mp new
      exact ⟨found, holds, .inl rfl⟩
  · intro old new listed
    rcases List.mem_append.mp listed with before | last
    · obtain ⟨orderId, told⟩ := truthful.renewed old new before
      exact ⟨orderId, List.mem_append_left _ told⟩
    · cases List.mem_singleton.mp last

theorem truthful_told {held : Key → Option Held} {log : List Entry} {key next : Key}
    {found : Held} (truthful : Truthful held log) (holds : held key = some found) :
    Truthful held (log ++ [.ended key (.told found.orderId), .renewed key next]) := by
  constructor
  · intro other ending listed
    rcases List.mem_append.mp listed with old | new
    · exact truthful.ended other ending old
    · rcases List.mem_cons.mp new with same | renewed
      · cases same
        exact ⟨found, holds, .inr rfl⟩
      · cases List.mem_singleton.mp renewed
  · intro old new listed
    rcases List.mem_append.mp listed with before | last
    · obtain ⟨orderId, told⟩ := truthful.renewed old new before
      exact ⟨orderId, List.mem_append_left _ told⟩
    · rcases List.mem_cons.mp last with ended | renewed
      · cases ended
      · cases List.mem_singleton.mp renewed
        exact ⟨found.orderId, by simp⟩

/-- The order was posted, now or before: its draft is done with. -/
theorem taken_sound {orderId : OrderId} (sound : Sound tab) (only : tab.running = [posting])
    (found : posting.reply = some (.created orderId) ∨ posting.reply = some (.replayed orderId)) :
    Sound
      { tab with
        stored := none
        page := .elsewhere
        running := tab.running.eraseIdx 0
        log := tab.log ++ [.ended posting.draft.idempotencyKey (.taken orderId)] } := by
  have holds := (sound.running posting (by simp [only])).found orderId found
  refine ⟨by simp [only], ?_, by simp [only], sound.heldKeys, sound.orphanKeys, rfl,
    truthful_taken sound.truthful holds⟩
  rintro draft (stored | shown)
  · cases stored
  · cases shown

/-- The remembered body was found: the edits move to a key of their own. -/
theorem told_sound {orderId : OrderId} (sound : Sound tab) (only : tab.running = [posting])
    (again : posting.replaying = true)
    (found : posting.reply = some (.created orderId) ∨ posting.reply = some (.replayed orderId))
    (shown : tab.page.shows posting.summary = true) :
    let draft := restartDraft posting.draft tab.nextKey
    Sound
      { tab with
        stored := some draft
        page := tab.page.update posting.summary
          (.review posting.summary draft false none (some orderId))
        running := tab.running.eraseIdx 0
        nextKey := tab.nextKey + 1
        log := tab.log ++
          [ .ended posting.draft.idempotencyKey
              (if tab.page.shows posting.summary then .told orderId else .missed orderId),
            .renewed posting.draft.idempotencyKey tab.nextKey ] } := by
  intro draft
  have holds := (sound.running posting (by simp [only])).found orderId found
  have remembered : posting.unremembered = false := by
    unfold Submission.unremembered
    split
    · simp [Submission.body, again]
    · rfl
  have dropped := drop_sound sound only remembered
  have answered : posting.orphan = none := by
    rcases found with created | replayed
    · simp [Submission.orphan, created]
    · simp [Submission.orphan, replayed]
  rw [if_pos shown]
  refine redrawn dropped ?_ ?_ rfl (Nat.le_succ _) (truthful_told sound.truthful holds) ?_ ?_
  · simp [only, Tab.drop]
  · simp [Tab.drop, answered]
  · rintro other (stored | seen)
    · cases stored
      exact .inr ⟨Nat.le_refl _, Nat.lt_succ_self _⟩
    · rcases update_draft seen with before | after
      · exact .inl (dropped.drafts other (.inr before))
      · cases after
        exact .inr ⟨Nat.le_refl _, Nat.lt_succ_self _⟩
  · exact update_calm sound.calm rfl

/-- The submission under way goes on, and nothing of it was or is stored by that. -/
theorem moved_sound {after : Submission} (sound : Sound tab) (only : tab.running = [posting])
    (uncreated : ∀ orderId, posting.reply ≠ some (.created orderId))
    (draft : after.draft = posting.draft)
    (found : ∀ orderId, after.reply = some (.created orderId) ∨
      after.reply = some (.replayed orderId) →
        tab.held posting.draft.idempotencyKey = some ⟨after.body, orderId⟩)
    (reused : after.reply = some .reused →
      ∃ found, tab.held posting.draft.idempotencyKey = some found ∧ found.body ≠ after.body)
    (refused : ∀ error, after.reply = some (.refused error) → keyReused (some error) = false) :
    Sound { tab with running := tab.running.set 0 after } := by
  have awaiting := sound.running posting (by simp [only])
  have known : ∀ draft, Remembers tab draft → ∀ found,
      tab.held draft.idempotencyKey = some found → draft.sentBody = some found.body := by
    intro draft remembers found holds
    rcases remembers.held found holds with same | ⟨other, running, _, created⟩
    · exact same
    · rw [only] at running
      cases List.mem_singleton.mp running
      exact absurd created (uncreated found.orderId)
  rw [only]
  refine ⟨by simp, ?_, ?_, sound.heldKeys, sound.orphanKeys, sound.calm, sound.truthful⟩
  · intro other has
    have loose := sound.drafts other has
    refine ⟨⟨loose.old, ?_, loose.orphans⟩, ?_⟩
    · intro found holds
      exact .inl (known other loose.toRemembers found holds)
    · intro running listed key
      cases List.mem_singleton.mp listed
      rw [draft] at key ⊢
      exact loose.running posting (by simp [only]) key
  · intro other listed
    cases List.mem_singleton.mp listed
    refine ⟨⟨?_, ?_, ?_⟩, ?_, ?_, refused⟩
    · rw [draft]
      exact awaiting.remembers.old
    · rw [draft]
      intro found holds
      exact .inl (known _ awaiting.remembers found holds)
    · rw [draft]
      exact awaiting.remembers.orphans
    · rw [draft]
      exact found
    · rw [draft]
      exact reused

/-- The key was refused to the order, so what is remembered is posted. -/
theorem replay_sound (sound : Sound tab) (only : tab.running = [posting])
    (reused : posting.reply = some .reused) :
    Sound
      { tab with
        running := tab.running.set 0 { posting with replaying := true, reply := none } } := by
  refine moved_sound sound only (by simp [reused]) rfl ?_ ?_ ?_
  · rintro orderId (created | replayed)
    · cases created
    · cases replayed
  · intro again
    cases again
  · intro error refused
    cases refused

/-- A key never holds a body other than the one remembered and the one just refused. -/
theorem replay_not_reused (sound : Sound tab) (only : tab.running = [posting])
    (again : posting.replaying = true) : posting.reply ≠ some .reused := by
  intro reused
  have awaiting := sound.running posting (by simp [only])
  obtain ⟨found, holds, differs⟩ := awaiting.reused reused
  have remembered : posting.unremembered = false := by simp [Submission.unremembered, reused]
  apply differs
  rw [Submission.body, if_pos again]
  exact (remembered_body awaiting only remembered holds).symm

/-! ### Arrivals -/

/-- What a post that arrives leaves its key, and what it is answered. -/
inductive Serves (held : Key → Option Held) (key : Key) (body : CreateOrder)
    (choice : Except ApiError OrderId) : (Key → Option Held) × Reply → Prop where
  | refused (error : ApiError) (is : choice = .error error) :
      Serves held key body choice (held, .refused error)
  | replayed (orderId : OrderId) (holds : held key = some ⟨body, orderId⟩) :
      Serves held key body choice (held, .replayed orderId)
  | reused (found : Held) (holds : held key = some found) (differs : found.body ≠ body) :
      Serves held key body choice (held, .reused)
  | created (orderId : OrderId) (is : choice = .ok orderId) (free : held key = none) :
      Serves held key body choice
        (Function.update held key (some ⟨body, orderId⟩), .created orderId)

theorem create_serves (held : Key → Option Held) (key : Key) (body : CreateOrder)
    (choice : Except ApiError OrderId) :
    Serves held key body choice (createPending held key body choice) := by
  unfold createPending
  cases choice with
  | error error => exact .refused error rfl
  | ok orderId =>
      cases holds : held key with
      | none => exact .created orderId rfl holds
      | some found =>
          by_cases same : found.body = body
          · simp only [if_pos same]
            exact .replayed found.orderId (by rw [holds, ← same])
          · simp only [if_neg same]
            exact .reused found holds same

theorem update_truthful {held : Key → Option Held} {log : List Entry} {key : Key} {found : Held}
    (truthful : Truthful held log) (free : held key = none) :
    Truthful (Function.update held key (some found)) log := by
  refine ⟨?_, truthful.renewed⟩
  intro other ending listed
  obtain ⟨old, holds, told⟩ := truthful.ended other ending listed
  have apart : other ≠ key := by
    rintro rfl
    rw [free] at holds
    cases holds
  exact ⟨old, by rw [Function.update_of_ne apart, holds], told⟩

/-- The submission under way is answered, and nothing is stored. -/
theorem reply_sound {reply : Reply} (sound : Sound tab) (only : tab.running = [posting])
    (waits : posting.reply = none) (uncreated : ∀ orderId, reply ≠ .created orderId)
    (replayed : ∀ orderId, reply = .replayed orderId →
      tab.held posting.draft.idempotencyKey = some ⟨posting.body, orderId⟩)
    (reused : reply = .reused →
      ∃ found, tab.held posting.draft.idempotencyKey = some found ∧ found.body ≠ posting.body)
    (refused : ∀ error, reply = .refused error → keyReused (some error) = false) :
    Sound { tab with running := tab.running.set 0 { posting with reply := some reply } } := by
  refine moved_sound sound only (by simp [waits]) rfl ?_ ?_ ?_
  · rintro orderId (created | again)
    · exact absurd (Option.some.inj created) (uncreated orderId)
    · exact replayed orderId (Option.some.inj again)
  · intro again
    exact reused (Option.some.inj again)
  · intro error again
    exact refused error (Option.some.inj again)

/-- The body of the submission under way is stored. -/
theorem created_sound {orderId : OrderId} (sound : Sound tab) (only : tab.running = [posting])
    (free : tab.held posting.draft.idempotencyKey = none) :
    Sound
      { tab with
        held := Function.update tab.held posting.draft.idempotencyKey
          (some ⟨posting.body, orderId⟩)
        running := tab.running.set 0 { posting with reply := some (.created orderId) } } := by
  have awaiting := sound.running posting (by simp [only])
  rw [only]
  have kept : ∀ draft, Remembers tab draft → Remembers
      { tab with
        held := Function.update tab.held posting.draft.idempotencyKey
          (some ⟨posting.body, orderId⟩)
        running := [posting].set 0 { posting with reply := some (.created orderId) } } draft := by
    intro draft remembers
    refine ⟨remembers.old, ?_, remembers.orphans⟩
    intro found holds
    by_cases same : draft.idempotencyKey = posting.draft.idempotencyKey
    · simp only [same, Function.update_self] at holds
      cases holds
      exact .inr ⟨_, List.mem_singleton.mpr rfl, same.symm, rfl⟩
    · simp only [Function.update_of_ne same] at holds
      rcases remembers.held found holds with body | ⟨other, running, key, _⟩
      · exact .inl body
      · rw [only] at running
        cases List.mem_singleton.mp running
        exact absurd key.symm same
  refine ⟨by simp, ?_, ?_, ?_, sound.orphanKeys, sound.calm,
    update_truthful sound.truthful free⟩
  · intro draft has
    have loose := sound.drafts draft has
    refine ⟨kept draft loose.toRemembers, ?_⟩
    intro other running key
    cases List.mem_singleton.mp running
    exact loose.running posting (by simp [only]) key
  · intro other running
    cases List.mem_singleton.mp running
    refine ⟨kept _ awaiting.remembers, ?_, ?_, ?_⟩
    · rintro other (created | replayed)
      · cases created
        simp [Submission.body]
      · cases replayed
    · intro reused
      cases reused
    · intro error refused
      cases refused
  · intro key found holds
    by_cases same : key = posting.draft.idempotencyKey
    · exact same ▸ awaiting.remembers.old
    · simp only [Function.update_of_ne same] at holds
      exact sound.heldKeys key found holds

theorem serve_sound (sound : Sound tab) (only : tab.running = [posting])
    (waits : posting.reply = none) (choice : Except ApiError OrderId)
    (honest_ : honest choice = true) :
    let served := createPending tab.held posting.draft.idempotencyKey posting.body choice
    Sound
      { tab with
        held := served.1
        running := tab.running.set 0 { posting with reply := some served.2 } } := by
  intro served
  have serves : Serves tab.held posting.draft.idempotencyKey posting.body choice served :=
    create_serves ..
  clear_value served
  cases serves with
  | refused error is =>
      refine reply_sound sound only waits (by simp) (by simp) (by simp) ?_
      rintro _ ⟨⟩
      subst is
      simpa [honest, keyReused] using honest_
  | replayed orderId holds =>
      refine reply_sound sound only waits (by simp) ?_ (by simp) (by simp)
      rintro _ ⟨⟩
      exact holds
  | reused found holds differs =>
      exact reply_sound sound only waits (by simp) (by simp) (fun _ => ⟨found, holds, differs⟩)
        (by simp)
  | created orderId is free => exact created_sound sound only free

/-- A post that was given up arrives after all. -/
theorem arrive_sound {orphan : Orphan} {index : Nat} {choice : Except ApiError OrderId}
    (sound : Sound tab) (given : tab.orphans[index]? = some orphan)
    (remembered : tab.held orphan.key = none → ∀ orderId, choice = .ok orderId →
      orphan.body = orphan.sentBody) :
    Sound
      { tab with
        held := (createPending tab.held orphan.key orphan.body choice).1
        orphans := tab.orphans.eraseIdx index } := by
  have member : orphan ∈ tab.orphans := List.mem_of_getElem? given
  have fewer : ∀ other ∈ tab.orphans.eraseIdx index, other ∈ tab.orphans := fun other listed =>
    List.mem_of_mem_eraseIdx listed
  have serves := create_serves tab.held orphan.key orphan.body choice
  generalize createPending tab.held orphan.key orphan.body choice = answered at serves ⊢
  -- Whoever remembers a body of this key remembers the one that arrives.
  have known : ∀ draft, Remembers tab draft → ∀ found,
      answered.1 draft.idempotencyKey = some found → draft.sentBody = some found.body ∨
        tab.held draft.idempotencyKey = some found := by
    intro draft remembers found holds
    cases serves with
    | refused | replayed | reused => exact .inr holds
    | created orderId is free =>
        by_cases same : draft.idempotencyKey = orphan.key
        · simp only [same, Function.update_self] at holds
          cases holds
          rw [remembered free orderId is]
          exact .inl (remembers.orphans orphan member same.symm)
        · simp only [Function.update_of_ne same] at holds
          exact .inr holds
  have stays : ∀ key found, tab.held key = some found → answered.1 key = some found := by
    intro key found holds
    cases serves with
    | refused | replayed | reused => exact holds
    | created orderId is free =>
        have apart : key ≠ orphan.key := by
          rintro rfl
          rw [free] at holds
          cases holds
        exact (Function.update_of_ne apart ..).trans holds
  have kept : ∀ draft, Remembers tab draft → Remembers
      { tab with held := answered.1, orphans := tab.orphans.eraseIdx index } draft := by
    intro draft remembers
    refine ⟨remembers.old, ?_, fun other listed => remembers.orphans other (fewer other listed)⟩
    intro found holds
    rcases known draft remembers found holds with body | old
    · exact .inl body
    · exact remembers.held found old
  refine ⟨sound.alone, ?_, ?_, ?_, ?_, sound.calm, ?_⟩
  · intro draft has
    have loose := sound.drafts draft has
    exact ⟨kept draft loose.toRemembers, loose.running⟩
  · intro posting running
    have awaiting := sound.running posting running
    refine ⟨kept _ awaiting.remembers, ?_, ?_, awaiting.refused⟩
    · intro orderId found
      exact stays _ _ (awaiting.found orderId found)
    · intro reused
      obtain ⟨found, holds, differs⟩ := awaiting.reused reused
      exact ⟨found, stays _ _ holds, differs⟩
  · intro key found holds
    by_cases same : key = orphan.key
    · exact same ▸ sound.orphanKeys orphan member
    · cases serves with
      | refused | replayed | reused => exact sound.heldKeys key found holds
      | created orderId is free =>
          exact sound.heldKeys key found ((Function.update_of_ne same ..).symm.trans holds)
  · intro other listed
    exact sound.orphanKeys other (fewer other listed)
  · cases serves with
    | refused | replayed | reused => exact sound.truthful
    | created orderId is free => exact update_truthful sound.truthful free

/-! ## Every run -/

theorem reload_sound (sound : Sound tab)
    (remembered : ∀ posting ∈ tab.running, posting.unremembered = false) :
    Sound tab.reloaded := by
  have dropped : Sound
      { tab with
        page := .elsewhere
        running := []
        orphans := tab.orphans ++ tab.running.filterMap Submission.orphan } := by
    rcases running_cases sound with idle | ⟨posting, only⟩
    · have same := leave_sound sound
      simpa [idle] using same
    · have same := leave_sound (drop_sound sound only (remembered posting (by simp [only])))
      cases given : posting.orphan <;> simpa [only, Tab.drop, given] using same
  unfold Tab.reloaded
  cases tab.page with
  | elsewhere => exact dropped
  | details draft => exact mount_details_sound dropped _
  | review summary draft submitting failure posted => exact mount_review_sound dropped _

theorem answered_sound {index : Nat} {reply : Reply} (sound : Sound tab)
    (found : tab.running[index]? = some posting) (replied : posting.reply = some reply)
    (seen : posting.replaying = true → reply.finds = true →
      tab.page.shows posting.summary = true) : Sound (tab.answered index posting reply) := by
  obtain ⟨rfl, only⟩ := only_running sound found
  unfold Tab.answered
  cases reply with
  | refused error =>
      have none_ : tab.orphans = tab.orphans ++ posting.orphan.toList := by
        simp [Submission.orphan, replied]
      have remembered : posting.unremembered = false := by
        simp [Submission.unremembered, replied]
      have other := (sound.running posting (by simp [only])).refused error replied
      exact fail_sound (some error) sound only remembered none_ other (.inr ⟨error, replied⟩)
  | created orderId =>
      cases again : posting.replaying with
      | false => exact taken_sound sound only (.inl replied)
      | true => exact told_sound sound only again (.inl replied) (seen again rfl)
  | replayed orderId =>
      cases again : posting.replaying with
      | false => exact taken_sound sound only (.inr replied)
      | true => exact told_sound sound only again (.inr replied) (seen again rfl)
  | reused =>
      cases again : posting.replaying with
      | false => exact replay_sound sound only replied
      | true => exact absurd replied (replay_not_reused sound only again)

theorem turn_sound {event : Event} (sound : Sound tab) (kept : careful tab event = true)
    (turned : turn tab event = some next) : Sound next := by
  cases event with
  | openDetails supplierId =>
      cases turned
      exact mount_details_sound sound supplierId
  | edit form =>
      simp only [turn] at turned
      split at turned
      · rename_i draft page
        obtain ⟨_, ⟨⟩⟩ := Option.ite_none_right_eq_some.mp turned
        exact edit_sound sound page form
      · cases turned
  | review =>
      simp only [turn] at turned
      split at turned
      · rename_i draft page
        obtain ⟨_, ⟨⟩⟩ := Option.ite_none_right_eq_some.mp turned
        exact mount_review_sound (save_sound sound page) _
      · cases turned
  | openReview supplierId =>
      cases turned
      exact mount_review_sound sound supplierId
  | leave =>
      cases turned
      exact leave_sound sound
  | reload =>
      cases turned
      exact reload_sound sound (by simpa [careful] using kept)
  | submit =>
      have idle : tab.running = [] := by simpa [careful] using kept
      simp only [turn] at turned
      split at turned
      · rename_i summary draft failure page
        split at turned
        · cases turned
        · cases turned
        · cases turned
          exact submit_sound sound page idle
      · cases turned
  | startOver =>
      simp only [turn] at turned
      split at turned
      · rename_i summary draft message page
        have calm := sound.calm
        rw [page] at calm
        cases calm
      · cases turned
  | postChanges =>
      simp only [turn] at turned
      split at turned
      · rename_i summary draft submitting failure posted page
        cases turned
        exact post_changes_sound sound page
      · cases turned
  | serve index choice =>
      simp only [turn] at turned
      split at turned
      · rename_i posting found
        obtain ⟨⟨waits, honest_⟩, ⟨⟩⟩ := Option.ite_none_right_eq_some.mp turned
        obtain ⟨rfl, only⟩ := only_running sound found
        exact serve_sound sound only waits choice honest_
      · cases turned
  | deliver index =>
      simp only [turn] at turned
      split at turned
      · rename_i posting found
        obtain ⟨reply, replied, rfl⟩ := Option.map_eq_some_iff.mp turned
        refine answered_sound sound found replied ?_
        intro again finds
        simpa [careful, found, again, replied, finds] using kept
      · cases turned
  | lose index cause =>
      simp only [turn] at turned
      split at turned
      · rename_i posting found
        obtain ⟨retries, ⟨⟩⟩ := Option.ite_none_right_eq_some.mp turned
        obtain ⟨rfl, only⟩ := only_running sound found
        have remembered : posting.unremembered = false := by simpa [careful, found] using kept
        exact fail_sound cause sound only remembered rfl (retries_not_reused retries) (.inl retries)
      · cases turned
  | arrive index choice =>
      simp only [turn] at turned
      split at turned
      · rename_i orphan given
        obtain ⟨_, ⟨⟩⟩ := Option.ite_none_right_eq_some.mp turned
        refine arrive_sound sound given ?_
        rintro free orderId rfl
        simpa [careful, given, free] using kept
      · cases turned

end Steps

/-- No answer lost costs a second errand, in a run that is careful. -/
theorem lost_answers_found (tab : Tab) (run : Run carefulTurn begun tab) :
    Truthful tab.held tab.log := by
  refine (run_keeps ?_ begun_sound run : Sound tab).truthful
  intro state event after sound turned
  obtain ⟨kept, turned⟩ := Option.ite_none_right_eq_some.mp turned
  exact turn_sound sound kept turned

/-! ## Two runs -/

/-- The coffee, at another reward. -/
def coffeeFor (reward : Int) : Composer.Draft := { coffee with reward := .finite reward }

/-- The details are written for a reward, reviewed and posted. -/
def posted (reward : Int) : List Event :=
  [.openDetails coffee.supplierId, .edit (coffeeFor reward), .review, .submit]

/-- The first post arrives after its answer was given up, and the second finds its errand. -/
def foundAgain : List Event :=
  posted 2 ++ [.lose 0 none, .arrive 0 (.ok 7)] ++ posted 3 ++
    [.serve 0 (.ok 8), .deliver 0, .serve 0 (.ok 9), .deliver 0]

/-- The first post never arrives, and the answer to the second is lost. -/
def neverFound : List Event :=
  posted 2 ++ [.lose 0 none] ++ posted 3 ++ [.serve 0 (.ok 7), .lose 0 none] ++ posted 4 ++
    [.serve 0 (.ok 8), .deliver 0, .serve 0 (.ok 9), .deliver 0]

theorem found_again : ∃ tab, Run carefulTurn begun tab ∧ .ended 0 (.told 7) ∈ tab.log ∧
    Truthful tab.held tab.log := by
  have ran : ((turns carefulTurn begun foundAgain).any fun tab =>
      decide (.ended 0 (.told 7) ∈ tab.log)) = true := by
    decide +kernel
  obtain ⟨tab, reached, told⟩ := (Option.any_eq_true _ _).mp ran
  have run := run_turns .refl foundAgain reached
  exact ⟨tab, run, of_decide_eq_true told, lost_answers_found tab run⟩

/-- The key holds an errand, and the student is told that another tab sent it. -/
theorem errand_missed : ∃ tab, Run turn begun tab ∧
    (tab.held 0).map Held.orderId = some 7 ∧ .ended 0 .anotherTab ∈ tab.log ∧
      ¬ Truthful tab.held tab.log := by
  have ran : ((turns turn begun neverFound).any fun tab =>
      decide ((tab.held 0).map Held.orderId = some 7) &&
        decide (.ended 0 .anotherTab ∈ tab.log)) = true := by
    decide +kernel
  obtain ⟨tab, reached, both⟩ := (Option.any_eq_true _ _).mp ran
  obtain ⟨held, missed⟩ := Bool.and_eq_true_iff.mp both
  have run := run_turns .refl neverFound reached
  refine ⟨tab, run, of_decide_eq_true held, of_decide_eq_true missed, ?_⟩
  intro truthful
  obtain ⟨found, _, told⟩ := truthful.ended 0 .anotherTab (of_decide_eq_true missed)
  rcases told with taken | told
  · cases taken
  · cases told

end Foc.Web.Posting
