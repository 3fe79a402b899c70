import Mathlib
import Foc.Library.EventLoop
import Foc.Library.OrderedMap

/-!
The identity client of the services (`auth-client/identity-client.ts`): who is behind a session
is asked of the User Service once for each burst and remembered for a short time, in a map that
is bounded. Requests, answers, invalidations and the clock interleave in any order.
-/
namespace Foc.Auth
open Library Library.EventLoop

inductive Role where
  | student | admin
  deriving DecidableEq, Repr

inductive Introspection where
  | inactive
  | active (userId status : String) (roles : List Role) (displayName : String)
  deriving DecidableEq, Repr

structure AuthConfig where
  cacheTtlMs : Option Int
  maxCacheEntries : Option Nat

def defaultCacheTtlMs : Int := 5000

def AuthConfig.ttl (config : AuthConfig) : Int := config.cacheTtlMs.getD defaultCacheTtlMs

def AuthConfig.max (config : AuthConfig) : Nat := config.maxCacheEntries.getD 10000

structure Entry where
  value : Introspection
  expiresAt : Int
  userId : String
  /-- How many answers were stored before it. -/
  stored : Nat
  deriving DecidableEq, Repr

/-- A lookup waits for the User Service, then for its own cleanup. -/
inductive Stage where
  | asking | done
  deriving DecidableEq, Repr

structure Lookup where
  key : String
  userId : String
  stage : Stage
  deriving DecidableEq, Repr

structure IdentityClient where
  now : Int
  cache : OrderedMap String Entry
  /-- A user without keys has the empty list. -/
  keysByUser : String → List String
  inflight : String → Option Nat
  lookups : Nat → Option Lookup
  asked : Nat
  stored : Nat

/-- What a caller gets: a remembered answer, or that of a lookup. -/
inductive Reply where
  | hit (value : Introspection)
  | pending (lookup : Nat)
  deriving DecidableEq, Repr

namespace IdentityClient

def start (now : Int) : IdentityClient where
  now := now
  cache := OrderedMap.empty
  keysByUser := fun _ => []
  inflight := fun _ => none
  lookups := fun _ => none
  asked := 0
  stored := 0

def keyOf (sessionId userId : String) : String := sessionId ++ ":" ++ userId

/-- The answer in the cache that is still good. -/
def fresh (client : IdentityClient) (key : String) : Option Entry :=
  (client.cache.get? key).filter fun entry => client.now < entry.expiresAt

def introspect (client : IdentityClient) (sessionId userId : String) : Reply × IdentityClient :=
  let key := keyOf sessionId userId
  match client.fresh key with
  | some entry => (.hit entry.value, client)
  | none =>
    match client.inflight key with
    | some lookup => (.pending lookup, client)
    | none =>
      (.pending client.asked,
        { client with
          inflight := Function.update client.inflight key (some client.asked)
          lookups := Function.update client.lookups client.asked (some ⟨key, userId, .asking⟩)
          asked := client.asked + 1 })

def forget (client : IdentityClient) (key : String) : IdentityClient :=
  match client.cache.get? key with
  | none => client
  | some entry =>
    { client with
      cache := client.cache.delete key
      keysByUser := Function.update client.keysByUser entry.userId
        ((client.keysByUser entry.userId).filter (· ≠ key)) }

def dropExpired (client : IdentityClient) (entry : String × Entry) : IdentityClient :=
  if entry.2.expiresAt ≤ client.now then client.forget entry.1 else client

/-- Drop the expired entries. -/
def purge (client : IdentityClient) : IdentityClient :=
  client.cache.entries.foldl dropExpired client

/-- Still full: drop the first. -/
def evict (client : IdentityClient) (max : Nat) : IdentityClient :=
  match client.cache.entries.head? with
  | some oldest => if max ≤ client.cache.size then client.forget oldest.1 else client
  | none => client

def makeRoom (client : IdentityClient) (max : Nat) : IdentityClient :=
  if max ≤ client.cache.size then client.purge.evict max else client

section Turns

variable (config : AuthConfig) (toLowerCase : String → String)

def store (client : IdentityClient) (key userId : String) (value : Introspection) :
    IdentityClient :=
  let id := toLowerCase userId
  let keys := client.keysByUser id
  { client with
    cache := client.cache.set key ⟨value, client.now + config.ttl, id, client.stored⟩
    keysByUser := Function.update client.keysByUser id (if key ∈ keys then keys else keys ++ [key])
    stored := client.stored + 1 }

def remember (client : IdentityClient) (key userId : String) (value : Introspection) :
    IdentityClient :=
  if config.ttl ≤ 0 then client
  else (client.makeRoom config.max).store config toLowerCase key userId value

def endsWith (text suffix : String) : Bool := suffix.toList.isSuffixOf text.toList

def invalidateUser (client : IdentityClient) (userId : String) : IdentityClient :=
  let id := toLowerCase userId
  { client with
    cache := (client.keysByUser id).foldl OrderedMap.delete client.cache
    keysByUser := Function.update client.keysByUser id []
    inflight := fun key =>
      if endsWith (toLowerCase key) (":" ++ id) then none else client.inflight key }

/-- The lookup's request is over. -/
def ended (client : IdentityClient) (lookup : Nat) (asking : Lookup) : IdentityClient :=
  { client with
    lookups := Function.update client.lookups lookup (some { asking with stage := .done }) }

/-- An answer is remembered only while its lookup is the current one. -/
def answered (client : IdentityClient) (lookup : Nat) (asking : Lookup) (value : Introspection) :
    IdentityClient :=
  if client.inflight asking.key = some lookup then
    (client.ended lookup asking).remember config toLowerCase asking.key asking.userId value
  else client.ended lookup asking

def settled (client : IdentityClient) (lookup : Nat) (over_ : Lookup) : IdentityClient :=
  { client with
    inflight :=
      if client.inflight over_.key = some lookup then Function.update client.inflight over_.key none
      else client.inflight
    lookups := Function.update client.lookups lookup none }

inductive Event where
  | introspect (sessionId userId : String)
  | answered (lookup : Nat) (value : Introspection)
  | failed (lookup : Nat)
  | settled (lookup : Nat)
  | invalidateUser (userId : String)
  | passes (ms : Nat)
  deriving DecidableEq, Repr

/-- The lookup, where it is at the stage. -/
def lookupAt (client : IdentityClient) (lookup : Nat) (stage : Stage) : Option Lookup :=
  (client.lookups lookup).filter fun known => known.stage = stage

def turn (client : IdentityClient) : Event → Option IdentityClient
  | .introspect sessionId userId => some (client.introspect sessionId userId).2
  | .answered lookup value =>
      (client.lookupAt lookup .asking).map fun asking =>
        client.answered config toLowerCase lookup asking value
  | .failed lookup => (client.lookupAt lookup .asking).map (client.ended lookup)
  | .settled lookup => (client.lookupAt lookup .done).map (client.settled lookup)
  | .invalidateUser userId => some (client.invalidateUser toLowerCase userId)
  | .passes ms => some { client with now := client.now + ms }

end Turns

/-! ## What the cache is to be -/

/-- The order of the cache is the order in which its answers were stored. -/
def Aged (client : IdentityClient) : Prop :=
  client.cache.Aged fun earlier later => earlier.stored < later.stored

/-- The entry that makes room, where none of those dropped as expired did. -/
def victim (client : IdentityClient) (max : Nat) : Option (String × Entry) :=
  if max ≤ client.cache.size ∧ max ≤ client.purge.cache.size then
    client.purge.cache.entries.head?
  else none

/-- No other entry in the cache was stored before the one that makes room. -/
def EvictsOldest (max : Nat) (client : IdentityClient) : Prop :=
  ∀ oldest, client.victim max = some oldest →
    ∀ entry ∈ client.purge.cache.entries, oldest.2.stored ≤ entry.2.stored

/-- The answer is remembered under a key whose expired answer is still there, before another's,
for there was room. -/
def Renews (config : AuthConfig) (client : IdentityClient) : Event → Prop
  | .answered lookup _ =>
      ∃ asking ∈ client.lookupAt lookup .asking,
        client.inflight asking.key = some lookup ∧ 0 < config.ttl ∧
        client.cache.size < config.max ∧
        asking.key ∈ client.cache.entries.map Prod.fst ∧
        client.cache.entries.getLast?.map Prod.fst ≠ some asking.key
  | _ => False

/-! ## Entries that leave -/

/-- Entries left the cache, and nothing else changed that a lookup sees. -/
structure Trimmed (client after : IdentityClient) : Prop where
  now : after.now = client.now
  inflight : after.inflight = client.inflight
  lookups : after.lookups = client.lookups
  asked : after.asked = client.asked
  stored : after.stored = client.stored
  entries : after.cache.entries.Sublist client.cache.entries

variable {client middle after : IdentityClient} {key : String} {max : Nat}

theorem Trimmed.refl (client : IdentityClient) : Trimmed client client :=
  ⟨rfl, rfl, rfl, rfl, rfl, List.Sublist.refl _⟩

theorem Trimmed.trans (first : Trimmed client middle) (second : Trimmed middle after) :
    Trimmed client after where
  now := second.now.trans first.now
  inflight := second.inflight.trans first.inflight
  lookups := second.lookups.trans first.lookups
  asked := second.asked.trans first.asked
  stored := second.stored.trans first.stored
  entries := second.entries.trans first.entries

theorem forget_trimmed : Trimmed client (client.forget key) := by
  unfold forget
  split
  · exact Trimmed.refl client
  · exact ⟨rfl, rfl, rfl, rfl, rfl, List.filter_sublist⟩

theorem forget_gone : key ∉ (client.forget key).cache.entries.map Prod.fst := by
  unfold forget
  split
  · rename_i absent
    exact OrderedMap.get_none absent
  · intro member
    obtain ⟨entry, there, is⟩ := List.mem_map.mp member
    have apart := (List.mem_filter.mp there).2
    exact of_decide_eq_true apart is

theorem expired_trimmed (client : IdentityClient) (entry : String × Entry) :
    Trimmed client (client.dropExpired entry) := by
  unfold dropExpired
  split
  · exact forget_trimmed
  · exact Trimmed.refl client

theorem drop_trimmed (entries : List (String × Entry)) (client : IdentityClient) :
    Trimmed client (entries.foldl dropExpired client) := by
  induction entries generalizing client with
  | nil => exact Trimmed.refl client
  | cons entry rest ih =>
    rw [List.foldl_cons]
    exact (expired_trimmed client entry).trans (ih _)

theorem drop_gone (entries : List (String × Entry)) (client : IdentityClient)
    {entry : String × Entry} (member : entry ∈ entries) (expired : entry.2.expiresAt ≤ client.now) :
    entry.1 ∉ (entries.foldl dropExpired client).cache.entries.map Prod.fst := by
  induction entries generalizing client with
  | nil => cases member
  | cons first rest ih =>
    rw [List.foldl_cons]
    rcases List.mem_cons.mp member with rfl | later
    · have dropped : dropExpired client entry = client.forget entry.1 := if_pos expired
      rw [dropped]
      intro there
      have before := ((drop_trimmed rest (client.forget entry.1)).entries.map Prod.fst).subset there
      exact forget_gone before
    · apply ih _ later
      rw [(expired_trimmed client first).now]
      exact expired

theorem purge_trimmed : Trimmed client client.purge := drop_trimmed _ client

theorem purge_gone {entry : Entry} (there : (key, entry) ∈ client.cache.entries)
    (expired : entry.expiresAt ≤ client.now) : key ∉ client.purge.cache.entries.map Prod.fst :=
  drop_gone _ client there expired

theorem evict_trimmed : Trimmed client (client.evict max) := by
  unfold evict
  split
  · split
    · exact forget_trimmed
    · exact Trimmed.refl client
  · exact Trimmed.refl client

theorem room_trimmed : Trimmed client (client.makeRoom max) := by
  unfold makeRoom
  split
  · exact purge_trimmed.trans evict_trimmed
  · exact Trimmed.refl client

/-- In a full cache an expired key is gone before its new answer comes. -/
theorem room_gone {entry : Entry} (full : max ≤ client.cache.size)
    (there : (key, entry) ∈ client.cache.entries) (expired : entry.expiresAt ≤ client.now) :
    key ∉ (client.makeRoom max).cache.entries.map Prod.fst := by
  have is : client.makeRoom max = client.purge.evict max := if_pos full
  have trimmed : Trimmed client.purge (client.purge.evict max) := evict_trimmed
  rw [is]
  intro member
  exact purge_gone there expired ((trimmed.entries.map Prod.fst).subset member)

theorem Aged.trim (aged : client.Aged) (trimmed : Trimmed client after) : after.Aged :=
  List.Pairwise.sublist trimmed.entries aged

/-- In a cache that is in the order of age the first that is left is the oldest. -/
theorem Aged.evicts (aged : client.Aged) (max : Nat) : client.EvictsOldest max := by
  intro oldest chosen entry member
  have kept : client.purge.Aged := aged.trim purge_trimmed
  unfold victim at chosen
  split at chosen
  · obtain ⟨rest, is⟩ := List.head?_eq_some_iff.mp chosen
    have ordered : client.purge.cache.entries.Pairwise
        fun earlier later => earlier.2.stored < later.2.stored := kept
    rw [is] at ordered member
    rcases List.mem_cons.mp member with rfl | later
    · exact Nat.le_refl _
    · exact Nat.le_of_lt ((List.pairwise_cons.mp ordered).1 entry later)
  · cases chosen

/-! ## Lookups -/

/-- A lookup that is current and waits has no good answer in the cache under its key. -/
structure Sound (client : IdentityClient) : Prop where
  older : ∀ entry ∈ client.cache.entries, entry.2.stored < client.stored
  known : ∀ lookup asking, client.lookups lookup = some asking → lookup < client.asked
  current : ∀ key lookup, client.inflight key = some lookup →
    ∃ asking, client.lookups lookup = some asking ∧ asking.key = key ∧
      (asking.stage = .asking → ∀ entry, (key, entry) ∈ client.cache.entries →
        entry.expiresAt ≤ client.now)

theorem start_sound (now : Int) : (start now).Sound where
  older := by
    intro entry member
    cases member
  known := by
    intro lookup asking is
    cases is
  current := by
    intro key lookup is
    cases is

theorem Sound.trim (sound : client.Sound) (trimmed : Trimmed client after) : after.Sound where
  older := by
    intro entry member
    rw [trimmed.stored]
    exact sound.older entry (trimmed.entries.subset member)
  known := by
    rw [trimmed.lookups, trimmed.asked]
    exact sound.known
  current := by
    intro key lookup is
    rw [trimmed.inflight] at is
    obtain ⟨asking, known, same, waits⟩ := sound.current key lookup is
    refine ⟨asking, by rw [trimmed.lookups, known], same, ?_⟩
    intro asks entry member
    rw [trimmed.now]
    exact waits asks entry (trimmed.entries.subset member)

theorem fresh_none (stale : client.fresh key = none) {entry : Entry}
    (there : (key, entry) ∈ client.cache.entries) : entry.expiresAt ≤ client.now := by
  unfold fresh at stale
  rw [OrderedMap.get_of_mem there, Option.filter_some] at stale
  split at stale
  · cases stale
  · rename_i expired
    simpa using expired

theorem introspect_sound (sound : client.Sound) (sessionId userId : String) :
    (client.introspect sessionId userId).2.Sound := by
  unfold introspect
  dsimp only
  cases stale : client.fresh (keyOf sessionId userId) with
  | some entry => exact sound
  | none =>
    cases none_ : client.inflight (keyOf sessionId userId) with
    | some lookup => exact sound
    | none =>
      dsimp only
      refine ⟨sound.older, ?_, ?_⟩
      · intro lookup asking is
        dsimp only at is ⊢
        rw [Function.update_apply] at is
        split at is
        · rename_i same
          omega
        · exact Nat.lt_succ_of_lt (sound.known lookup asking is)
      · intro key lookup is
        dsimp only at is ⊢
        rw [Function.update_apply] at is
        split at is
        · rename_i same
          cases is
          refine ⟨_, Function.update_self _ _ _, same.symm, ?_⟩
          intro _ entry there
          rw [same] at there
          exact fresh_none stale there
        · obtain ⟨asking, known, same, waits⟩ := sound.current key lookup is
          have earlier : lookup ≠ client.asked := Nat.ne_of_lt (sound.known lookup asking known)
          exact ⟨asking, by rw [Function.update_of_ne earlier, known], same, waits⟩

section Turns

variable {config : AuthConfig} {toLowerCase : String → String} {lookup : Nat} {asking : Lookup}
  {stage : Stage} {value : Introspection} {userId : String}

theorem lookup_at (found : client.lookupAt lookup stage = some asking) :
    client.lookups lookup = some asking ∧ asking.stage = stage := by
  obtain ⟨known, is⟩ := Option.filter_eq_some_iff.mp found
  exact ⟨known, of_decide_eq_true is⟩

theorem ended_sound (sound : client.Sound) (known : client.lookups lookup = some asking) :
    (client.ended lookup asking).Sound := by
  refine ⟨sound.older, ?_, ?_⟩
  · intro other found is
    dsimp only [ended] at is ⊢
    rw [Function.update_apply] at is
    split at is
    · rename_i same
      rw [same]
      exact sound.known lookup asking known
    · exact sound.known other found is
  · intro key other is
    obtain ⟨found, there, same, waits⟩ := sound.current key other is
    dsimp only [ended]
    by_cases ours : other = lookup
    · rw [ours, known] at there
      cases there
      refine ⟨{ asking with stage := .done }, by rw [ours, Function.update_self], same, ?_⟩
      intro asks
      cases asks
    · exact ⟨found, by rw [Function.update_of_ne ours, there], same, waits⟩

/-- A lookup that ended and is current is alone under its key, so its answer may be stored. -/
theorem store_sound (sound : client.Sound) (current : client.inflight key = some lookup)
    (known : client.lookups lookup = some asking) (over_ : asking.stage = .done) :
    (client.store config toLowerCase key userId value).Sound := by
  refine ⟨?_, sound.known, ?_⟩
  · intro entry member
    rcases OrderedMap.mem_set member with before | rfl
    · exact Nat.lt_succ_of_lt (sound.older entry before)
    · exact Nat.lt_succ_self _
  · intro other call is
    obtain ⟨found, there, same, waits⟩ := sound.current other call is
    refine ⟨found, there, same, ?_⟩
    intro asks entry member
    rcases OrderedMap.mem_set member with before | new
    · exact waits asks entry before
    · have equal : other = key := congrArg Prod.fst new
      have is' : client.inflight other = some call := is
      rw [equal, current] at is'
      cases is'
      rw [known] at there
      cases there
      rw [over_] at asks
      cases asks

theorem answered_sound (sound : client.Sound) (known : client.lookups lookup = some asking) :
    (client.answered config toLowerCase lookup asking value).Sound := by
  have ended := ended_sound sound known
  unfold answered
  split
  · rename_i current
    unfold remember
    split
    · exact ended
    · have trimmed : Trimmed (client.ended lookup asking)
          ((client.ended lookup asking).makeRoom config.max) := room_trimmed
      have still : ((client.ended lookup asking).makeRoom config.max).inflight asking.key =
          some lookup := by
        rw [trimmed.inflight]
        exact current
      have done_ : ((client.ended lookup asking).makeRoom config.max).lookups lookup =
          some { asking with stage := .done } := by
        rw [trimmed.lookups]
        exact Function.update_self _ _ _
      exact store_sound (ended.trim trimmed) still done_ rfl
  · exact ended

theorem settled_sound (sound : client.Sound) (known : client.lookups lookup = some asking) :
    (client.settled lookup asking).Sound := by
  refine ⟨sound.older, ?_, ?_⟩
  · intro other found is
    dsimp only [settled] at is ⊢
    rw [Function.update_apply] at is
    split at is
    · cases is
    · exact sound.known other found is
  · intro key other is
    have apart : other ≠ lookup ∧ client.inflight key = some other := by
      dsimp only [settled] at is
      split at is
      · rename_i ours
        rw [Function.update_apply] at is
        split at is
        · cases is
        · rename_i different
          refine ⟨?_, is⟩
          rintro rfl
          obtain ⟨found, there, same, -⟩ := sound.current key other is
          rw [known] at there
          cases there
          exact different same.symm
      · rename_i detached
        refine ⟨?_, is⟩
        rintro rfl
        obtain ⟨found, there, same, -⟩ := sound.current key other is
        rw [known] at there
        cases there
        rw [same] at detached
        exact detached is
    obtain ⟨found, there, same, waits⟩ := sound.current key other apart.2
    refine ⟨found, ?_, same, waits⟩
    dsimp only [settled]
    rw [Function.update_of_ne apart.1, there]

theorem delete_all (keys : List String) (cache : OrderedMap String Entry) :
    (keys.foldl OrderedMap.delete cache).entries.Sublist cache.entries := by
  induction keys generalizing cache with
  | nil => exact List.Sublist.refl _
  | cons key rest ih => exact (ih _).trans List.filter_sublist

theorem invalidate_sound (sound : client.Sound) :
    (client.invalidateUser toLowerCase userId).Sound := by
  have fewer := delete_all (client.keysByUser (toLowerCase userId)) client.cache
  refine ⟨?_, sound.known, ?_⟩
  · intro entry member
    exact sound.older entry (fewer.subset member)
  · intro key lookup is
    dsimp only [invalidateUser] at is
    split at is
    · cases is
    · obtain ⟨asking, known, same, waits⟩ := sound.current key lookup is
      refine ⟨asking, known, same, ?_⟩
      intro asks entry member
      exact waits asks entry (fewer.subset member)

theorem passes_sound (sound : client.Sound) (ms : Nat) :
    { client with now := client.now + ms }.Sound := by
  refine ⟨sound.older, sound.known, ?_⟩
  intro key lookup is
  obtain ⟨asking, known, same, waits⟩ := sound.current key lookup is
  refine ⟨asking, known, same, ?_⟩
  intro asks entry member
  have expired := waits asks entry member
  dsimp only
  omega

theorem turn_sound (sound : client.Sound) {event : Event}
    (turned : client.turn config toLowerCase event = some after) : after.Sound := by
  cases event with
  | introspect sessionId userId =>
    cases turned
    exact introspect_sound sound sessionId userId
  | answered lookup value =>
    obtain ⟨asking, found, rfl⟩ := Option.map_eq_some_iff.mp turned
    exact answered_sound sound (lookup_at found).1
  | failed lookup =>
    obtain ⟨asking, found, rfl⟩ := Option.map_eq_some_iff.mp turned
    exact ended_sound sound (lookup_at found).1
  | settled lookup =>
    obtain ⟨asking, found, rfl⟩ := Option.map_eq_some_iff.mp turned
    exact settled_sound sound (lookup_at found).1
  | invalidateUser userId =>
    cases turned
    exact invalidate_sound sound
  | passes ms =>
    cases turned
    exact passes_sound sound ms

/-! ## Age -/

theorem store_new (aged : client.Aged) (sound : client.Sound)
    (absent : key ∉ client.cache.entries.map Prod.fst) :
    (client.store config toLowerCase key userId value).Aged :=
  OrderedMap.Aged.set_new aged absent sound.older

theorem store_held (aged : client.Aged) (sound : client.Sound)
    (held : key ∈ client.cache.entries.map Prod.fst) :
    (client.store config toLowerCase key userId value).Aged ↔
      client.cache.entries.getLast?.map Prod.fst = some key := by
  refine OrderedMap.aged_set_held aged held sound.older ?_
  intro entry member
  exact Nat.not_lt.mpr (Nat.le_of_lt (sound.older entry member))

/-- The answer of a current lookup, where it is kept for some time. -/
theorem remember_aged (aged : client.Aged) (sound : client.Sound)
    (waits : ∀ entry, (key, entry) ∈ client.cache.entries → entry.expiresAt ≤ client.now) :
    (client.remember config toLowerCase key userId value).Aged ↔
      ¬ (0 < config.ttl ∧ client.cache.size < config.max ∧
        key ∈ client.cache.entries.map Prod.fst ∧
        client.cache.entries.getLast?.map Prod.fst ≠ some key) := by
  unfold remember
  by_cases kept : config.ttl ≤ 0
  · rw [if_pos kept]
    refine iff_of_true aged ?_
    rintro ⟨positive, -⟩
    omega
  rw [if_neg kept]
  have trimmed : Trimmed client (client.makeRoom config.max) := room_trimmed
  by_cases full : config.max ≤ client.cache.size
  · have absent : key ∉ (client.makeRoom config.max).cache.entries.map Prod.fst := by
      intro member
      have before := (trimmed.entries.map Prod.fst).subset member
      obtain ⟨⟨_, entry⟩, there, rfl⟩ := List.mem_map.mp before
      exact room_gone full there (waits entry there) member
    refine iff_of_true (store_new (aged.trim trimmed) (sound.trim trimmed) absent) ?_
    rintro ⟨-, room, -⟩
    omega
  · have same : client.makeRoom config.max = client := if_neg full
    rw [same]
    by_cases held : key ∈ client.cache.entries.map Prod.fst
    · rw [store_held aged sound held]
      constructor
      · intro last renews
        exact renews.2.2.2 last
      · intro steady
        by_contra middle
        exact steady ⟨by omega, by omega, held, middle⟩
    · refine iff_of_true (store_new aged sound held) ?_
      rintro ⟨-, -, member, -⟩
      exact held member

theorem answered_aged (aged : client.Aged) (sound : client.Sound)
    (found : client.lookupAt lookup .asking = some asking) :
    (client.answered config toLowerCase lookup asking value).Aged ↔
      ¬ Renews config client (.answered lookup value) := by
  obtain ⟨known, asks⟩ := lookup_at found
  have renews : Renews config client (.answered lookup value) ↔
      client.inflight asking.key = some lookup ∧ 0 < config.ttl ∧
        client.cache.size < config.max ∧ asking.key ∈ client.cache.entries.map Prod.fst ∧
        client.cache.entries.getLast?.map Prod.fst ≠ some asking.key := by
    constructor
    · rintro ⟨other, there, rest⟩
      rw [found] at there
      cases there
      exact rest
    · intro rest
      exact ⟨asking, found, rest⟩
  rw [renews]
  unfold answered
  by_cases current : client.inflight asking.key = some lookup
  · rw [if_pos current]
    have waits : ∀ entry, (asking.key, entry) ∈ client.cache.entries →
        entry.expiresAt ≤ client.now := by
      obtain ⟨other, there, -, waits⟩ := sound.current asking.key lookup current
      rw [known] at there
      cases there
      exact waits asks
    rw [and_iff_right current]
    exact remember_aged aged (ended_sound sound known) waits
  · rw [if_neg current]
    refine iff_of_true aged ?_
    rintro ⟨there, -⟩
    exact current there

theorem turn_aged (aged : client.Aged) (sound : client.Sound) {event : Event}
    (turned : client.turn config toLowerCase event = some after) :
    after.Aged ↔ ¬ Renews config client event := by
  cases event with
  | answered lookup value =>
    obtain ⟨asking, found, rfl⟩ := Option.map_eq_some_iff.mp turned
    exact answered_aged aged sound found
  | introspect sessionId userId =>
    cases turned
    refine iff_of_true ?_ id
    unfold introspect
    dsimp only
    split
    · exact aged
    · split <;> exact aged
  | failed lookup =>
    obtain ⟨asking, found, rfl⟩ := Option.map_eq_some_iff.mp turned
    exact iff_of_true aged id
  | settled lookup =>
    obtain ⟨asking, found, rfl⟩ := Option.map_eq_some_iff.mp turned
    exact iff_of_true aged id
  | invalidateUser userId =>
    cases turned
    exact iff_of_true (List.Pairwise.sublist (delete_all _ _) aged) id
  | passes ms =>
    cases turned
    exact iff_of_true aged id

end Turns

/-! ## Runs -/

section Runs

variable (config : AuthConfig) (toLowerCase : String → String)

instance (client : IdentityClient) (event : Event) : Decidable (Renews config client event) := by
  cases event <;> unfold Renews <;> infer_instance

/-- A turn that renews no expired answer while there is room. -/
def steadyTurn (client : IdentityClient) (event : Event) : Option IdentityClient :=
  if Renews config client event then none else client.turn config toLowerCase event

variable {config toLowerCase}

/-- What every steady turn keeps. -/
structure Steady (client : IdentityClient) : Prop where
  aged : client.Aged
  sound : client.Sound

theorem steady_turn (kept : client.Steady) {event : Event}
    (turned : steadyTurn config toLowerCase client event = some after) : after.Steady := by
  unfold steadyTurn at turned
  split at turned
  · cases turned
  · rename_i steady
    exact ⟨(turn_aged kept.aged kept.sound turned).mpr steady, turn_sound kept.sound turned⟩

/-- Two sessions in a cache of three that keeps answers for 10 ms. -/
def small : AuthConfig := ⟨some 10, some 3⟩

def ben : Introspection := .active "ben" "ACTIVE" [.student] "Ben"

/-- One session is asked about and answered. -/
def asksOnce (session : String) (lookup : Nat) : List Event :=
  [.introspect session "ben", .answered lookup ben, .settled lookup]

/-- Two answers, the second after the first. -/
def inTurn : List Event := asksOnce "a" 0 ++ [.passes 5] ++ asksOnce "b" 1

/-- The first session's answer expires and is renewed in its place; a third fills the cache. -/
def renewal : List Event :=
  asksOnce "a" 0 ++ [.passes 5] ++ asksOnce "b" 1 ++ [.passes 7] ++ asksOnce "a" 2 ++ [.passes 1] ++
    asksOnce "c" 3

end Runs

end IdentityClient

end Foc.Auth
