import Foc.Auth.IdentityCache
import Mathlib

/-!
Answers are no older than the last invalidation of their user, and no older than the time they
are kept. Users' ids are UUIDs: they have no colon, so a key tells whose it is, and lower case is
a matter of each letter.
-/
namespace Foc.Auth
open Library Library.EventLoop
namespace IdentityClient

/-! ## Keys -/

def Plain (text : String) : Prop := ∀ char ∈ text.toList, char.toNat < 128

def PlainUser (userId : String) : Prop := Plain userId ∧ ':' ∉ userId.toList

def Event.plain : Event → Prop
  | .introspect sessionId userId => Plain sessionId ∧ PlainUser userId
  | .invalidateUser userId => PlainUser userId
  | _ => True

/-- What `toLowerCase` does to ASCII. -/
def Lowers (toLowerCase : String → String) : Prop :=
  ∀ text, Plain text → toLowerCase text = String.ofList (text.toList.map Char.toLower)

/-- What follows the last colon of a key. -/
def userOf (key : String) : List Char := (key.toList.reverse.takeWhile (· ≠ ':')).reverse

def idOf (toLowerCase : String → String) (key : String) : String :=
  toLowerCase (String.ofList (userOf key))

variable {config : AuthConfig} {toLowerCase : String → String} {client after : IdentityClient}
  {sessionId userId key : String} {event : Event} {lookup : Nat} {asking : Lookup}
  {value : Introspection} {max : Nat}

theorem user_of_key (colonless : ':' ∉ userId.toList) :
    userOf (keyOf sessionId userId) = userId.toList := by
  have parts : (keyOf sessionId userId).toList.reverse =
      userId.toList.reverse ++ ':' :: sessionId.toList.reverse := by
    simp [keyOf, String.toList_append]
  rw [userOf, parts, List.takeWhile_append_of_pos, List.takeWhile_cons_of_neg (by simp),
    List.append_nil, List.reverse_reverse]
  intro char member
  simp only [ne_eq, decide_eq_true_eq]
  rintro rfl
  exact colonless (List.mem_reverse.mp member)

theorem id_of_key (plain : PlainUser userId) :
    idOf toLowerCase (keyOf sessionId userId) = toLowerCase userId := by
  rw [idOf, user_of_key plain.2, String.ofList_toList]

theorem key_plain (session : Plain sessionId) (user : Plain userId) :
    Plain (keyOf sessionId userId) := by
  intro char member
  simp only [keyOf, String.toList_append, List.mem_append] at member
  rcases member with (one | colon) | two
  · exact session char one
  · have is : char = ':' := by simpa using colon
    rw [is]
    decide
  · exact user char two

/-- An invalidation detaches every lookup under a key of the user. -/
theorem key_ends (lowers : Lowers toLowerCase) (session : Plain sessionId)
    (user : PlainUser userId) :
    endsWith (toLowerCase (keyOf sessionId userId)) (":" ++ toLowerCase userId) = true := by
  rw [lowers _ (key_plain session user.1), lowers _ user.1, endsWith, List.isSuffixOf_iff_suffix]
  refine ⟨sessionId.toList.map Char.toLower, ?_⟩
  simp [keyOf, String.toList_append]

/-! ## What a turn changes -/

theorem ended_lookups {other : Nat} {found : Lookup}
    (known : client.lookups lookup = some asking)
    (there : (client.ended lookup asking).lookups other = some found) :
    ∃ old, client.lookups other = some old ∧ old.key = found.key ∧ old.userId = found.userId ∧
      (old.stage = .done → found.stage = .done) ∧ (other = lookup → found.stage = .done) := by
  dsimp only [ended] at there
  by_cases same : other = lookup
  · rw [same, Function.update_self] at there
    cases there
    exact ⟨asking, same ▸ known, rfl, rfl, fun _ => rfl, fun _ => rfl⟩
  · rw [Function.update_of_ne same] at there
    exact ⟨found, there, rfl, rfl, id, fun is => absurd is same⟩

theorem remember_frame : (client.remember config toLowerCase key userId value).inflight =
      client.inflight ∧
    (client.remember config toLowerCase key userId value).lookups = client.lookups ∧
    (client.remember config toLowerCase key userId value).asked = client.asked ∧
    (client.remember config toLowerCase key userId value).now = client.now := by
  unfold remember
  split
  · exact ⟨rfl, rfl, rfl, rfl⟩
  · have trimmed : Trimmed client (client.makeRoom config.max) := room_trimmed
    exact ⟨trimmed.inflight, trimmed.lookups, trimmed.asked, trimmed.now⟩

theorem answered_frame : (client.answered config toLowerCase lookup asking value).inflight =
      client.inflight ∧
    (client.answered config toLowerCase lookup asking value).lookups =
      (client.ended lookup asking).lookups ∧
    (client.answered config toLowerCase lookup asking value).asked = client.asked ∧
    (client.answered config toLowerCase lookup asking value).now = client.now := by
  unfold answered
  split
  · exact remember_frame
  · exact ⟨rfl, rfl, rfl, rfl⟩

/-- A lookup is known from before, or is the one that the call starts. -/
theorem turn_lookups (turned : client.turn config toLowerCase event = some after) {other : Nat}
    {found : Lookup} (there : after.lookups other = some found) :
    (∃ old, client.lookups other = some old ∧ old.key = found.key ∧ old.userId = found.userId ∧
      (old.stage = .done → found.stage = .done) ∧
      ((∃ value, event = .answered other value) ∨ event = .failed other → found.stage = .done)) ∨
    ∃ sessionId userId, event = .introspect sessionId userId ∧ other = client.asked ∧
      found = ⟨keyOf sessionId userId, userId, .asking⟩ := by
  cases event with
  | introspect sessionId userId =>
    have old (same : client.lookups other = some found) :
        ∃ old, client.lookups other = some old ∧ old.key = found.key ∧ old.userId = found.userId ∧
          (old.stage = .done → found.stage = .done) ∧
          ((∃ value, Event.introspect sessionId userId = .answered other value) ∨
            Event.introspect sessionId userId = .failed other → found.stage = .done) := by
      refine ⟨found, same, rfl, rfl, id, ?_⟩
      rintro (⟨value, is⟩ | is) <;> cases is
    cases turned
    unfold introspect at there
    dsimp only at there
    split at there
    · exact .inl (old there)
    · split at there
      · exact .inl (old there)
      · dsimp only at there
        rw [Function.update_apply] at there
        split at there
        · rename_i same
          cases there
          exact .inr ⟨sessionId, userId, rfl, same, rfl⟩
        · exact .inl (old there)
  | answered lookup value =>
    obtain ⟨asking, known, rfl⟩ := Option.map_eq_some_iff.mp turned
    rw [answered_frame.2.1] at there
    obtain ⟨old, before, sameKey, sameUser, stays, ends⟩ := ended_lookups (lookup_at known).1 there
    refine .inl ⟨old, before, sameKey, sameUser, stays, ?_⟩
    rintro (⟨_, is⟩ | is)
    · cases is
      exact ends rfl
    · cases is
  | failed lookup =>
    obtain ⟨asking, known, rfl⟩ := Option.map_eq_some_iff.mp turned
    obtain ⟨old, before, sameKey, sameUser, stays, ends⟩ := ended_lookups (lookup_at known).1 there
    refine .inl ⟨old, before, sameKey, sameUser, stays, ?_⟩
    rintro (⟨_, is⟩ | is)
    · cases is
    · cases is
      exact ends rfl
  | settled lookup =>
    obtain ⟨asking, known, rfl⟩ := Option.map_eq_some_iff.mp turned
    dsimp only [settled] at there
    rw [Function.update_apply] at there
    split at there
    · cases there
    · refine .inl ⟨found, there, rfl, rfl, id, ?_⟩
      rintro (⟨value, is⟩ | is) <;> cases is
  | invalidateUser userId =>
    cases turned
    refine .inl ⟨found, there, rfl, rfl, id, ?_⟩
    rintro (⟨value, is⟩ | is) <;> cases is
  | passes ms =>
    cases turned
    refine .inl ⟨found, there, rfl, rfl, id, ?_⟩
    rintro (⟨value, is⟩ | is) <;> cases is

theorem turn_asked (turned : client.turn config toLowerCase event = some after) :
    client.asked ≤ after.asked := by
  cases event with
  | introspect sessionId userId =>
    cases turned
    unfold introspect
    dsimp only
    split
    · exact le_refl _
    · split
      · exact le_refl _
      · exact Nat.le_succ _
  | answered lookup value =>
    obtain ⟨asking, known, rfl⟩ := Option.map_eq_some_iff.mp turned
    exact le_of_eq answered_frame.2.2.1.symm
  | failed lookup | settled lookup =>
    obtain ⟨asking, known, rfl⟩ := Option.map_eq_some_iff.mp turned
    exact le_refl _
  | invalidateUser userId | passes ms =>
    cases turned
    exact le_refl _

/-- A lookup is attached from before, or is the one that the call starts. -/
theorem turn_inflight (turned : client.turn config toLowerCase event = some after)
    (attached : after.inflight key = some lookup) :
    client.inflight key = some lookup ∨ lookup = client.asked := by
  cases event with
  | introspect sessionId userId =>
    cases turned
    unfold introspect at attached
    dsimp only at attached
    split at attached
    · exact .inl attached
    · split at attached
      · exact .inl attached
      · dsimp only at attached
        rw [Function.update_apply] at attached
        split at attached
        · cases attached
          exact .inr rfl
        · exact .inl attached
  | answered other value =>
    obtain ⟨asking, known, rfl⟩ := Option.map_eq_some_iff.mp turned
    rw [answered_frame.1] at attached
    exact .inl attached
  | failed other =>
    obtain ⟨asking, known, rfl⟩ := Option.map_eq_some_iff.mp turned
    exact .inl attached
  | settled other =>
    obtain ⟨asking, known, rfl⟩ := Option.map_eq_some_iff.mp turned
    dsimp only [settled] at attached
    split at attached
    · rw [Function.update_apply] at attached
      split at attached
      · cases attached
      · exact .inl attached
    · exact .inl attached
  | invalidateUser userId =>
    cases turned
    dsimp only [invalidateUser] at attached
    split at attached
    · cases attached
    · exact .inl attached
  | passes ms =>
    cases turned
    exact .inl attached

/-- The entry is the answer of the lookup that was attached under its key. -/
structure Answers (config : AuthConfig) (toLowerCase : String → String) (client : IdentityClient)
    (event : Event) (entry : String × Entry) (lookup : Nat) (asking : Lookup) : Prop where
  event : event = .answered lookup entry.2.value
  known : client.lookups lookup = some asking
  asks : asking.stage = .asking
  attached : client.inflight asking.key = some lookup
  key : entry.1 = asking.key
  user : entry.2.userId = toLowerCase asking.userId
  expires : entry.2.expiresAt = client.now + config.ttl

/-- An entry is there from before, or is an answer that just came. -/
theorem turn_entries (turned : client.turn config toLowerCase event = some after)
    {entry : String × Entry} (there : entry ∈ after.cache.entries) :
    entry ∈ client.cache.entries ∨
      ∃ lookup asking, Answers config toLowerCase client event entry lookup asking := by
  cases event with
  | introspect sessionId userId =>
    cases turned
    unfold introspect at there
    dsimp only at there
    split at there
    · exact .inl there
    · split at there <;> exact .inl there
  | answered lookup value =>
    obtain ⟨asking, known, rfl⟩ := Option.map_eq_some_iff.mp turned
    obtain ⟨before, asks⟩ := lookup_at known
    unfold answered at there
    split at there
    · rename_i attached
      unfold remember at there
      split at there
      · exact .inl there
      · have trimmed : Trimmed (client.ended lookup asking)
            ((client.ended lookup asking).makeRoom config.max) := room_trimmed
        rcases OrderedMap.mem_set there with old | rfl
        · exact .inl (trimmed.entries.subset old)
        · refine .inr ⟨lookup, asking, rfl, before, asks, attached, rfl, rfl, ?_⟩
          dsimp only
          rw [trimmed.now]
          rfl
    · exact .inl there
  | failed other =>
    obtain ⟨asking, known, rfl⟩ := Option.map_eq_some_iff.mp turned
    exact .inl there
  | settled other =>
    obtain ⟨asking, known, rfl⟩ := Option.map_eq_some_iff.mp turned
    exact .inl there
  | invalidateUser userId =>
    cases turned
    exact .inl ((delete_all _ _).subset there)
  | passes ms =>
    cases turned
    exact .inl there

/-! ## Keys and bounds -/

section Maps

open OrderedMap

variable {map : OrderedMap String Entry} {entry : Entry} {other : String}

theorem get_iff : map.get? key = some entry ↔ (key, entry) ∈ map.entries :=
  ⟨get_some, get_of_mem⟩

theorem get_delete :
    (map.delete key).get? other = if other = key then none else map.get? other := by
  apply Option.ext
  intro found
  rw [get_iff, OrderedMap.delete, List.mem_filter]
  by_cases same : other = key
  · simp [same]
  · rw [if_neg same, get_iff]
    simp [same]

theorem mem_set_iff {item : String × Entry} :
    item ∈ (map.set key entry).entries ↔
      item = (key, entry) ∨ item.1 ≠ key ∧ item ∈ map.entries := by
  by_cases held : key ∈ map.entries.map Prod.fst
  · rw [set_held held, replaced, List.mem_map]
    constructor
    · rintro ⟨old, there, rfl⟩
      split
      · exact .inl rfl
      · rename_i differs
        exact .inr ⟨differs, there⟩
    · rintro (rfl | ⟨differs, there⟩)
      · obtain ⟨old, there, is⟩ := List.mem_map.mp held
        exact ⟨old, there, if_pos is⟩
      · exact ⟨item, there, if_neg differs⟩
  · rw [set_new held, List.mem_append, List.mem_singleton]
    constructor
    · rintro (there | is)
      · exact .inr ⟨fun same => held (same ▸ List.mem_map_of_mem there), there⟩
      · exact .inl is
    · rintro (is | ⟨-, there⟩)
      · exact .inr is
      · exact .inl there

theorem get_set : (map.set key entry).get? other =
    if other = key then some entry else map.get? other := by
  apply Option.ext
  intro found
  rw [get_iff, mem_set_iff]
  by_cases same : other = key
  · simp [same, eq_comm]
  · rw [if_neg same, get_iff]
    simp [same]

theorem get_delete_all (keys : List String) (map : OrderedMap String Entry) :
    (keys.foldl OrderedMap.delete map).get? other =
      if other ∈ keys then none else map.get? other := by
  induction keys generalizing map with
  | nil => simp
  | cons key rest ih =>
    rw [List.foldl_cons, ih, get_delete]
    by_cases same : other = key
    · simp [same]
    · simp [same]

theorem set_size : (map.set key entry).size ≤ map.size + 1 := by
  unfold OrderedMap.size
  by_cases held : key ∈ map.entries.map Prod.fst
  · rw [set_held held, replaced, List.length_map]
    exact Nat.le_succ _
  · rw [set_new held, List.length_append, List.length_singleton]

end Maps

/-- `keysByUser` has the keys in the cache, each under the user of its entry. -/
def Index (client : IdentityClient) : Prop :=
  ∀ id key, key ∈ client.keysByUser id ↔
    ∃ entry, client.cache.get? key = some entry ∧ entry.userId = id

theorem forget_index (index : client.Index) : (client.forget key).Index := by
  unfold forget
  split
  · exact index
  · rename_i entry found
    intro id other
    dsimp only
    rw [get_delete, Function.update_apply]
    by_cases owner : id = entry.userId
    · rw [if_pos owner, List.mem_filter, owner, index]
      by_cases same : other = key
      · simp [same]
      · simp [same]
    · rw [if_neg owner, index]
      by_cases same : other = key
      · rw [if_pos same, same]
        constructor
        · rintro ⟨held, there, is⟩
          cases found.symm.trans there
          exact absurd is.symm owner
        · rintro ⟨_, no, _⟩
          cases no
      · rw [if_neg same]

theorem drop_index (entries : List (String × Entry)) (index : client.Index) :
    (entries.foldl dropExpired client).Index := by
  induction entries generalizing client with
  | nil => exact index
  | cons entry rest ih =>
    apply ih
    unfold dropExpired
    split
    · exact forget_index index
    · exact index

theorem room_index (index : client.Index) : (client.makeRoom max).Index := by
  unfold makeRoom
  split
  · have purged : client.purge.Index := drop_index _ index
    unfold evict
    split
    · split
      · exact forget_index purged
      · exact purged
    · exact purged
  · exact index

theorem store_index (index : client.Index)
    (owned : ∀ entry, client.cache.get? key = some entry → entry.userId = toLowerCase userId) :
    (client.store config toLowerCase key userId value).Index := by
  intro id other
  dsimp only [store]
  rw [Function.update_apply, get_set]
  by_cases owner : id = toLowerCase userId
  · rw [if_pos owner]
    by_cases same : other = key
    · rw [if_pos same, same]
      refine iff_of_true ?_ ⟨_, rfl, owner.symm⟩
      split
      · assumption
      · exact List.mem_append_right _ (List.mem_singleton_self _)
    · rw [if_neg same, owner, ← index]
      split
      · exact Iff.rfl
      · simp [same]
  · rw [if_neg owner]
    by_cases same : other = key
    · rw [if_pos same, same, index]
      constructor
      · rintro ⟨held, there, is⟩
        exact absurd (is.symm.trans (owned held there)) owner
      · rintro ⟨_, is, own⟩
        cases is
        exact absurd own.symm owner
    · rw [if_neg same, index]

theorem invalidate_index (index : client.Index) :
    (client.invalidateUser toLowerCase userId).Index := by
  intro id other
  dsimp only [invalidateUser]
  rw [Function.update_apply, get_delete_all]
  by_cases owner : id = toLowerCase userId
  · rw [if_pos owner]
    refine iff_of_false List.not_mem_nil ?_
    rintro ⟨entry, found, is⟩
    split at found
    · cases found
    · rename_i away
      exact away ((index _ _).mpr ⟨entry, found, is.trans owner⟩)
  · rw [if_neg owner, index]
    by_cases gone : other ∈ client.keysByUser (toLowerCase userId)
    · obtain ⟨entry, found, is⟩ := (index _ _).mp gone
      rw [if_pos gone]
      constructor
      · rintro ⟨held, there, own⟩
        cases found.symm.trans there
        exact absurd (own.symm.trans is) owner
      · rintro ⟨_, no, _⟩
        cases no
    · rw [if_neg gone]

theorem forget_size {entry : Entry} (there : (key, entry) ∈ client.cache.entries) :
    (client.forget key).cache.size < client.cache.size := by
  unfold forget
  rw [OrderedMap.get_of_mem there]
  exact List.length_filter_lt_length_iff_exists.mpr ⟨_, there, by simp⟩

theorem room_size (bounded : client.cache.size ≤ max) (some_ : 1 ≤ max) :
    (client.makeRoom max).cache.size < max := by
  unfold makeRoom
  split
  · have fewer : client.purge.cache.size ≤ client.cache.size := purge_trimmed.entries.length_le
    unfold evict
    split
    · rename_i oldest first
      split
      · exact (forget_size (List.mem_of_head? first)).trans_le (fewer.trans bounded)
      · omega
    · rename_i empty
      have none_ : client.purge.cache.entries = [] := List.head?_eq_none_iff.mp empty
      unfold OrderedMap.size
      rw [none_]
      exact some_
  · omega

/-- The maps fit each other, and the keys are those of calls. -/
structure Indexed (config : AuthConfig) (toLowerCase : String → String)
    (client : IdentityClient) :
    Prop where
  asked : ∀ lookup asking, client.lookups lookup = some asking → ∃ sessionId,
    asking.key = keyOf sessionId asking.userId ∧ Plain sessionId ∧ PlainUser asking.userId
  owner : ∀ entry ∈ client.cache.entries, entry.2.userId = idOf toLowerCase entry.1
  index : client.Index
  bounded : 1 ≤ config.max → client.cache.size ≤ config.max

theorem start_indexed (now : Int) : (start now).Indexed config toLowerCase := by
  refine ⟨?_, ?_, ?_, fun _ => Nat.zero_le _⟩
  · intro lookup asking known
    cases known
  · intro entry member
    cases member
  · intro id key
    refine iff_of_false List.not_mem_nil ?_
    rintro ⟨entry, found, -⟩
    cases found

theorem asking_id (indexed : client.Indexed config toLowerCase)
    (known : client.lookups lookup = some asking) :
    idOf toLowerCase asking.key = toLowerCase asking.userId := by
  obtain ⟨sessionId, is, -, plain⟩ := indexed.asked lookup asking known
  rw [is]
  exact id_of_key plain

theorem answered_index (indexed : client.Indexed config toLowerCase)
    (known : client.lookups lookup = some asking) :
    (client.answered config toLowerCase lookup asking value).Index ∧
      (1 ≤ config.max →
        (client.answered config toLowerCase lookup asking value).cache.size ≤ config.max) := by
  unfold answered
  split
  · unfold remember
    split
    · exact ⟨indexed.index, indexed.bounded⟩
    · have ended : (client.ended lookup asking).Index := indexed.index
      constructor
      · apply store_index (room_index ended)
        intro entry found
        have trimmed : Trimmed (client.ended lookup asking)
            ((client.ended lookup asking).makeRoom config.max) := room_trimmed
        have there := trimmed.entries.subset (OrderedMap.get_some found)
        exact (indexed.owner _ there).trans (asking_id indexed known)
      · intro some_
        have room : ((client.ended lookup asking).makeRoom config.max).cache.size < config.max :=
          room_size (indexed.bounded some_) some_
        exact set_size.trans room
  · exact ⟨indexed.index, indexed.bounded⟩

theorem turn_indexed (plain : event.plain) (indexed : client.Indexed config toLowerCase)
    (turned : client.turn config toLowerCase event = some after) :
    after.Indexed config toLowerCase := by
  have kept : after.Index ∧ (1 ≤ config.max → after.cache.size ≤ config.max) := by
    cases event with
    | introspect sessionId userId =>
      cases turned
      unfold introspect
      dsimp only
      split
      · exact ⟨indexed.index, indexed.bounded⟩
      · split <;> exact ⟨indexed.index, indexed.bounded⟩
    | answered lookup value =>
      obtain ⟨asking, known, rfl⟩ := Option.map_eq_some_iff.mp turned
      exact answered_index indexed (lookup_at known).1
    | failed lookup | settled lookup =>
      obtain ⟨asking, known, rfl⟩ := Option.map_eq_some_iff.mp turned
      exact ⟨indexed.index, indexed.bounded⟩
    | invalidateUser userId =>
      cases turned
      refine ⟨invalidate_index indexed.index, fun some_ => ?_⟩
      exact (delete_all _ _).length_le.trans (indexed.bounded some_)
    | passes ms =>
      cases turned
      exact ⟨indexed.index, indexed.bounded⟩
  refine ⟨?_, ?_, kept.1, kept.2⟩
  · intro lookup found there
    rcases turn_lookups turned there with ⟨old, known, sameKey, sameUser, -⟩ |
      ⟨sessionId, userId, is, -, rfl⟩
    · rw [← sameKey, ← sameUser]
      exact indexed.asked lookup old known
    · rw [is] at plain
      exact ⟨sessionId, rfl, plain⟩
  · intro entry there
    rcases turn_entries turned there with old | ⟨lookup, asking, answers⟩
    · exact indexed.owner entry old
    · rw [answers.user, answers.key]
      exact (asking_id indexed answers.known).symm

/-! ## What happened -/

/-- The time that an event takes. -/
def Event.time : Event → Int
  | .passes ms => ms
  | _ => 0

def elapsed (events : List Event) : Int := (events.map Event.time).sum

/-- The cache and the lookups, by what happened. -/
structure Recorded (config : AuthConfig) (now : Int) (events : List Event)
    (client : IdentityClient) : Prop where
  clock : client.now = now + elapsed events
  stored : ∀ entry ∈ client.cache.entries, ∃ past lookup,
    past ++ [.answered lookup entry.2.value] <+: events ∧
      entry.2.expiresAt = now + elapsed past + config.ttl
  ended : ∀ lookup, (.failed lookup ∈ events ∨ ∃ value, .answered lookup value ∈ events) →
    lookup < client.asked ∧
      ∀ asking, client.lookups lookup = some asking → asking.stage = .done
  apart : ∀ lookup value, .failed lookup ∈ events → .answered lookup value ∉ events

variable {events : List Event} {now : Int}

theorem start_recorded : Recorded config now [] (start now) := by
  refine ⟨by simp [elapsed, start], ?_, ?_, ?_⟩
  · intro entry member
    cases member
  · rintro lookup (failed | ⟨value, answered⟩)
    · cases failed
    · cases answered
  · intro lookup value failed
    cases failed

theorem turn_clock (turned : client.turn config toLowerCase event = some after) :
    after.now = client.now + event.time := by
  cases event with
  | introspect sessionId userId =>
    cases turned
    unfold introspect
    dsimp only
    split
    · exact (add_zero _).symm
    · split <;> exact (add_zero _).symm
  | answered lookup value =>
    obtain ⟨asking, known, rfl⟩ := Option.map_eq_some_iff.mp turned
    rw [answered_frame.2.2.2]
    exact (add_zero _).symm
  | failed lookup | settled lookup =>
    obtain ⟨asking, known, rfl⟩ := Option.map_eq_some_iff.mp turned
    exact (add_zero _).symm
  | invalidateUser userId =>
    cases turned
    exact (add_zero _).symm
  | passes ms =>
    cases turned
    rfl

/-- A lookup that ends has begun and was waiting. -/
theorem ends_waiting (sound : client.Sound)
    (turned : client.turn config toLowerCase event = some after)
    (ends : event = .failed lookup ∨ ∃ value, event = .answered lookup value) :
    lookup < client.asked ∧
      ∃ asking, client.lookups lookup = some asking ∧ asking.stage = .asking := by
  rcases ends with rfl | ⟨value, rfl⟩
  · obtain ⟨asking, known, -⟩ := Option.map_eq_some_iff.mp turned
    obtain ⟨found, asks⟩ := lookup_at known
    exact ⟨sound.known lookup asking found, asking, found, asks⟩
  · obtain ⟨asking, known, -⟩ := Option.map_eq_some_iff.mp turned
    obtain ⟨found, asks⟩ := lookup_at known
    exact ⟨sound.known lookup asking found, asking, found, asks⟩

theorem turn_recorded (sound : client.Sound) (recorded : Recorded config now events client)
    (turned : client.turn config toLowerCase event = some after) :
    Recorded config now (events ++ [event]) after := by
  have split_ (lookup : Nat) (ends : .failed lookup ∈ events ++ [event] ∨
      ∃ value, .answered lookup value ∈ events ++ [event]) :
      (.failed lookup ∈ events ∨ ∃ value, .answered lookup value ∈ events) ∨
        event = .failed lookup ∨ ∃ value, event = .answered lookup value := by
    rcases ends with failed | ⟨value, answered⟩
    · rcases List.mem_append.mp failed with old | new
      · exact .inl (.inl old)
      · exact .inr (.inl (List.mem_singleton.mp new).symm)
    · rcases List.mem_append.mp answered with old | new
      · exact .inl (.inr ⟨value, old⟩)
      · exact .inr (.inr ⟨value, (List.mem_singleton.mp new).symm⟩)
  have over_ (lookup : Nat)
      (past : .failed lookup ∈ events ∨ ∃ value, .answered lookup value ∈ events)
      (again : event = .failed lookup ∨ ∃ value, event = .answered lookup value) : False := by
    obtain ⟨-, asking, known, asks⟩ := ends_waiting sound turned again
    have done_ := (recorded.ended lookup past).2 asking known
    rw [asks] at done_
    cases done_
  refine ⟨?_, ?_, ?_, ?_⟩
  · rw [turn_clock turned, recorded.clock, elapsed, elapsed, List.map_append, List.sum_append]
    simp [add_assoc]
  · intro entry there
    rcases turn_entries turned there with old | ⟨lookup, asking, answers⟩
    · obtain ⟨past, lookup, before, expires⟩ := recorded.stored entry old
      exact ⟨past, lookup, before.trans (List.prefix_append _ _), expires⟩
    · refine ⟨events, lookup, ?_, ?_⟩
      · rw [← answers.event]
      · rw [answers.expires, recorded.clock]
  · intro lookup ends
    rcases split_ lookup ends with past | again
    · obtain ⟨begun, done_⟩ := recorded.ended lookup past
      refine ⟨begun.trans_le (turn_asked turned), ?_⟩
      intro found there
      rcases turn_lookups turned there with ⟨old, known, -, -, stays, -⟩ | ⟨_, _, -, fresh_, -⟩
      · exact stays (done_ old known)
      · omega
    · obtain ⟨begun, -⟩ := ends_waiting sound turned again
      refine ⟨begun.trans_le (turn_asked turned), ?_⟩
      intro found there
      rcases turn_lookups turned there with ⟨old, known, -, -, -, ends⟩ | ⟨_, _, -, fresh_, -⟩
      · exact ends again.symm
      · omega
  · intro lookup value failed answered
    rcases List.mem_append.mp failed with before | now_
    · rcases List.mem_append.mp answered with old | new
      · exact recorded.apart lookup value before old
      · exact over_ lookup (.inl before) (.inr ⟨value, (List.mem_singleton.mp new).symm⟩)
    · have fails := (List.mem_singleton.mp now_).symm
      rcases List.mem_append.mp answered with old | new
      · exact over_ lookup (.inr ⟨value, old⟩) (.inl fails)
      · rw [fails] at new
        cases List.mem_singleton.mp new

/-! ## After an invalidation -/

/-- An answer that came since to a lookup of the key that began since. -/
def Since (config : AuthConfig) (toLowerCase : String → String) (invalidated : IdentityClient)
    (events : List Event) (key : String) (value : Introspection) : Prop :=
  ∃ past client lookup asking, past ++ [.answered lookup value] <+: events ∧
    turns (turn config toLowerCase) invalidated past = some client ∧
    client.lookups lookup = some asking ∧ asking.key = key ∧ invalidated.asked ≤ lookup

/-- What the cache has of the user is from since the invalidation, and so is who is asked. -/
structure Afresh (config : AuthConfig) (toLowerCase : String → String) (userId : String)
    (invalidated : IdentityClient) (events : List Event) (client : IdentityClient) : Prop where
  reached : turns (turn config toLowerCase) invalidated events = some client
  asked : invalidated.asked ≤ client.asked
  attached : ∀ key lookup, idOf toLowerCase key = toLowerCase userId →
    client.inflight key = some lookup → invalidated.asked ≤ lookup
  cached : ∀ entry ∈ client.cache.entries, idOf toLowerCase entry.1 = toLowerCase userId →
    Since config toLowerCase invalidated events entry.1 entry.2.value

variable {invalidated : IdentityClient}

theorem turns_snoc (reached : turns (turn config toLowerCase) invalidated events = some client)
    (turned : client.turn config toLowerCase event = some after) :
    turns (turn config toLowerCase) invalidated (events ++ [event]) = some after := by
  induction events generalizing invalidated with
  | nil =>
    cases reached
    simp [turns, turned]
  | cons first rest ih =>
    obtain ⟨next, stepped, more⟩ := Option.bind_eq_some_iff.mp reached
    exact Option.bind_eq_some_iff.mpr ⟨next, stepped, ih more⟩

/-- Nothing of the user is left. -/
theorem invalidate_afresh (lowers : Lowers toLowerCase) (sound : client.Sound)
    (indexed : client.Indexed config toLowerCase) :
    Afresh config toLowerCase userId (client.invalidateUser toLowerCase userId) []
      (client.invalidateUser toLowerCase userId) := by
  refine ⟨rfl, le_refl _, ?_, ?_⟩
  · intro key lookup same attached
    dsimp only [invalidateUser] at attached
    split at attached
    · cases attached
    · rename_i elsewhere
      obtain ⟨asking, known, is, -⟩ := sound.current key lookup attached
      obtain ⟨sessionId, named, session, user⟩ := indexed.asked lookup asking known
      rw [← is, asking_id indexed known] at same
      have ends := key_ends lowers session user
      rw [← named, is, same] at ends
      exact absurd ends elsewhere
  · intro entry there same
    have before := (delete_all _ _).subset there
    have found := OrderedMap.get_of_mem there
    dsimp only [invalidateUser] at found
    rw [get_delete_all] at found
    split at found
    · cases found
    · rename_i away
      refine absurd ((indexed.index _ _).mpr ⟨entry.2, found, ?_⟩) away
      rw [indexed.owner entry before, same]

theorem turn_afresh
    (afresh : Afresh config toLowerCase userId invalidated events client)
    (turned : client.turn config toLowerCase event = some after) :
    Afresh config toLowerCase userId invalidated (events ++ [event]) after := by
  refine ⟨turns_snoc afresh.reached turned, afresh.asked.trans (turn_asked turned), ?_, ?_⟩
  · intro key lookup same attached
    rcases turn_inflight turned attached with old | rfl
    · exact afresh.attached key lookup same old
    · exact afresh.asked
  · intro entry there same
    rcases turn_entries turned there with old | ⟨lookup, asking, answers⟩
    · obtain ⟨past, earlier, lookup, asking, before, rest⟩ := afresh.cached entry old same
      exact ⟨past, earlier, lookup, asking, before.trans (List.prefix_append _ _), rest⟩
    · refine ⟨events, client, lookup, asking, ?_, afresh.reached, answers.known,
        answers.key.symm, ?_⟩
      · rw [← answers.event]
      · exact afresh.attached asking.key lookup (answers.key ▸ same) answers.attached

/-- What a caller is answered with is from since the invalidation. -/
def FreshReply (config : AuthConfig) (toLowerCase : String → String) (invalidated : IdentityClient)
    (events : List Event) (key : String) : Reply → Prop
  | .hit value => Since config toLowerCase invalidated events key value
  | .pending lookup => invalidated.asked ≤ lookup

theorem introspect_afresh {caller : String}
    (afresh : Afresh config toLowerCase userId invalidated events client)
    (same : idOf toLowerCase (keyOf sessionId caller) = toLowerCase userId) :
    FreshReply config toLowerCase invalidated events (keyOf sessionId caller)
      (client.introspect sessionId caller).1 := by
  unfold introspect
  dsimp only
  split
  · rename_i entry found
    have there := OrderedMap.get_some (Option.filter_eq_some_iff.mp found).1
    exact afresh.cached _ there same
  · split
    · rename_i lookup attached
      exact afresh.attached _ lookup same attached
    · exact afresh.asked

/-! ## Runs -/

theorem turns_append (first later : List Event) :
    turns (turn config toLowerCase) invalidated (first ++ later) =
      (turns (turn config toLowerCase) invalidated first).bind fun middle =>
        turns (turn config toLowerCase) middle later := by
  induction first generalizing invalidated with
  | nil => rfl
  | cons event rest ih =>
    simp only [List.cons_append, turns, Option.bind_assoc]
    congr 1
    funext next
    exact ih

/-- What every turn of plain ids keeps. -/
structure Kept (config : AuthConfig) (toLowerCase : String → String) (now : Int)
    (events : List Event) (client : IdentityClient) : Prop where
  sound : client.Sound
  indexed : client.Indexed config toLowerCase
  recorded : Recorded config now events client

theorem reached_kept (plain : ∀ event ∈ events, event.plain)
    (reached : turns (turn config toLowerCase) (start now) events = some client) :
    Kept config toLowerCase now events client := by
  have keeps : ∀ past state event after,
      ((∀ event ∈ past, Event.plain event) → Kept config toLowerCase now past state) →
      turn config toLowerCase state event = some after →
      (∀ other ∈ past ++ [event], Event.plain other) →
      Kept config toLowerCase now (past ++ [event]) after := by
    intro past state event after kept turned plain
    have before := kept fun other member => plain other (List.mem_append_left _ member)
    have now_ := plain event (List.mem_append_right _ (List.mem_singleton_self _))
    exact ⟨turn_sound before.sound turned, turn_indexed now_ before.indexed turned,
      turn_recorded before.sound before.recorded turned⟩
  have begins : (∀ event ∈ ([] : List Event), Event.plain event) →
      Kept config toLowerCase now [] (start now) :=
    fun _ => ⟨start_sound now, start_indexed now, start_recorded⟩
  exact turns_keeps keeps begins events reached plain

theorem later_afresh (lowers : Lowers toLowerCase) {begun : IdentityClient} {later : List Event}
    (kept : Kept config toLowerCase now events begun)
    (reached : turns (turn config toLowerCase) (begun.invalidateUser toLowerCase userId) later =
      some client) :
    Afresh config toLowerCase userId (begun.invalidateUser toLowerCase userId) later client :=
  turns_keeps (fun _ _ _ _ afresh turned => turn_afresh afresh turned)
    (invalidate_afresh lowers kept.sound kept.indexed) later reached

theorem pending_attached
    (is : (client.introspect sessionId userId).1 = .pending lookup) :
    (client.introspect sessionId userId).2.inflight (keyOf sessionId userId) = some lookup := by
  unfold introspect at is ⊢
  dsimp only at is ⊢
  cases stale : client.fresh (keyOf sessionId userId) with
  | some entry =>
    rw [stale] at is
    cases is
  | none =>
    rw [stale] at is
    dsimp only at is ⊢
    cases attached : client.inflight (keyOf sessionId userId) with
    | some other =>
      rw [attached] at is
      cases is
      exact attached
    | none =>
      rw [attached] at is
      cases is
      exact Function.update_self _ _ _

def asciiLower (text : String) : String := String.ofList (text.toList.map Char.toLower)

/-- A session and a user whose ids have colons get the answer of another user. -/
def confused : List Event :=
  [.introspect "a" "b:c", .answered 0 ben, .settled 0]

end IdentityClient

end Foc.Auth
