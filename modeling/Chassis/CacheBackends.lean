import Chassis.RedisCache

set_option autoImplicit false

namespace Chassis.Cache

open Expiry Redis Text Transition

def mapStep (reference : LiveMap) (input : Rat × Call) : LiveMap × Answer :=
  let fresh := live input.1 reference.entries
  match input.2 with
  | .get key => (purge input.1 fresh, .value ((fresh.get key).map Prod.fst))
  | .exists key => (purge input.1 fresh, .present (fresh.get key).isSome)
  | .set key value ttlSeconds => (purge input.1 (fresh.set key (value, input.1 + ttlSeconds)), .done)
  | .delete key => (purge input.1 (fresh.pop key), .done)
  | .clear => (purge input.1 Dict.empty, .done)

-- The times to live that SETEX takes.
def Accepted (longestTtl : Int) : Call → Prop
  | .set _ _ ttlSeconds => 0 < ttlSeconds ∧ ttlSeconds ≤ longestTtl
  | _ => True

def Roomy (maxEntries : Nat) (reference : LiveMap) (input : Rat × Call) : Prop :=
  match input.2 with
  | .set key _ _ =>
      key ∈ (live input.1 reference.entries).keys ∨ (live input.1 reference.entries).size < maxEntries
  | _ => True

def Fits (maxEntries : Nat) (reference : LiveMap) (input : Rat × Call) : Prop :=
  reference.clock ≤ input.1 ∧ Roomy maxEntries reference input

def Timely (longestTtl : Int) (reference : LiveMap) (input : Rat × Call) : Prop :=
  reference.clock ≤ input.1 ∧ Accepted longestTtl input.2

theorem map_clock (reference : LiveMap) (input : Rat × Call) : (mapStep reference input).1.clock = input.1 := by
  obtain ⟨now, call⟩ := input
  cases call <;> rfl

theorem live_twice (now : Rat) (entries : Dict Str (Bytes × Rat)) : live now (live now entries) = live now entries :=
  live_later now now entries le_rfl

theorem live_set (now : Rat) (entries : Dict Str (Bytes × Rat)) (key other : Str) (entry : Bytes × Rat) :
    (live now (entries.set key entry)).get other = (live now ((live now entries).set key entry)).get other := by
  rw [get_live, get_live, Dict.get_set, Dict.get_set]
  by_cases written : other = key
  · rw [if_pos written, if_pos written]
  · rw [if_neg written, if_neg written, ← get_live, ← get_live, live_twice]

theorem make_room_roomy (maxEntries : Nat) (now : Rat) (key : Str) (entries : Dict Str (Bytes × Rat))
    (roomy : key ∈ (live now entries).keys ∨ (live now entries).size < maxEntries) :
    Dict.Same (live now (makeRoom maxEntries key entries)) (live now entries) := by
  by_cases full : maxEntries ≤ entries.size ∧ key ∉ entries.keys
  · have dropped : makeRoom maxEntries key entries = dropEarliest entries := if_pos full
    have room : (live now entries).size < maxEntries := by
      apply roomy.resolve_left
      intro held
      obtain ⟨entry, found⟩ := (Dict.mem_keys _ key).mp held
      exact full.2 ((Dict.mem_keys entries key).mpr ⟨entry, ((live_get_some now entries key entry).mp found).1⟩)
    rw [dropped]
    cases expired_or_live now entries with
    | inl garbage =>
        obtain ⟨old, entry, held, expired⟩ := garbage
        exact drop_earliest_expired now entries old entry held expired
    | inr allLive =>
        rw [allLive] at room
        omega
  · have kept : makeRoom maxEntries key entries = entries := if_neg full
    rw [kept]
    exact fun _ => rfl

theorem memory_map_simulates (maxEntries : Nat) (positive : 0 < maxEntries) :
    Simulates step mapStep (Fits maxEntries) (Holds maxEntries) := by
  intro store reference input holds fits
  obtain ⟨now, call⟩ := input
  have fresh := holds_fresh maxEntries store reference now holds fits.1
  have size := step_size store (now, call) (holds.capacity ▸ positive) (holds.capacity ▸ holds.bounded)
  rw [holds.capacity] at size
  have read (key : Str) : Dict.Same (live now (get store now key).1.data) (live now (live now reference.entries)) := by
    intro other
    rw [get_keeps store now key other, fresh other, live_twice]
  cases call with
  | get key =>
      refine ⟨⟨size.2, size.1, read key⟩, ?_⟩
      simp only [step, mapStep, get_answers, fresh key]
  | «exists» key =>
      refine ⟨⟨size.2, size.1, read key⟩, ?_⟩
      simp only [step, mapStep, get_answers, fresh key, Option.isSome_map]
  | set key value ttlSeconds =>
      refine ⟨⟨size.2, size.1, ?_⟩, rfl⟩
      have roomy : key ∈ (live now store.data).keys ∨ (live now store.data).size < maxEntries := by
        rw [Dict.mem_keys, fresh key, ← Dict.mem_keys, Dict.same_size _ _ fresh]
        exact fits.2
      intro other
      simp only [step, mapStep, set_inserts, holds.capacity, insertBounded]
      rw [live_set, purge, get_live, get_live, Dict.get_set, Dict.get_set]
      by_cases written : other = key
      · rw [if_pos written, if_pos written]
      · rw [if_neg written, if_neg written, make_room_roomy maxEntries now key store.data roomy other, fresh other]
  | delete key =>
      refine ⟨⟨size.2, size.1, ?_⟩, rfl⟩
      intro other
      simp only [step, mapStep, delete, purge]
      rw [live_pop, get_live _ (Dict.pop _ _), Dict.get_pop, Dict.get_pop]
      by_cases dropped : other = key
      · rw [if_pos dropped, if_pos dropped]
        rfl
      · rw [if_neg dropped, if_neg dropped, ← get_live, live_twice, fresh other]
  | clear => exact ⟨⟨size.2, size.1, fun other => rfl⟩, rfl⟩

section Redis

variable {τ : Type} (longestTtl : Int) (store : RedisCacheStore)

theorem prefixed_injective (left right : Str) (same : store.prefixed left = store.prefixed right) : left = right := by
  have decoded := congrArg decodeUtf8 same
  rw [RedisCacheStore.prefixed, RedisCacheStore.prefixed, decode_utf8, decode_utf8] at decoded
  exact List.append_cancel_left (Option.some.inj decoded)

def stored (entry : Bytes × Rat) : RedisValue τ × WithTop Rat := (.string entry.1, (entry.2 : WithTop Rat))

-- Redis still has a key at the very instant of its expiry, the memory store
-- does not; no read comes then.
def Untied (database : CacheDatabase τ) (input : Rat × Call) : Prop :=
  match input.2 with
  | .get key => (database.get (store.prefixed key)).map Prod.snd ≠ some (input.1 : WithTop Rat)
  | .exists key => (database.get (store.prefixed key)).map Prod.snd ≠ some (input.1 : WithTop Rat)
  | _ => True

def DatabaseHolds (database : CacheDatabase τ) (reference : LiveMap) : Prop :=
  ∀ later, reference.clock ≤ later → ∀ key,
    (live (later : WithTop Rat) database).get (store.prefixed key) = ((live later reference.entries).get key).map stored

theorem live_find (now : Rat) (database : CacheDatabase τ) (name : Bytes) :
    (live (now : WithTop Rat) database).get name =
      (find now database name).filter (fun entry => (now : WithTop Rat) < entry.2) := by
  rw [get_live, find]
  cases database.get name with
  | none => rfl
  | some entry =>
      by_cases before : (now : WithTop Rat) < entry.2
      · simp [Option.filter, before, before.le]
      · by_cases last : (now : WithTop Rat) ≤ entry.2 <;> simp [Option.filter, before, last]

theorem find_untied (now : Rat) (database : CacheDatabase τ) (name : Bytes)
    (untied : (database.get name).map Prod.snd ≠ some (now : WithTop Rat)) :
    find now database name = (live (now : WithTop Rat) database).get name := by
  rw [get_live, find]
  cases held : database.get name with
  | none => rfl
  | some entry =>
      rw [held, Option.map_some] at untied
      have apart : (now : WithTop Rat) ≠ entry.2 := fun same => untied (congrArg some same.symm)
      simp [Option.filter, le_iff_lt_or_eq, apart]

theorem live_expiring (later : Rat) (database : CacheDatabase τ) (name : Bytes) (entry : Bytes × Rat) :
    (live (later : WithTop Rat) (database.set name (stored entry))).get name =
      ((some entry).filter (fun kept => decide (later < kept.2))).map stored := by
  rw [get_live, Dict.get_set, if_pos rfl]
  by_cases alive : later < entry.2
  · have same : (later : WithTop Rat) < entry.2 := WithTop.coe_lt_coe.mpr alive
    simp [Option.filter, stored, alive, same]
  · have same : ¬ (later : WithTop Rat) < entry.2 := fun less => alive (WithTop.coe_lt_coe.mp less)
    simp [Option.filter, stored, alive, same]

theorem redis_map_step (database : CacheDatabase τ) (reference : LiveMap) (input : Rat × Call)
    (holds : DatabaseHolds store database reference) (timely : Timely longestTtl reference input)
    (untied : Untied store database input) :
    DatabaseHolds store (redisCacheStep longestTtl store database input).1 (mapStep reference input).1 ∧
      (redisCacheStep longestTtl store database input).2 = .ok (mapStep reference input).2 := by
  obtain ⟨now, call⟩ := input
  have fresh := holds now timely.1
  have kept (later : Rat) (ordered : now ≤ later) (key : Str) :
      (live (later : WithTop Rat) database).get (store.prefixed key) =
        ((live later (live now reference.entries)).get key).map stored := by
    rw [live_later now later _ ordered]
    exact holds later (le_trans timely.1 ordered) key
  cases call with
  | get key =>
      refine ⟨?_, ?_⟩
      · intro later ordered other
        simp only [redisCacheStep, mapStep, purge, live_twice]
        exact kept later ordered other
      · have read : find now database (store.prefixed key) = ((live now reference.entries).get key).map stored :=
          (find_untied now database _ untied).trans (fresh key)
        simp only [redisCacheStep, mapStep, RedisCacheStore.get, read]
        cases (live now reference.entries).get key with
        | none => rfl
        | some entry => rfl
  | «exists» key =>
      refine ⟨?_, ?_⟩
      · intro later ordered other
        simp only [redisCacheStep, mapStep, purge, live_twice]
        exact kept later ordered other
      · have read : find now database (store.prefixed key) = ((live now reference.entries).get key).map stored :=
          (find_untied now database _ untied).trans (fresh key)
        simp only [redisCacheStep, mapStep, RedisCacheStore.existsKey, read, Option.isSome_map]
  | set key value ttlSeconds =>
      have taken : 0 < ttlSeconds ∧ ttlSeconds ≤ longestTtl := timely.2
      simp only [redisCacheStep, RedisCacheStore.set, if_pos taken, setex, mapStep]
      refine ⟨?_, trivial⟩
      intro later ordered other
      rw [purge, live_later now later _ ordered, get_live later, Dict.get_set]
      by_cases written : other = key
      · rw [if_pos written, written]
        exact live_expiring later database _ (value, now + ttlSeconds)
      · have apart : store.prefixed other ≠ store.prefixed key := fun same => written (prefixed_injective store _ _ same)
        rw [if_neg written, get_live, Dict.get_set, if_neg apart, ← get_live, ← get_live]
        exact kept later ordered other
  | delete key =>
      refine ⟨?_, rfl⟩
      intro later ordered other
      simp only [redisCacheStep, RedisCacheStore.delete, mapStep, purge]
      rw [live_later now later _ ordered, live_pop, Dict.get_pop, get_live, Dict.get_pop]
      by_cases dropped : other = key
      · rw [if_pos dropped, if_pos (congrArg _ dropped)]
        rfl
      · have apart : store.prefixed other ≠ store.prefixed key := fun same => dropped (prefixed_injective store _ _ same)
        rw [if_neg dropped, if_neg apart, ← get_live]
        exact kept later ordered other
  | clear =>
      refine ⟨?_, rfl⟩
      intro later ordered other
      rfl

theorem redis_map_run (database : CacheDatabase τ) (reference : LiveMap) (calls : List (Rat × Call))
    (holds : DatabaseHolds store database reference) (timely : Admitted mapStep (Timely longestTtl) reference calls)
    (untied : Admitted (redisCacheStep longestTtl store) (Untied store) database calls) :
    (run (redisCacheStep longestTtl store) database calls).2 = (run mapStep reference calls).2.map Except.ok := by
  induction calls generalizing database reference with
  | nil => rfl
  | cons call rest ih =>
      obtain ⟨next, answer⟩ := redis_map_step longestTtl store database reference call holds timely.1 untied.1
      rw [run_cons, run_cons, List.map_cons, answer, ih _ _ next timely.2 untied.2]

end Redis

def Forgets : Answer → Answer → Prop
  | .value found, .value kept => ∀ value, found = some value → kept = some value
  | .present found, .present kept => found = true → kept = true
  | .done, .done => True
  | _, _ => False

def Remembers (store : MemoryCacheStore) (reference : LiveMap) : Prop :=
  ∀ later, reference.clock ≤ later → ∀ key entry, (live later store.data).get key = some entry →
    (live later reference.entries).get key = some entry

theorem make_room_remembers (maxEntries : Nat) (key other : Str) (entries : Dict Str (Bytes × Rat)) (entry : Bytes × Rat)
    (held : (makeRoom maxEntries key entries).get other = some entry) : entries.get other = some entry := by
  unfold makeRoom at held
  split at held
  · rw [drop_earliest_get] at held
    split at held
    · cases held
    · exact held
  · exact held

theorem read_remembers (store : MemoryCacheStore) (reference : LiveMap) (now : Rat) (key : Str)
    (remembers : Remembers store reference) (ordered : reference.clock ≤ now) :
    Remembers (get store now key).1 (purge now (live now reference.entries)) := by
  intro later reached other entry found
  simp only [purge, live_twice]
  rw [live_later now later _ reached]
  apply remembers later (le_trans ordered reached) other entry
  obtain ⟨held, alive⟩ := (live_get_some later _ other entry).mp found
  apply (live_get_some later store.data other entry).mpr
  refine ⟨?_, alive⟩
  cases get_shape store now key with
  | inl kept => rwa [kept] at held
  | inr purged =>
      rw [purged, Dict.get_pop] at held
      split at held
      · cases held
      · exact held

theorem memory_forgets_step (longestTtl : Int) (store : MemoryCacheStore) (reference : LiveMap) (input : Rat × Call)
    (remembers : Remembers store reference) (timely : Timely longestTtl reference input) :
    Remembers (step store input).1 (mapStep reference input).1 ∧
      Forgets (step store input).2 (mapStep reference input).2 := by
  obtain ⟨now, call⟩ := input
  have known (key : Str) (value : Bytes) (found : (get store now key).2 = some value) :
      ((live now reference.entries).get key).map Prod.fst = some value := by
    rw [get_answers] at found
    obtain ⟨entry, held, same⟩ := Option.map_eq_some_iff.mp found
    rw [remembers now timely.1 key entry held, Option.map_some, same]
  cases call with
  | get key => exact ⟨read_remembers store reference now key remembers timely.1, known key⟩
  | «exists» key =>
      refine ⟨read_remembers store reference now key remembers timely.1, ?_⟩
      intro present
      obtain ⟨value, found⟩ := Option.isSome_iff_exists.mp present
      have held := known key value found
      rw [← Option.isSome_map, held]
      rfl
  | set key value ttlSeconds =>
      refine ⟨?_, trivial⟩
      intro later reached other entry found
      simp only [step, set_inserts, insertBounded, mapStep, purge] at found ⊢
      rw [live_later now later _ reached]
      obtain ⟨held, alive⟩ := (live_get_some later _ other entry).mp found
      apply (live_get_some later _ other entry).mpr
      refine ⟨?_, alive⟩
      rw [Dict.get_set] at held ⊢
      by_cases written : other = key
      · rw [if_pos written] at held ⊢
        exact held
      · rw [if_neg written] at held ⊢
        have before := make_room_remembers store.maxEntries key other store.data entry held
        have alreadyLive : (live later store.data).get other = some entry :=
          (live_get_some later store.data other entry).mpr ⟨before, alive⟩
        have mapped := remembers later (le_trans timely.1 reached) other entry alreadyLive
        rw [← live_later now later _ reached] at mapped
        exact ((live_get_some later _ other entry).mp mapped).1
  | delete key =>
      refine ⟨?_, trivial⟩
      intro later reached other entry found
      simp only [step, delete, mapStep, purge] at found ⊢
      rw [live_pop, Dict.get_pop] at found
      rw [live_later now later _ reached, live_pop, Dict.get_pop]
      split at found
      · cases found
      next kept =>
          rw [if_neg kept, live_later now later _ reached]
          exact remembers later (le_trans timely.1 reached) other entry found
  | clear =>
      refine ⟨?_, trivial⟩
      intro later reached other entry found
      cases found

theorem calls_timely (longestTtl : Int) (reference : LiveMap) (calls : List (Rat × Call))
    (ordered : ClockOrdered reference.clock calls) (accepted : ∀ call ∈ calls, Accepted longestTtl call.2) :
    Admitted mapStep (Timely longestTtl) reference calls := by
  induction calls generalizing reference with
  | nil => trivial
  | cons call rest ih =>
      obtain ⟨below, later⟩ := List.pairwise_cons.mp ordered
      refine ⟨⟨below call.1 (by simp), accepted call (by simp)⟩, ih _ ?_ ?_⟩
      · rw [map_clock]
        exact later
      · intro next member
        exact accepted next (by simp [member])

theorem backends_agree {τ : Type} (maxEntries : Nat) (positive : 0 < maxEntries) (longestTtl : Int)
    (store : RedisCacheStore) (start : Rat) (database : CacheDatabase τ) (calls : List (Rat × Call))
    (unwritten : ∀ key, find start database (store.prefixed key) = none) (ordered : ClockOrdered start calls)
    (accepted : ∀ call ∈ calls, Accepted longestTtl call.2)
    (untied : Admitted (redisCacheStep longestTtl store) (Untied store) database calls) :
    let shared := (run (redisCacheStep longestTtl store) database calls).2
    let memory := (run step (emptyStore maxEntries) calls).2
    let map := (run mapStep (purge start Dict.empty) calls).2
    shared = map.map Except.ok ∧ List.Forall₂ Forgets memory map ∧
      (Admitted mapStep (Fits maxEntries) (purge start Dict.empty) calls → shared = memory.map Except.ok) := by
  intro shared memory map
  have timely := calls_timely longestTtl (purge start Dict.empty) calls ordered accepted
  have nothing : DatabaseHolds store database (purge start Dict.empty) := by
    intro later reached key
    rw [live_find, find_later start later database _ reached (unwritten key)]
    rfl
  have same : shared = map.map Except.ok := redis_map_run longestTtl store database _ calls nothing timely untied
  have forgets : List.Forall₂ Forgets memory map := by
    apply simulates_run_up_to step mapStep (Timely longestTtl) Remembers Forgets
      (memory_forgets_step longestTtl) (emptyStore maxEntries) (purge start Dict.empty) calls _ timely
    intro later _ key entry found
    cases found
  refine ⟨same, forgets, ?_⟩
  intro fits
  have empty : Holds maxEntries (emptyStore maxEntries) (purge start Dict.empty) := ⟨rfl, Nat.zero_le _, fun _ => rfl⟩
  have refined := simulates_run step mapStep (Fits maxEntries) (Holds maxEntries)
    (memory_map_simulates maxEntries positive) (emptyStore maxEntries) _ calls empty fits
  rw [same, show memory = map from refined.2]

def fourCalls : List (Rat × Call) := [(0, .set ['a'] [1] 60), (1, .get ['a']), (61, .exists ['a']), (62, .get ['a'])]

theorem backends_agree_four :
    (run (redisCacheStep 1000 cacheStore) (Dict.empty : CacheDatabase Unit) fourCalls).2 =
      (run step (emptyStore 1) fourCalls).2.map Except.ok := by
  have ordered : ClockOrdered 0 fourCalls := by norm_num [ClockOrdered, fourCalls]
  have accepted : ∀ call ∈ fourCalls, Accepted 1000 call.2 := by simp [fourCalls, Accepted]
  have untied : Admitted (redisCacheStep 1000 cacheStore) (Untied cacheStore) (Dict.empty : CacheDatabase Unit) fourCalls := by
    norm_num [Admitted, fourCalls, Untied, redisCacheStep, RedisCacheStore.set, setex, Dict.get_set]
  have agree := backends_agree 1 (by decide) 1000 cacheStore 0 (Dict.empty : CacheDatabase Unit) fourCalls
    (fun key => find_empty 0 _) ordered accepted untied
  apply agree.2.2
  refine ⟨⟨le_rfl, .inr (by decide)⟩, ⟨?_, trivial⟩, ⟨?_, trivial⟩, ⟨?_, trivial⟩, trivial⟩ <;> norm_num [map_clock]

end Chassis.Cache
