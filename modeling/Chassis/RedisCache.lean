import Chassis.Cache
import Chassis.RedisRateLimit

set_option autoImplicit false

namespace Chassis.Cache

open Redis Text Transition RateLimit

-- A key of Redis holds a string, or something of another type that only other
-- users of the database know.
inductive RedisValue (τ : Type) where
  | string (bytes : Bytes)
  | other (content : τ)
deriving DecidableEq

inductive RedisError where
  | wrongType
  | invalidExpire
deriving DecidableEq

structure RedisCacheStore where
  keyPrefix : Str

abbrev CacheDatabase (τ : Type) := Database Bytes (RedisValue τ)

namespace RedisCacheStore

variable {τ : Type} (store : RedisCacheStore) (database : CacheDatabase τ) (now : Rat)

-- The name under which the client, which encodes in UTF-8, sends the key.
def prefixed (key : Str) : Bytes := utf8 (store.keyPrefix ++ key)

def get (key : Str) : Except RedisError (Option Bytes) :=
  match find now database (store.prefixed key) with
  | none => .ok none
  | some (.string bytes, _) => .ok (some bytes)
  | some (.other _, _) => .error .wrongType

-- SETEX refuses a time to live that is not positive, or too long for it.
def set (longestTtl : Int) (key : Str) (value : Bytes) (ttlSeconds : Int) : Except RedisError (CacheDatabase τ) :=
  if 0 < ttlSeconds ∧ ttlSeconds ≤ longestTtl then
    .ok (setex now database (store.prefixed key) ttlSeconds (.string value))
  else .error .invalidExpire

def delete (key : Str) : CacheDatabase τ := database.pop (store.prefixed key)

def existsKey (key : Str) : Bool := (find now database (store.prefixed key)).isSome

-- FLUSHDB
def clear : CacheDatabase τ := Dict.empty

end RedisCacheStore

section Isolation

variable {τ : Type} (longestTtl : Int) (store other : RedisCacheStore)

def redisCacheStep (database : CacheDatabase τ) (input : Rat × Call) : CacheDatabase τ × Except RedisError Answer :=
  match input.2 with
  | .get key => (database, (store.get database input.1 key).map .value)
  | .exists key => (database, .ok (.present (store.existsKey database input.1 key)))
  | .set key value ttlSeconds =>
      match store.set database input.1 longestTtl key value ttlSeconds with
      | .error error => (database, .error error)
      | .ok next => (next, .ok .done)
  | .delete key => (store.delete database key, .ok .done)
  | .clear => (RedisCacheStore.clear, .ok .done)

-- The names that the store has to leave alone: those of the other store, the
-- rate-limit counters, and all that it would not write itself.
def Foreign (name : Bytes) : Prop :=
  (∃ key, name = other.prefixed key) ∨ (∃ key bucket, name = utf8 (redisKey key bucket)) ∨
    ∀ key, name ≠ store.prefixed key

-- The calls that stay within the names of the store. Writing what is there
-- already and deleting what is not there go unnoticed.
def KeepsApart (database : CacheDatabase τ) (input : Rat × Call) : Prop :=
  match input.2 with
  | .get _ => True
  | .exists _ => True
  | .set key value ttlSeconds =>
      ¬ (0 < ttlSeconds ∧ ttlSeconds ≤ longestTtl) ∨ ¬ Foreign store other (store.prefixed key) ∨
        find input.1 database (store.prefixed key) =
          some (.string value, ((input.1 + ttlSeconds : Rat) : WithTop Rat))
  | .delete key =>
      ¬ Foreign store other (store.prefixed key) ∨ find input.1 database (store.prefixed key) = none
  | .clear => ∀ name, find input.1 database name ≠ none → ¬ Foreign store other name

def LeavesForeign (start reached : CacheDatabase τ) (later : Rat) : Prop :=
  ∀ name, Foreign store other name → find later reached name = find later start name

theorem set_keeps_apart_iff (database : CacheDatabase τ) (now : Rat) (key : Str) (value : Bytes) (ttlSeconds : Int) :
    (∀ later, now ≤ later → LeavesForeign store other database
      (redisCacheStep longestTtl store database (now, .set key value ttlSeconds)).1 later) ↔
    KeepsApart longestTtl store other database (now, .set key value ttlSeconds) := by
  by_cases accepted : 0 < ttlSeconds ∧ ttlSeconds ≤ longestTtl
  · have written : (redisCacheStep longestTtl store database (now, .set key value ttlSeconds)).1 =
        database.set (store.prefixed key) (.string value, ((now + ttlSeconds : Rat) : WithTop Rat)) := by
      simp [redisCacheStep, RedisCacheStore.set, accepted, setex]
    have alive : (now : WithTop Rat) ≤ ((now + ttlSeconds : Rat) : WithTop Rat) := by
      have positive : (0 : Rat) < ttlSeconds := Int.cast_pos.mpr accepted.1
      exact WithTop.coe_le_coe.mpr (by linarith)
    rw [written]
    constructor
    · intro left
      by_cases foreign : Foreign store other (store.prefixed key)
      · have same := left now le_rfl _ foreign
        rw [find_set_self now database _ _ alive] at same
        exact .inr (.inr same.symm)
      · exact .inr (.inl foreign)
    · rintro (refused | own | held) later ordered name foreign
      · exact absurd accepted refused
      · exact find_set later database _ name _ (fun same => own (same ▸ foreign))
      · by_cases same : name = store.prefixed key
        · apply find_same
          rw [Dict.get_set, if_pos same, same, ((find_eq_some now database _ _).mp held).1]
        · exact find_set later database _ name _ same
  · simp [redisCacheStep, RedisCacheStore.set, accepted, KeepsApart, LeavesForeign]

theorem delete_keeps_apart_iff (database : CacheDatabase τ) (now : Rat) (key : Str) :
    (∀ later, now ≤ later → LeavesForeign store other database
      (redisCacheStep longestTtl store database (now, .delete key)).1 later) ↔
    KeepsApart longestTtl store other database (now, .delete key) := by
  constructor
  · intro left
    by_cases foreign : Foreign store other (store.prefixed key)
    · have same := left now le_rfl _ foreign
      exact .inr (same.symm.trans (find_pop_self now database _))
    · exact .inl foreign
  · rintro (own | gone) later ordered name foreign
    · exact find_pop later database _ name (fun same => own (same ▸ foreign))
    · by_cases same : name = store.prefixed key
      · rw [same]
        exact (find_pop_self later database _).trans (find_later now later database _ ordered gone).symm
      · exact find_pop later database _ name same

theorem clear_keeps_apart_iff (database : CacheDatabase τ) (now : Rat) :
    (∀ later, now ≤ later → LeavesForeign store other database
      (redisCacheStep longestTtl store database (now, .clear)).1 later) ↔
    KeepsApart longestTtl store other database (now, .clear) := by
  constructor
  · intro left name held foreign
    exact held ((left now le_rfl name foreign).symm.trans (find_empty now name))
  · intro own later ordered name foreign
    have gone : find now database name = none := by
      by_contra held
      exact own name held foreign
    exact (find_empty later name).trans (find_later now later database name ordered gone).symm

theorem keeps_apart_iff (database : CacheDatabase τ) (input : Rat × Call) :
    (∀ later, input.1 ≤ later →
      LeavesForeign store other database (redisCacheStep longestTtl store database input).1 later) ↔
    KeepsApart longestTtl store other database input := by
  obtain ⟨now, call⟩ := input
  cases call with
  | get key => simp [redisCacheStep, KeepsApart, LeavesForeign]
  | «exists» key => simp [redisCacheStep, KeepsApart, LeavesForeign]
  | set key value ttlSeconds => exact set_keeps_apart_iff longestTtl store other database now key value ttlSeconds
  | delete key => exact delete_keeps_apart_iff longestTtl store other database now key
  | clear => exact clear_keeps_apart_iff longestTtl store other database now

structure Isolated (database : CacheDatabase τ) (calls : List (Rat × Call)) : Prop where
  unseen : ∀ before after, calls = before ++ after → ∀ later, (∀ input ∈ before, input.1 ≤ later) →
    let reached := (run (redisCacheStep longestTtl store) database before).1
    LeavesForeign store other database reached later ∧
      ∀ key, other.get reached later key = other.get database later key ∧
        other.existsKey reached later key = other.existsKey database later key
  cleared : ∀ before now after, calls = before ++ (now, .clear) :: after → ∀ later, now ≤ later →
    let old := (run (redisCacheStep longestTtl store) database before).1
    let reached := (run (redisCacheStep longestTtl store) database (before ++ [(now, .clear)])).1
    ∀ name, ((∃ key, name = store.prefixed key) → find later reached name = none) ∧
      ((∀ key, name ≠ store.prefixed key) → find later reached name = find later old name)

def Undisturbed (database : CacheDatabase τ) (calls : List (Rat × Call)) : Prop :=
  ∀ before after, calls = before ++ after → ∀ later, (∀ input ∈ before, input.1 ≤ later) →
    LeavesForeign store other database (run (redisCacheStep longestTtl store) database before).1 later

theorem undisturbed_cons (database : CacheDatabase τ) (input : Rat × Call) (rest : List (Rat × Call))
    (ordered : ∀ later ∈ rest, input.1 ≤ later.1) :
    Undisturbed longestTtl store other database (input :: rest) ↔
      KeepsApart longestTtl store other database input ∧
        Undisturbed longestTtl store other (redisCacheStep longestTtl store database input).1 rest := by
  rw [← keeps_apart_iff]
  constructor
  · intro undisturbed
    have first : ∀ later, input.1 ≤ later →
        LeavesForeign store other database (redisCacheStep longestTtl store database input).1 later := by
      intro later reached
      exact undisturbed [input] rest rfl later (by simpa using reached)
    refine ⟨first, ?_⟩
    intro before after split later reached name foreign
    cases before with
    | nil => rfl
    | cons next more =>
        have inTime : input.1 ≤ later :=
          le_trans (ordered next (by rw [split]; simp)) (reached next (by simp))
        have whole := undisturbed (input :: next :: more) after (by rw [split]; rfl) later
          (by simpa [inTime] using reached) name foreign
        rw [run_cons] at whole
        exact whole.trans (first later inTime name foreign).symm
  · rintro ⟨first, later⟩ before after split time reached name foreign
    cases before with
    | nil => rfl
    | cons head more =>
        obtain ⟨rfl, same⟩ := List.cons.inj split
        rw [run_cons]
        exact (later more after same time (fun call member => reached call (by simp [member])) name foreign).trans
          (first time (reached input (by simp)) name foreign)

theorem undisturbed_iff (database : CacheDatabase τ) (calls : List (Rat × Call))
    (ordered : calls.Pairwise (fun earlier later => earlier.1 ≤ later.1)) :
    Undisturbed longestTtl store other database calls ↔
      Admitted (redisCacheStep longestTtl store) (KeepsApart longestTtl store other) database calls := by
  induction calls generalizing database with
  | nil =>
      constructor
      · intro _
        trivial
      · intro _ before after split
        obtain ⟨rfl, rfl⟩ := List.append_eq_nil_iff.mp split.symm
        intro _ _ _ _
        rfl
  | cons input rest ih =>
      obtain ⟨first, later⟩ := List.pairwise_cons.mp ordered
      rw [undisturbed_cons longestTtl store other database input rest first, ih _ later]
      rfl

theorem answers_unchanged (start reached : CacheDatabase τ) (later : Rat)
    (left : LeavesForeign store other start reached later) (key : Str) :
    other.get reached later key = other.get start later key ∧
      other.existsKey reached later key = other.existsKey start later key := by
  have same := left (other.prefixed key) (.inl ⟨key, rfl⟩)
  rw [RedisCacheStore.get, RedisCacheStore.existsKey, same]
  exact ⟨rfl, rfl⟩

theorem cleared_exactly (database : CacheDatabase τ) (calls : List (Rat × Call))
    (ordered : calls.Pairwise (fun earlier later => earlier.1 ≤ later.1))
    (undisturbed : Undisturbed longestTtl store other database calls) (before after : List (Rat × Call)) (now : Rat)
    (split : calls = before ++ (now, .clear) :: after) (later : Rat) (reached : now ≤ later) :
    let old := (run (redisCacheStep longestTtl store) database before).1
    let cleared := (run (redisCacheStep longestTtl store) database (before ++ [(now, .clear)])).1
    ∀ name, ((∃ key, name = store.prefixed key) → find later cleared name = none) ∧
      ((∀ key, name ≠ store.prefixed key) → find later cleared name = find later old name) := by
  have emptied : (run (redisCacheStep longestTtl store) database (before ++ [(now, .clear)])).1 = Dict.empty := by
    rw [run_snoc]
    rfl
  have earlier : ∀ input ∈ before, input.1 ≤ later := by
    intro input member
    rw [split] at ordered
    exact le_trans ((List.pairwise_append.mp ordered).2.2 input member (now, .clear) (by simp)) reached
  have upToClear : ∀ input ∈ before ++ [(now, .clear)], input.1 ≤ later := by
    intro input member
    cases List.mem_append.mp member with
    | inl old => exact earlier input old
    | inr last => exact (List.mem_singleton.mp last) ▸ reached
  intro old cleared name
  constructor
  · intro _
    rw [show cleared = Dict.empty from emptied]
    exact find_empty later name
  intro unowned
  have whole := undisturbed (before ++ [(now, .clear)]) after (by rw [split]; simp) later upToClear name
    (.inr (.inr unowned))
  exact whole.trans (undisturbed before _ split later earlier name (.inr (.inr unowned))).symm

theorem cache_isolated_iff (database : CacheDatabase τ) (calls : List (Rat × Call))
    (ordered : calls.Pairwise (fun earlier later => earlier.1 ≤ later.1)) :
    Isolated longestTtl store other database calls ↔
      Admitted (redisCacheStep longestTtl store) (KeepsApart longestTtl store other) database calls := by
  rw [← undisturbed_iff longestTtl store other database calls ordered]
  constructor
  · intro isolated before after split later reached
    exact (isolated.unseen before after split later reached).1
  · intro undisturbed
    refine ⟨?_, ?_⟩
    · intro before after split later reached
      have left := undisturbed before after split later reached
      exact ⟨left, answers_unchanged store other database _ later left⟩
    · intro before now after split later reached
      exact cleared_exactly longestTtl store other database calls ordered undisturbed before after now split later
        reached

end Isolation

def cacheStore : RedisCacheStore := ⟨"cache:".toList⟩
def otherStore : RedisCacheStore := ⟨"other:".toList⟩

def sharedDatabase : CacheDatabase Unit := Dict.empty.set (otherStore.prefixed ['a']) (.string [1], ⊤)

theorem cache_isolated_iff_two :
    Isolated 1000 cacheStore otherStore sharedDatabase [(0, .set ['a'] [2] 60), (1, .delete ['a'])] ↔
      Admitted (redisCacheStep 1000 cacheStore) (KeepsApart 1000 cacheStore otherStore) sharedDatabase
        [(0, .set ['a'] [2] 60), (1, .delete ['a'])] :=
  cache_isolated_iff 1000 cacheStore otherStore sharedDatabase _ (by simp)

theorem clear_empties_other_store :
    ¬ ∀ (longestTtl : Int) (store other : RedisCacheStore) (database : CacheDatabase Unit) (calls : List (Rat × Call)),
      store.keyPrefix ≠ other.keyPrefix → calls.Pairwise (fun earlier later => earlier.1 ≤ later.1) →
      Isolated longestTtl store other database calls := by
  intro claim
  have isolated := claim 1000 cacheStore otherStore sharedDatabase [(0, .clear)] (by decide) (by simp)
  obtain ⟨_, answers⟩ := isolated.unseen [(0, .clear)] [] rfl 0 (by simp)
  have emptied := (answers ['a']).2
  exact absurd emptied (by decide +kernel)

end Chassis.Cache
