import Chassis.Dict
import Chassis.Text
import Mathlib.Data.List.Dedup

set_option autoImplicit false

namespace Chassis.RateLimit

open Text

structure RateLimitDecision where
  allowed : Bool
  limit : Int
  remaining : Int
  resetAtEpoch : Int
deriving DecidableEq, Repr

structure MemoryRateLimitStore where
  buckets : Dict Str (Int × Int)

def emptyStore : MemoryRateLimitStore := ⟨Dict.empty⟩

def bucketKey (key : Str) (bucket : Int) : Str := key ++ ':' :: intText bucket

def pruneExpiredBuckets (store : MemoryRateLimitStore) (currentBucket : Int) : MemoryRateLimitStore :=
  let expired := store.buckets.items.filter (fun item => decide (item.2.1 < currentBucket))
  ⟨store.buckets.popAll (expired.map Prod.fst)⟩

-- now is int(time.time()), and // is floor division.
def hit (store : MemoryRateLimitStore) (now : Int) (key : Str) (limit windowSeconds : Int) :
    MemoryRateLimitStore × RateLimitDecision :=
  let bucket := now.fdiv windowSeconds
  let pruned := pruneExpiredBuckets store bucket
  let name := bucketKey key bucket
  let held := (pruned.buckets.get name).getD (bucket, 0)
  let currentCount := (if held.1 ≠ bucket then 0 else held.2) + 1
  let resetAt := (bucket + 1) * windowSeconds
  (⟨pruned.buckets.set name (bucket, currentCount)⟩,
    ⟨decide (currentCount ≤ limit), limit, max (limit - currentCount) 0, resetAt⟩)

abbrev History := List (Str × Int)

def seen (history : History) (key : Str) (window : Int) : Nat := history.count (key, window)

def keysIn (history : History) (window : Int) : List Str :=
  ((history.filter (fun hit => hit.2 = window)).map Prod.fst).dedup

structure Tracks (history : History) (current : Int) (store : MemoryRateLimitStore) : Prop where
  latest : ∀ hit ∈ history, hit.2 ≤ current
  attained : history ≠ [] → ∃ hit ∈ history, hit.2 = current
  entries : ∀ name value, store.buckets.get name = some value ↔
    ∃ key, name = bucketKey key current ∧ value = (current, (seen history key current : Int)) ∧
      0 < seen history key current

theorem bucket_key_injective (left right : Str) (bucket : Int) (same : bucketKey left bucket = bucketKey right bucket) :
    left = right :=
  List.append_cancel_right same

theorem seen_positive (history : History) (key : Str) (window : Int) :
    0 < seen history key window ↔ (key, window) ∈ history :=
  List.count_pos_iff

theorem seen_append (history : History) (key other : Str) (window : Int) :
    seen (history ++ [(key, window)]) other window = seen history other window + if other = key then 1 else 0 := by
  by_cases same : other = key
  · simp [seen, same]
  · have apart : ¬ key = other := fun eq => same eq.symm
    simp [seen, same, apart]

theorem keys_in_mem (history : History) (window : Int) (key : Str) :
    key ∈ keysIn history window ↔ 0 < seen history key window := by
  rw [seen_positive]
  simp [keysIn]

theorem prune_get (store : MemoryRateLimitStore) (bucket : Int) (name : Str) :
    (pruneExpiredBuckets store bucket).buckets.get name =
      (store.buckets.get name).filter (fun value => !decide (value.1 < bucket)) := by
  have survivors := Dict.pop_all_matching store.buckets (fun _ value => decide (value.1 < bucket))
  calc
    (pruneExpiredBuckets store bucket).buckets.get name =
        (store.buckets.filter (fun _ value => !decide (value.1 < bucket))).get name := by rw [← survivors]; rfl
    _ = (store.buckets.get name).filter (fun value => !decide (value.1 < bucket)) := Dict.get_filter _ _ _

theorem tracks_empty : Tracks [] 0 emptyStore := by
  refine ⟨by simp, by simp, ?_⟩
  intro name value
  simp [emptyStore, Dict.get, Dict.empty, seen]

theorem tracks_prune (history : History) (current bucket : Int) (store : MemoryRateLimitStore)
    (tracks : Tracks history current store) (ordered : ∀ hit ∈ history, hit.2 ≤ bucket) (name : Str)
    (value : Int × Int) :
    (pruneExpiredBuckets store bucket).buckets.get name = some value ↔
      ∃ key, name = bucketKey key bucket ∧ value = (bucket, (seen history key bucket : Int)) ∧
        0 < seen history key bucket := by
  rw [prune_get, Option.filter_eq_some_iff, tracks.entries]
  constructor
  · intro kept
    obtain ⟨⟨key, named, valued, counted⟩, alive⟩ := kept
    obtain ⟨found, member, at_current⟩ := tracks.attained (by
      intro none
      simp [none, seen] at counted)
    have old : bucket ≤ current := by simpa [valued] using alive
    have same : current = bucket := le_antisymm (at_current ▸ ordered found member) old
    subst same
    exact ⟨key, named, valued, counted⟩
  · intro counted
    obtain ⟨key, named, valued, positive⟩ := counted
    have member := (seen_positive history key bucket).mp positive
    obtain ⟨found, other, at_current⟩ := tracks.attained (List.ne_nil_of_mem member)
    have same : bucket = current :=
      le_antisymm (tracks.latest _ member) (at_current ▸ ordered found other)
    subst same
    exact ⟨⟨key, named, valued, positive⟩, by simp [valued]⟩

theorem hit_count (history : History) (current bucket : Int) (store : MemoryRateLimitStore)
    (tracks : Tracks history current store) (ordered : ∀ hit ∈ history, hit.2 ≤ bucket) (key : Str) :
    (let held := ((pruneExpiredBuckets store bucket).buckets.get (bucketKey key bucket)).getD (bucket, 0)
      if held.1 ≠ bucket then 0 else held.2) = (seen history key bucket : Int) := by
  have pruned := tracks_prune history current bucket store tracks ordered (bucketKey key bucket)
  cases held : (pruneExpiredBuckets store bucket).buckets.get (bucketKey key bucket) with
  | none =>
      have unseen : ¬ 0 < seen history key bucket := by
        intro positive
        have found := (pruned _).mpr ⟨key, rfl, rfl, positive⟩
        rw [held] at found
        cases found
      have zero : seen history key bucket = 0 := by omega
      simp [zero]
  | some value =>
      obtain ⟨other, named, valued, _⟩ := (pruned value).mp held
      have same := bucket_key_injective key other bucket named
      simp [valued, same]

theorem hit_decision (history : History) (current now : Int) (store : MemoryRateLimitStore)
    (key : Str) (limit windowSeconds : Int) (tracks : Tracks history current store)
    (ordered : ∀ hit ∈ history, hit.2 ≤ now.fdiv windowSeconds) :
    (hit store now key limit windowSeconds).2 =
      let count : Int := seen (history ++ [(key, now.fdiv windowSeconds)]) key (now.fdiv windowSeconds)
      ⟨decide (count ≤ limit), limit, max (limit - count) 0, (now.fdiv windowSeconds + 1) * windowSeconds⟩ := by
  have counted := hit_count history current _ store tracks ordered key
  simp only at counted
  simp only [hit, counted, seen_append, if_pos, Nat.cast_add, Nat.cast_one]

theorem hit_tracks (history : History) (current now : Int) (store : MemoryRateLimitStore) (key : Str)
    (limit windowSeconds : Int) (tracks : Tracks history current store)
    (ordered : ∀ hit ∈ history, hit.2 ≤ now.fdiv windowSeconds) :
    Tracks (history ++ [(key, now.fdiv windowSeconds)]) (now.fdiv windowSeconds)
      (hit store now key limit windowSeconds).1 := by
  have counted := hit_count history current _ store tracks ordered key
  simp only at counted
  refine ⟨?_, fun _ => ⟨(key, now.fdiv windowSeconds), by simp, rfl⟩, ?_⟩
  · intro found member
    cases List.mem_append.mp member with
    | inl earlier => exact ordered found earlier
    | inr last => rw [List.mem_singleton.mp last]
  · intro name value
    simp only [hit, counted, Dict.get_set]
    by_cases same : name = bucketKey key (now.fdiv windowSeconds)
    · rw [if_pos same, same]
      constructor
      · intro stored
        refine ⟨key, rfl, ?_, by simp [seen_append]⟩
        rw [← Option.some.inj stored, seen_append]
        simp
      · intro claimed
        obtain ⟨other, named, valued, _⟩ := claimed
        rw [valued, ← bucket_key_injective key other _ named, seen_append]
        simp
    · rw [if_neg same, tracks_prune history current _ store tracks ordered]
      have apart (other : Str) (named : name = bucketKey other (now.fdiv windowSeconds)) : other ≠ key :=
        fun eq => same (eq ▸ named)
      constructor
      · intro claimed
        obtain ⟨other, named, valued, positive⟩ := claimed
        exact ⟨other, named, by simp [seen_append, apart other named, valued],
          by simpa [seen_append, apart other named] using positive⟩
      · intro claimed
        obtain ⟨other, named, valued, positive⟩ := claimed
        exact ⟨other, named, by simpa [seen_append, apart other named] using valued,
          by simpa [seen_append, apart other named] using positive⟩

theorem tracks_keys (history : History) (current : Int) (store : MemoryRateLimitStore)
    (tracks : Tracks history current store) :
    store.buckets.keys.Perm ((keysIn history current).map (fun key => bucketKey key current)) := by
  have distinctNames : ((keysIn history current).map (fun key => bucketKey key current)).Nodup :=
    (List.nodup_dedup _).map (fun left right same => bucket_key_injective left right current same)
  apply (List.perm_ext_iff_of_nodup store.buckets.distinct distinctNames).mpr
  intro name
  change name ∈ store.buckets.keys ↔ _
  constructor
  · intro held
    obtain ⟨value, found⟩ := (Dict.mem_keys store.buckets name).mp held
    obtain ⟨key, named, _, positive⟩ := (tracks.entries name value).mp found
    exact List.mem_map.mpr ⟨key, (keys_in_mem history current key).mpr positive, named.symm⟩
  · intro listed
    obtain ⟨key, member, named⟩ := List.mem_map.mp listed
    have positive := (keys_in_mem history current key).mp member
    exact (Dict.mem_keys store.buckets name).mpr ⟨_, (tracks.entries name _).mpr ⟨key, named.symm, rfl, positive⟩⟩

end Chassis.RateLimit
