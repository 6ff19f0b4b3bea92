import Chassis.Expiry
import Chassis.Text
import Chassis.Transition
import Mathlib.Algebra.Order.Field.Rat

set_option autoImplicit false

namespace Chassis.Cache

open Expiry Transition

structure MemoryCacheStore where
  maxEntries : Nat
  data : Dict Str (Bytes × Rat)

inductive Call where
  | get (key : Str)
  | exists (key : Str)
  | set (key : Str) (value : Bytes) (ttlSeconds : Int)
  | delete (key : Str)
  | clear

inductive Answer where
  | value (found : Option Bytes)
  | present (found : Bool)
  | done
deriving DecidableEq

def emptyStore (maxEntries : Nat) : MemoryCacheStore := ⟨maxEntries, Dict.empty⟩

def evictOldest (store : MemoryCacheStore) : MemoryCacheStore :=
  match store.data.items.argmin (fun item => item.2.2) with
  | none => store
  | some oldest => { store with data := store.data.pop oldest.1 }

-- now is the reading of time.monotonic().
def get (store : MemoryCacheStore) (now : Rat) (key : Str) : MemoryCacheStore × Option Bytes :=
  match store.data.get key with
  | none => (store, none)
  | some (value, expiry) =>
      if now ≥ expiry then ({ store with data := store.data.pop key }, none) else (store, some value)

def set (store : MemoryCacheStore) (now : Rat) (key : Str) (value : Bytes) (ttlSeconds : Int) : MemoryCacheStore :=
  let roomy := if store.data.size ≥ store.maxEntries ∧ key ∉ store.data.keys then evictOldest store else store
  { roomy with data := roomy.data.set key (value, now + ttlSeconds) }

def delete (store : MemoryCacheStore) (key : Str) : MemoryCacheStore := { store with data := store.data.pop key }

def clear (store : MemoryCacheStore) : MemoryCacheStore := { store with data := Dict.empty }

def step (store : MemoryCacheStore) (input : Rat × Call) : MemoryCacheStore × Answer :=
  match input.2 with
  | .get key => ((get store input.1 key).1, .value (get store input.1 key).2)
  | .exists key => ((get store input.1 key).1, .present (get store input.1 key).2.isSome)
  | .set key value ttlSeconds => (set store input.1 key value ttlSeconds, .done)
  | .delete key => (delete store key, .done)
  | .clear => (clear store, .done)

structure LiveMap where
  clock : Rat
  entries : Dict Str (Bytes × Rat)
  unexpired : live clock entries = entries

def purge (now : Rat) (entries : Dict Str (Bytes × Rat)) : LiveMap :=
  ⟨now, live now entries, live_later now now entries le_rfl⟩

def referenceStep (maxEntries : Nat) (reference : LiveMap) (input : Rat × Call) : LiveMap × Answer :=
  let fresh := live input.1 reference.entries
  match input.2 with
  | .get key => (purge input.1 fresh, .value ((fresh.get key).map Prod.fst))
  | .exists key => (purge input.1 fresh, .present (fresh.get key).isSome)
  | .set key value ttlSeconds => (purge input.1 (insertBounded maxEntries key (value, input.1 + ttlSeconds) fresh), .done)
  | .delete key => (purge input.1 (fresh.pop key), .done)
  | .clear => (purge input.1 Dict.empty, .done)

theorem evict_oldest_drops (store : MemoryCacheStore) :
    evictOldest store = { store with data := dropEarliest store.data } := by
  unfold evictOldest dropEarliest earliest
  cases store.data.items.argmin (fun item => item.2.2) with
  | none => rfl
  | some oldest => rfl

theorem set_inserts (store : MemoryCacheStore) (now : Rat) (key : Str) (value : Bytes) (ttlSeconds : Int) :
    set store now key value ttlSeconds =
      { store with data := insertBounded store.maxEntries key (value, now + ttlSeconds) store.data } := by
  unfold set insertBounded makeRoom
  rw [evict_oldest_drops]
  split <;> rfl

theorem get_answers (store : MemoryCacheStore) (now : Rat) (key : Str) :
    (get store now key).2 = ((live now store.data).get key).map Prod.fst := by
  rw [get_live]
  unfold get
  cases held : store.data.get key with
  | none => rfl
  | some entry =>
      by_cases expired : now ≥ entry.2
      · simp [expired, Option.filter, not_lt.mpr expired]
      · simp [expired, Option.filter, not_le.mp expired]

theorem get_keeps (store : MemoryCacheStore) (now : Rat) (key : Str) :
    Dict.Same (live now (get store now key).1.data) (live now store.data) := by
  intro other
  unfold get
  cases held : store.data.get key with
  | none => rfl
  | some entry =>
      by_cases expired : now ≥ entry.2
      · simp only [expired, if_true]
        rw [get_live, get_live, Dict.get_pop]
        by_cases same : other = key
        · simp [same, held, Option.filter, not_lt.mpr expired]
        · rw [if_neg same]
      · simp only [expired, if_false]

theorem get_shape (store : MemoryCacheStore) (now : Rat) (key : Str) :
    (get store now key).1 = store ∨ (get store now key).1 = { store with data := store.data.pop key } := by
  unfold get
  cases store.data.get key with
  | none => exact .inl rfl
  | some entry =>
      by_cases expired : now ≥ entry.2
      · exact .inr (by simp [expired])
      · exact .inl (by simp [expired])

structure Holds (maxEntries : Nat) (store : MemoryCacheStore) (reference : LiveMap) : Prop where
  capacity : store.maxEntries = maxEntries
  bounded : store.data.size ≤ maxEntries
  entries : Dict.Same (live reference.clock store.data) reference.entries

def InOrder (reference : LiveMap) (input : Rat × Call) : Prop :=
  reference.clock ≤ input.1 ∧ NoTies (live input.1 reference.entries)

theorem holds_fresh (maxEntries : Nat) (store : MemoryCacheStore) (reference : LiveMap) (now : Rat)
    (holds : Holds maxEntries store reference) (ordered : reference.clock ≤ now) :
    Dict.Same (live now store.data) (live now reference.entries) := by
  intro key
  rw [← live_later reference.clock now store.data ordered]
  exact live_same now _ _ holds.entries key

theorem pop_same (left right : Dict Str (Bytes × Rat)) (same : Dict.Same left right) (key : Str) :
    Dict.Same (left.pop key) (right.pop key) := by
  intro other
  rw [Dict.get_pop, Dict.get_pop, same other]

theorem live_pop (now : Rat) (entries : Dict Str (Bytes × Rat)) (key : Str) :
    Dict.Same (live now (entries.pop key)) ((live now entries).pop key) := by
  intro other
  rw [get_live, Dict.get_pop, Dict.get_pop, get_live]
  split <;> rfl

theorem step_size (store : MemoryCacheStore) (input : Rat × Call) (positive : 0 < store.maxEntries)
    (bounded : store.data.size ≤ store.maxEntries) :
    (step store input).1.data.size ≤ store.maxEntries ∧ (step store input).1.maxEntries = store.maxEntries := by
  have popped (key : Str) : (store.data.pop key).size ≤ store.maxEntries :=
    le_trans (Dict.filter_size _ store.data) bounded
  have read (key : Str) :
      (get store input.1 key).1.data.size ≤ store.maxEntries ∧
        (get store input.1 key).1.maxEntries = store.maxEntries := by
    cases get_shape store input.1 key with
    | inl kept => rw [kept]; exact ⟨bounded, rfl⟩
    | inr purged => rw [purged]; exact ⟨popped key, rfl⟩
  cases call : input.2 with
  | get key => simpa only [step, call] using read key
  | «exists» key => simpa only [step, call] using read key
  | set key value ttlSeconds =>
      simp only [step, call, set_inserts]
      exact ⟨insert_bounded_size _ key _ _ positive bounded, trivial⟩
  | delete key => simpa only [step, call, delete] using ⟨popped key, trivial⟩
  | clear => simp [step, call, clear, Dict.empty, Dict.size]

theorem step_holds (maxEntries : Nat) (positive : 0 < maxEntries) :
    Simulates step (referenceStep maxEntries) InOrder (Holds maxEntries) := by
  intro store reference input holds inOrder
  obtain ⟨now, call⟩ := input
  have fresh := holds_fresh maxEntries store reference now holds inOrder.1
  have size := step_size store (now, call) (holds.capacity ▸ positive) (holds.capacity ▸ holds.bounded)
  rw [holds.capacity] at size
  have purged (entries : Dict Str (Bytes × Rat)) :
      live now (live now entries) = live now entries := live_later now now entries le_rfl
  have read (key : Str) :
      Dict.Same (live now (get store now key).1.data) (live now (live now reference.entries)) := by
    intro other
    calc
      (live now (get store now key).1.data).get other = (live now store.data).get other := get_keeps store now key other
      _ = (live now reference.entries).get other := fresh other
      _ = (live now (live now reference.entries)).get other := by rw [purged]
  cases call with
  | get key =>
      refine ⟨⟨size.2, size.1, read key⟩, ?_⟩
      simp only [step, referenceStep, get_answers, fresh key]
  | «exists» key =>
      refine ⟨⟨size.2, size.1, read key⟩, ?_⟩
      simp only [step, referenceStep, get_answers, fresh key, Option.isSome_map]
  | set key value ttlSeconds =>
      refine ⟨⟨size.2, size.1, ?_⟩, rfl⟩
      have noTies : NoTies (live now store.data) := no_ties_same _ _ (fun key => (fresh key).symm) inOrder.2
      have inserted := insert_bounded_live maxEntries now key (value, now + ttlSeconds) store.data
        (live now reference.entries) holds.bounded noTies fresh
      simp only [step, set_inserts, holds.capacity]
      exact inserted
  | delete key =>
      refine ⟨⟨size.2, size.1, ?_⟩, rfl⟩
      intro other
      calc
        (live now (store.data.pop key)).get other = ((live now store.data).pop key).get other := live_pop now _ key other
        _ = ((live now (live now reference.entries)).pop key).get other := by rw [purged]; exact pop_same _ _ fresh key other
        _ = (live now ((live now reference.entries).pop key)).get other := (live_pop now _ key other).symm
  | clear => exact ⟨⟨size.2, size.1, fun other => rfl⟩, rfl⟩

theorem reference_clock (maxEntries : Nat) (reference : LiveMap) (input : Rat × Call) :
    (referenceStep maxEntries reference input).1.clock = input.1 := by
  obtain ⟨now, call⟩ := input
  cases call <;> rfl

def ClockOrdered (start : Rat) (calls : List (Rat × Call)) : Prop := (start :: calls.map Prod.fst).Pairwise (· ≤ ·)

def NeverTied (store : MemoryCacheStore) (calls : List (Rat × Call)) : Prop :=
  ∀ before call after, calls = before ++ call :: after → NoTies (live call.1 (run step store before).1.data)

theorem never_tied_cons (store : MemoryCacheStore) (call : Rat × Call) (rest : List (Rat × Call)) :
    NeverTied store (call :: rest) ↔ NoTies (live call.1 store.data) ∧ NeverTied (step store call).1 rest := by
  constructor
  · intro tied
    refine ⟨tied [] call rest rfl, ?_⟩
    intro before next after split
    exact tied (call :: before) next after (by rw [split]; rfl)
  · intro both before next after split
    cases before with
    | nil =>
        have same : call = next := (List.cons.inj split).1
        exact same ▸ both.1
    | cons first before =>
        obtain ⟨rfl, tail⟩ := List.cons.inj split
        exact both.2 before next after tail

theorem calls_admitted (maxEntries : Nat) (positive : 0 < maxEntries) (store : MemoryCacheStore)
    (reference : LiveMap) (calls : List (Rat × Call)) (holds : Holds maxEntries store reference)
    (ordered : ClockOrdered reference.clock calls) (neverTied : NeverTied store calls) :
    Admitted (referenceStep maxEntries) InOrder reference calls := by
  induction calls generalizing store reference with
  | nil => trivial
  | cons call rest ih =>
      obtain ⟨below, later⟩ := List.pairwise_cons.mp ordered
      obtain ⟨untied, laterUntied⟩ := (never_tied_cons store call rest).mp neverTied
      have inOrder : InOrder reference call := by
        refine ⟨below call.1 (by simp), ?_⟩
        exact no_ties_same _ _ (holds_fresh maxEntries store reference call.1 holds (below call.1 (by simp))) untied
      have next := (step_holds maxEntries positive store reference call holds inOrder).1
      refine ⟨inOrder, ih (step store call).1 _ next ?_ laterUntied⟩
      rw [reference_clock]
      exact later

theorem run_refines (maxEntries : Nat) (positive : 0 < maxEntries) (store : MemoryCacheStore) (reference : LiveMap)
    (calls : List (Rat × Call)) (holds : Holds maxEntries store reference)
    (ordered : ClockOrdered reference.clock calls) (neverTied : NeverTied store calls) :
    (run step store calls).2 = (run (referenceStep maxEntries) reference calls).2 :=
  (simulates_run step (referenceStep maxEntries) InOrder (Holds maxEntries) (step_holds maxEntries positive) store
    reference calls holds (calls_admitted maxEntries positive store reference calls holds ordered neverTied)).2

theorem garbage_unobservable (maxEntries : Nat) (positive : 0 < maxEntries) (store twin : MemoryCacheStore)
    (clock : Rat) (calls : List (Rat × Call)) (capacity : store.maxEntries = maxEntries)
    (twinCapacity : twin.maxEntries = maxEntries) (bounded : store.data.size ≤ maxEntries)
    (twinBounded : twin.data.size ≤ maxEntries) (same : Dict.Same (live clock store.data) (live clock twin.data))
    (ordered : ClockOrdered clock calls) (neverTied : NeverTied store calls) :
    (run step twin calls).2 = (run step store calls).2 := by
  have holds : Holds maxEntries store (purge clock store.data) := ⟨capacity, bounded, fun _ => rfl⟩
  have twinHolds : Holds maxEntries twin (purge clock store.data) :=
    ⟨twinCapacity, twinBounded, fun key => (same key).symm⟩
  have admitted := calls_admitted maxEntries positive store _ calls holds ordered neverTied
  have refined := run_refines maxEntries positive store _ calls holds ordered neverTied
  have twinRefined := simulates_run step _ InOrder _ (step_holds maxEntries positive) twin _ calls twinHolds admitted
  exact twinRefined.2.trans refined.symm

theorem run_size (store : MemoryCacheStore) (calls : List (Rat × Call)) (positive : 0 < store.maxEntries)
    (bounded : store.data.size ≤ store.maxEntries) :
    (run step store calls).1.data.size ≤ store.maxEntries ∧ (run step store calls).1.maxEntries = store.maxEntries := by
  induction calls generalizing store with
  | nil => exact ⟨bounded, rfl⟩
  | cons call rest ih =>
      have next := step_size store call positive bounded
      have later := ih (step store call).1 (next.2 ▸ positive) (next.2 ▸ next.1)
      rw [next.2] at later
      exact later

def Loses (store : MemoryCacheStore) (now : Rat) (key : Str) : Call → Prop
  | .get _ => False
  | .exists _ => False
  | .delete other => other = key
  | .clear => True
  | .set other value ttlSeconds =>
      other = key ∨
        other ∉ store.data.keys ∧ (live now store.data).size = store.maxEntries ∧
          (0 < ttlSeconds →
            key ∉ (set store now other value ttlSeconds).data.keys ∧
              (live now (set store now other value ttlSeconds).data).size = store.maxEntries)

theorem read_keeps_live (store : MemoryCacheStore) (now : Rat) (key other : Str) (entry : Bytes × Rat)
    (held : store.data.get key = some entry) (alive : now < entry.2) :
    (get store now other).1.data.get key = some entry := by
  have kept := get_keeps store now other key
  rw [(live_get_some now store.data key entry).mpr ⟨held, alive⟩] at kept
  exact ((live_get_some now _ key entry).mp kept).1

theorem full_set_live (store : MemoryCacheStore) (now : Rat) (key other : Str) (value : Bytes) (ttlSeconds : Int)
    (different : key ≠ other) (absent : other ∉ store.data.keys) (full : store.maxEntries ≤ store.data.size)
    (allLive : live now store.data = store.data) (least : earliest store.data = some key)
    (bounded : store.data.size ≤ store.maxEntries) (lasting : 0 < ttlSeconds) :
    key ∉ (set store now other value ttlSeconds).data.keys ∧
      (live now (set store now other value ttlSeconds).data).size = store.maxEntries := by
  obtain ⟨entry, held, _⟩ := earliest_least store.data key least
  have room : makeRoom store.maxEntries other store.data = store.data.pop key := by
    rw [makeRoom, if_pos ⟨full, absent⟩, dropEarliest, least]
  have stored : (set store now other value ttlSeconds).data =
      (store.data.pop key).set other (value, now + ttlSeconds) := by
    rw [set_inserts, insertBounded, room]
  have gone : key ∉ (set store now other value ttlSeconds).data.keys := by
    apply (Dict.get_eq_none _ key).mp
    rw [stored, Dict.get_set, if_neg different, Dict.get_pop, if_pos rfl]
  refine ⟨gone, ?_⟩
  have fresh : live now (set store now other value ttlSeconds).data = (set store now other value ttlSeconds).data := by
    apply all_live
    intro name found inside
    rw [stored, Dict.get_set] at inside
    by_cases written : name = other
    · rw [if_pos written] at inside
      have longer : now < now + (ttlSeconds : Rat) := lt_add_of_pos_right now (Int.cast_pos.mpr lasting)
      exact Option.some.inj inside ▸ longer
    · rw [if_neg written, Dict.get_pop] at inside
      by_cases dropped : name = key
      · rw [if_pos dropped] at inside
        cases inside
      · rw [if_neg dropped, ← allLive] at inside
        exact ((live_get_some now store.data name found).mp inside).2
  rw [fresh, stored, Dict.set_size, if_neg]
  · have popped := Dict.pop_size store.data key ((Dict.mem_keys store.data key).mpr ⟨entry, held⟩)
    omega
  · intro listed
    obtain ⟨found, inside⟩ := (Dict.mem_keys _ other).mp listed
    rw [Dict.get_pop, if_neg (Ne.symm different)] at inside
    exact absent ((Dict.mem_keys store.data other).mpr ⟨found, inside⟩)

theorem step_loses (store : MemoryCacheStore) (input : Rat × Call) (key : Str) (entry : Bytes × Rat)
    (bounded : store.data.size ≤ store.maxEntries) (held : store.data.get key = some entry)
    (alive : input.1 < entry.2) (lost : (step store input).1.data.get key ≠ some entry) :
    Loses store input.1 key input.2 := by
  obtain ⟨now, call⟩ := input
  cases call with
  | get other => exact lost (read_keeps_live store now key other entry held alive)
  | «exists» other => exact lost (read_keeps_live store now key other entry held alive)
  | delete other =>
      by_contra different
      apply lost
      simp only [step, delete, Dict.get_pop]
      rw [if_neg (fun eq => different eq.symm), held]
  | clear => trivial
  | set other value ttlSeconds =>
      have gone : (insertBounded store.maxEntries other (value, now + ttlSeconds) store.data).get key ≠ some entry := by
        simpa only [step, set_inserts] using lost
      cases insert_bounded_loses store.maxEntries now other key _ entry store.data held alive gone with
      | inl same => exact .inl same.symm
      | inr full =>
          obtain ⟨absent, reached, allLive, least⟩ := full
          have different : key ≠ other := by
            intro same
            exact absent ((Dict.mem_keys store.data other).mpr ⟨entry, same ▸ held⟩)
          refine .inr ⟨absent, by rw [allLive]; omega, fun lasting => ?_⟩
          exact full_set_live store now key other value ttlSeconds different absent reached allLive least bounded lasting

theorem memory_cache_refines_live_map (maxEntries : Nat) (positive : 0 < maxEntries) (start : Rat)
    (calls : List (Rat × Call)) (ordered : ClockOrdered start calls)
    (neverTied : NeverTied (emptyStore maxEntries) calls) :
    (run step (emptyStore maxEntries) calls).2 =
        (run (referenceStep maxEntries) (purge start Dict.empty) calls).2 ∧
    ∀ reached : List (Rat × Call),
      let store := (run step (emptyStore maxEntries) reached).1
      store.data.size ≤ maxEntries ∧
      (∀ next key entry, store.data.get key = some entry → next.1 < entry.2 →
        (step store next).1.data.get key ≠ some entry → Loses store next.1 key next.2) ∧
      ∀ (twin : MemoryCacheStore) (clock : Rat) (later : List (Rat × Call)), twin.maxEntries = maxEntries →
        twin.data.size ≤ maxEntries → Dict.Same (live clock store.data) (live clock twin.data) →
        ClockOrdered clock later → NeverTied store later → (run step twin later).2 = (run step store later).2 := by
  have empty : Holds maxEntries (emptyStore maxEntries) (purge start Dict.empty) :=
    ⟨rfl, Nat.zero_le _, fun _ => rfl⟩
  refine ⟨run_refines maxEntries positive _ _ calls empty ordered neverTied, ?_⟩
  intro reached store
  have size := run_size (emptyStore maxEntries) reached positive (Nat.zero_le _)
  refine ⟨size.1, ?_, ?_⟩
  · intro next key entry held alive lost
    exact step_loses store next key entry (size.2.symm ▸ size.1) held alive lost
  · intro twin clock later capacity bounded same laterOrdered laterUntied
    exact garbage_unobservable maxEntries positive store twin clock later size.2 capacity size.1 bounded same
      laterOrdered laterUntied

def fillSlot : List (Rat × Call) := [(0, .set ['a'] [1] 100)]
def emptySet : Rat × Call := (1, .set ['b'] [2] 0)

def readSlot : List (Rat × Call) :=
  fillSlot ++ [(1, .get ['a']), emptySet, (2, .get ['a']), (2, .exists ['b']), (3, .set ['c'] [3] 5), (4, .exists ['c'])]

theorem one_slot_untied (calls : List (Rat × Call)) : NeverTied (emptyStore 1) calls := by
  intro before call after split
  have size := le_trans (live_size_le call.1 _) (run_size (emptyStore 1) before Nat.one_pos (Nat.zero_le _)).1
  unfold Dict.size at size
  unfold NoTies
  match (live call.1 (run step (emptyStore 1) before).1.data).items, size with
  | [], _ => simp
  | [item], _ => simp

theorem memory_cache_refines_live_map_slot :
    (run step (emptyStore 1) readSlot).2 = (run (referenceStep 1) (purge 0 Dict.empty) readSlot).2 := by
  have ordered : ClockOrdered 0 readSlot := by
    norm_num [ClockOrdered, readSlot, fillSlot, emptySet]
  exact (memory_cache_refines_live_map 1 (by decide) 0 _ ordered (one_slot_untied readSlot)).1

theorem expired_set_evicts :
    (step (run step (emptyStore 1) fillSlot).1 (1, .get ['a'])).2 = .value (some [1]) ∧
    (live 1 (run step (emptyStore 1) fillSlot).1.data).keys = [['a']] ∧
    (step (run step (emptyStore 1) (fillSlot ++ [emptySet])).1 (1, .get ['a'])).2 = .value none ∧
    (live 1 (run step (emptyStore 1) (fillSlot ++ [emptySet])).1.data).keys = [] := by
  decide +kernel

end Chassis.Cache
