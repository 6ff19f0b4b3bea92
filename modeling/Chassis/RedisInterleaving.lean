import Chassis.RedisRateLimit
import Mathlib.Data.Int.Interval

set_option autoImplicit false

namespace Chassis.RateLimit

open Redis Text Transition

-- Where one call of RedisRateLimitStore.hit stands: before its INCR, or
-- before the EXPIRE that a count of one asks for.
inductive HitPhase where
  | idle
  | counting (key : Str) (bucket : Int)
  | expiring (key : Str) (bucket : Int)
  | finished
deriving DecidableEq

-- One Redis with its keys, the calls of all instances, and the common clock.
structure SharedState where
  database : Database Str Int
  phase : Nat → HitPhase
  clock : WallClock

def sharedStart : SharedState := ⟨Dict.empty, fun _ => .idle, 0⟩

inductive HitAction where
  | begin (key : Str)
  | incr
  | expire
  | abort

structure HitStep where
  time : WallClock
  call : Nat
  action : HitAction

inductive HitEvent where
  | counted (call : Nat) (key : Str) (bucket : Int)
  | decided (call : Nat) (key : Str) (bucket count : Int) (decision : RateLimitDecision)

def SharedState.enter (state : SharedState) (now : WallClock) (call : Nat) (phase : HitPhase) : SharedState :=
  { state with phase := fun other => if other = call then phase else state.phase other, clock := now }

@[simp] theorem enter_clock (state : SharedState) (now : WallClock) (call : Nat) (phase : HitPhase) :
    (state.enter now call phase).clock = now := rfl

@[simp] theorem enter_phase (state : SharedState) (now : WallClock) (call other : Nat) (phase : HitPhase) :
    (state.enter now call phase).phase other = if other = call then phase else state.phase other := rfl

def hitStep (limit windowSeconds : Int) (state : SharedState) (input : HitStep) :
    Option (SharedState × List HitEvent) :=
  let { time := now, call, action } := input
  let decision (bucket count : Int) := countDecision count limit ((bucket + 1) * windowSeconds)
  if now < state.clock then none
  else
    match action, state.phase call with
    | .begin key, .idle =>
        some (state.enter now call (.counting key ((epochSeconds now).fdiv windowSeconds)), [])
    | .incr, .counting key bucket =>
        let (database, count) := Redis.incr now state.database (redisKey key bucket)
        if count = 1 then
          some ({ state.enter now call (.expiring key bucket) with database := database }, [.counted call key bucket])
        else
          some ({ state.enter now call .finished with database := database },
            [.counted call key bucket, .decided call key bucket count (decision bucket count)])
    | .expire, .expiring key bucket =>
        some ({ state.enter now call .finished with
            database := Redis.expire now state.database (redisKey key bucket) windowSeconds },
          [.decided call key bucket 1 (decision bucket 1)])
    | .abort, .counting _ _ => some (state.enter now call .finished, [])
    | .abort, .expiring _ _ => some (state.enter now call .finished, [])
    | _, _ => none

def HitEvent.counts (key : Str) (bucket : Int) : HitEvent → Bool
  | .counted _ other window => key = other && bucket = window
  | .decided _ _ _ _ _ => false

def HitEvent.decides (key : Str) (bucket : Int) : HitEvent → Bool
  | .counted _ _ _ => false
  | .decided _ other window _ _ => key = other && bucket = window

def HitEvent.allows (key : Str) (bucket : Int) : HitEvent → Bool
  | .counted _ _ _ => false
  | .decided _ other window _ decision => key = other && bucket = window && decision.allowed

def HitEvent.count : HitEvent → Int
  | .counted _ _ _ => 0
  | .decided _ _ _ count _ => count

def countedHits (trace : List HitEvent) (key : Str) (bucket : Int) : Nat :=
  (trace.filter (HitEvent.counts key bucket)).length

def decidedCounts (trace : List HitEvent) (key : Str) (bucket : Int) : List Int :=
  (trace.filter (HitEvent.decides key bucket)).map HitEvent.count

def allowedHits (trace : List HitEvent) (key : Str) (bucket : Int) : Nat :=
  (trace.filter (HitEvent.allows key bucket)).length

def CounterKept (past : List HitEvent) (state : SharedState) (input : HitStep) : Prop :=
  ∀ key bucket, input.action = .incr → state.phase input.call = .counting key bucket →
    countedHits past key bucket ≠ 0 → find input.time state.database (redisKey key bucket) ≠ none

def keepsCounter (past : List HitEvent) (state : SharedState) (input : HitStep) : Bool :=
  match input.action, state.phase input.call with
  | .incr, .counting key bucket =>
      countedHits past key bucket = 0 || (find input.time state.database (redisKey key bucket)).isSome
  | _, _ => true

theorem keeps_counter_iff (past : List HitEvent) (state : SharedState) (input : HitStep) :
    keepsCounter past state input = true ↔ CounterKept past state input := by
  unfold keepsCounter
  split
  next key bucket action counting =>
    constructor
    · intro checked other window _ reached counted
      rw [counting] at reached
      cases reached
      simp only [counted, decide_false, Bool.false_or] at checked
      exact Option.isSome_iff_ne_none.mp checked
    · intro kept
      by_cases counted : countedHits past key bucket = 0
      · simp [counted]
      · simp [Option.isSome_iff_ne_none.mpr (kept key bucket action counting counted)]
  next other =>
    constructor
    · intro _ key bucket action counting
      exact absurd counting (other key bucket action)
    · intro _
      rfl

instance (past : List HitEvent) (state : SharedState) (input : HitStep) : Decidable (CounterKept past state input) :=
  decidable_of_iff _ (keeps_counter_iff past state input)

theorem hit_step_cases (limit windowSeconds : Int) (state next : SharedState) (input : HitStep)
    (events : List HitEvent) (stepped : hitStep limit windowSeconds state input = some (next, events)) :
    state.clock ≤ input.time ∧
    ((∃ key, state.phase input.call = .idle ∧ events = [] ∧
        next = state.enter input.time input.call (.counting key ((epochSeconds input.time).fdiv windowSeconds))) ∨
      (∃ key bucket, input.action = .incr ∧ state.phase input.call = .counting key bucket ∧
        (incr input.time state.database (redisKey key bucket)).2 = 1 ∧ events = [.counted input.call key bucket] ∧
        next = { state.enter input.time input.call (.expiring key bucket) with
          database := (incr input.time state.database (redisKey key bucket)).1 }) ∨
      (∃ key bucket count, input.action = .incr ∧ state.phase input.call = .counting key bucket ∧
        (incr input.time state.database (redisKey key bucket)).2 = count ∧ count ≠ 1 ∧
        events = [.counted input.call key bucket,
          .decided input.call key bucket count (countDecision count limit ((bucket + 1) * windowSeconds))] ∧
        next = { state.enter input.time input.call .finished with
          database := (incr input.time state.database (redisKey key bucket)).1 }) ∨
      (∃ key bucket, state.phase input.call = .expiring key bucket ∧
        events = [.decided input.call key bucket 1 (countDecision 1 limit ((bucket + 1) * windowSeconds))] ∧
        next = { state.enter input.time input.call .finished with
          database := expire input.time state.database (redisKey key bucket) windowSeconds }) ∨
      (events = [] ∧ next = state.enter input.time input.call .finished)) := by
  obtain ⟨now, call, action⟩ := input
  by_cases early : now < state.clock
  · simp [hitStep, early] at stepped
  · refine ⟨not_lt.mp early, ?_⟩
    cases action with
    | begin key =>
        cases phase : state.phase call <;> simp [hitStep, early, phase] at stepped
        exact .inl ⟨key, rfl, stepped.2, stepped.1.symm⟩
    | incr =>
        cases phase : state.phase call <;> simp [hitStep, early, phase] at stepped
        next key bucket =>
          by_cases first : (incr now state.database (redisKey key bucket)).2 = 1
          · simp only [first, if_true, Option.some.injEq, Prod.mk.injEq] at stepped
            exact .inr (.inl ⟨key, bucket, rfl, rfl, first, stepped.2.symm, stepped.1.symm⟩)
          · simp only [first, if_false, Option.some.injEq, Prod.mk.injEq] at stepped
            exact .inr (.inr (.inl ⟨key, bucket, _, rfl, rfl, rfl, first, stepped.2.symm, stepped.1.symm⟩))
    | expire =>
        cases phase : state.phase call <;> simp [hitStep, early, phase] at stepped
        exact .inr (.inr (.inr (.inl ⟨_, _, rfl, stepped.2.symm, stepped.1.symm⟩)))
    | abort =>
        cases phase : state.phase call <;> simp [hitStep, early, phase] at stepped <;>
          exact .inr (.inr (.inr (.inr ⟨stepped.2, stepped.1.symm⟩)))

theorem counted_append (past events : List HitEvent) (key : Str) (bucket : Int) :
    countedHits (past ++ events) key bucket = countedHits past key bucket + countedHits events key bucket := by
  simp [countedHits]

theorem decided_append (past events : List HitEvent) (key : Str) (bucket : Int) :
    decidedCounts (past ++ events) key bucket = decidedCounts past key bucket ++ decidedCounts events key bucket := by
  simp [decidedCounts]

theorem counted_single (call : Nat) (key other : Str) (bucket window : Int) :
    countedHits [.counted call key bucket] other window = if other = key ∧ window = bucket then 1 else 0 := by
  have matched : HitEvent.counts other window (.counted call key bucket) = decide (other = key ∧ window = bucket) := by
    simp [HitEvent.counts]
  rw [countedHits, List.filter_cons, matched]
  by_cases same : other = key ∧ window = bucket <;> simp [same]

theorem decided_single (call : Nat) (key other : Str) (bucket window count : Int) (decision : RateLimitDecision) :
    decidedCounts [.decided call key bucket count decision] other window =
      if other = key ∧ window = bucket then [count] else [] := by
  have matched : HitEvent.decides other window (.decided call key bucket count decision) =
      decide (other = key ∧ window = bucket) := by
    simp [HitEvent.decides]
  rw [decidedCounts, List.filter_cons, matched]
  by_cases same : other = key ∧ window = bucket <;> simp [same, HitEvent.count]

-- The counters number the hits of each key and window without gap or repeat,
-- and at most one hit of a window still has its EXPIRE to make.
structure Tallied (limit windowSeconds : Int) (past : List HitEvent) (state : SharedState) : Prop where
  counters : ∀ key bucket, Counter windowSeconds state.database key bucket (countedHits past key bucket)
  begun : ∀ call key bucket, state.phase call = .counting key bucket ∨ state.phase call = .expiring key bucket →
    ((bucket * windowSeconds : Int) : Rat) ≤ state.clock
  numbered : ∀ key bucket, (decidedCounts past key bucket).Nodup ∧
    ∀ count ∈ decidedCounts past key bucket, 1 ≤ count ∧ count ≤ countedHits past key bucket
  pending : ∀ call key bucket, state.phase call = .expiring key bucket →
    1 ∉ decidedCounts past key bucket ∧ countedHits past key bucket ≠ 0 ∧
      ∀ other, state.phase other = .expiring key bucket → other = call
  judged : ∀ call key bucket count decision, .decided call key bucket count decision ∈ past →
    decision.allowed = decide (count ≤ limit)

theorem tallied_start (limit windowSeconds : Int) : Tallied limit windowSeconds [] sharedStart where
  counters := fun _ _ => rfl
  begun := by simp [sharedStart]
  numbered := by simp [decidedCounts]
  pending := by simp [sharedStart]
  judged := by simp

theorem numbered_snoc (counts : List Int) (size larger : Nat) (count : Int)
    (old : counts.Nodup ∧ ∀ earlier ∈ counts, 1 ≤ earlier ∧ earlier ≤ size) (unused : count ∉ counts)
    (grown : size ≤ larger) (bounds : 1 ≤ count ∧ count ≤ larger) :
    (counts ++ [count]).Nodup ∧ ∀ number ∈ counts ++ [count], 1 ≤ number ∧ number ≤ larger := by
  constructor
  · apply List.nodup_append.mpr
    refine ⟨old.1, List.nodup_singleton _, ?_⟩
    intro earlier member last own
    rw [List.mem_singleton.mp own]
    exact fun same => unused (same ▸ member)
  · intro number member
    cases List.mem_append.mp member with
    | inl earlier =>
        have before := old.2 number earlier
        omega
    | inr own =>
        rw [List.mem_singleton.mp own]
        exact bounds

theorem expiring_before (state : SharedState) (now : WallClock) (call other : Nat) (key : Str) (bucket : Int)
    (expiring : (state.enter now call .finished).phase other = .expiring key bucket) :
    other ≠ call ∧ state.phase other = .expiring key bucket := by
  rw [enter_phase] at expiring
  by_cases same : other = call
  · rw [if_pos same] at expiring
    cases expiring
  · rw [if_neg same] at expiring
    exact ⟨same, expiring⟩

theorem judged_snoc (limit : Int) (past events : List HitEvent) (call : Nat) (key : Str) (bucket count reset : Int)
    (own : ∀ event ∈ events, event = .counted call key bucket ∨
      event = .decided call key bucket count (countDecision count limit reset))
    (earlier : ∀ call key bucket count decision, .decided call key bucket count decision ∈ past →
      decision.allowed = decide (count ≤ limit)) :
    ∀ call key bucket count decision, .decided call key bucket count decision ∈ past ++ events →
      decision.allowed = decide (count ≤ limit) := by
  intro other name window number verdict member
  cases List.mem_append.mp member with
  | inl before => exact earlier other name window number verdict before
  | inr after =>
      cases own _ after with
      | inl counted => cases counted
      | inr decided =>
          cases decided
          rfl

section Preservation

variable (limit windowSeconds : Int) (past : List HitEvent) (state : SharedState) (now : WallClock) (call : Nat)
  (tallied : Tallied limit windowSeconds past state) (ordered : state.clock ≤ now)

include tallied ordered

theorem still_begun (other : Nat) (key : Str) (bucket : Int)
    (reached : state.phase other = .counting key bucket ∨ state.phase other = .expiring key bucket) :
    ((bucket * windowSeconds : Int) : Rat) ≤ now :=
  le_trans (tallied.begun other key bucket reached) (NNRat.coe_le_coe.mpr ordered)

theorem tallied_enter (phase : HitPhase) (calm : ∀ key bucket, phase ≠ .expiring key bucket)
    (startable : ∀ key bucket, phase = .counting key bucket → ((bucket * windowSeconds : Int) : Rat) ≤ now) :
    Tallied limit windowSeconds past (state.enter now call phase) where
  counters := tallied.counters
  begun := by
    intro other key bucket reached
    rw [enter_phase] at reached
    by_cases same : other = call
    · simp only [same, if_true] at reached
      exact startable key bucket (reached.resolve_right (calm key bucket))
    · rw [if_neg same] at reached
      exact still_begun limit windowSeconds past state now tallied ordered other key bucket reached
  numbered := tallied.numbered
  pending := by
    intro other key bucket expiring
    rw [enter_phase] at expiring
    by_cases same : other = call
    · rw [if_pos same] at expiring
      exact absurd expiring (calm key bucket)
    · rw [if_neg same] at expiring
      obtain ⟨undecided, counted, alone⟩ := tallied.pending other key bucket expiring
      refine ⟨undecided, counted, ?_⟩
      intro third also
      rw [enter_phase] at also
      by_cases mine : third = call
      · rw [if_pos mine] at also
        exact absurd also (calm key bucket)
      · rw [if_neg mine] at also
        exact alone third also
  judged := tallied.judged

omit ordered in
theorem counters_grow (key : Str) (bucket : Int)
    (alive : countedHits past key bucket ≠ 0 → find now state.database (redisKey key bucket) ≠ none) (other : Str)
    (window : Int) :
    Counter windowSeconds (incr now state.database (redisKey key bucket)).1 other window
      (countedHits past other window + if other = key ∧ window = bucket then 1 else 0) := by
  by_cases same : other = key ∧ window = bucket
  · rw [if_pos same, same.1, same.2]
    exact (counter_incr windowSeconds now state.database key bucket _ (tallied.counters key bucket) alive).2
  · rw [if_neg same, Nat.add_zero]
    exact counter_other windowSeconds state.database _ key other bucket window _
      (fun name different => incr_other now state.database _ name different) same (tallied.counters other window)

theorem begun_enter (phase : HitPhase) (key : Str) (bucket : Int) (counting : state.phase call = .counting key bucket)
    (onward : phase = .expiring key bucket ∨ phase = .finished) (other : Nat) (name : Str) (window : Int)
    (reached : (state.enter now call phase).phase other = .counting name window ∨
      (state.enter now call phase).phase other = .expiring name window) :
    ((window * windowSeconds : Int) : Rat) ≤ now := by
  rw [enter_phase] at reached
  by_cases same : other = call
  · rw [if_pos same] at reached
    cases onward with
    | inl expiring =>
        rw [expiring] at reached
        cases reached with
        | inl absent => cases absent
        | inr found =>
            cases found
            exact still_begun limit windowSeconds past state now tallied ordered call key bucket (.inl counting)
    | inr finished =>
        rw [finished] at reached
        cases reached with
        | inl absent => cases absent
        | inr absent => cases absent
  · rw [if_neg same] at reached
    exact still_begun limit windowSeconds past state now tallied ordered other name window reached

theorem tallied_first (key : Str) (bucket : Int) (counting : state.phase call = .counting key bucket)
    (alive : countedHits past key bucket ≠ 0 → find now state.database (redisKey key bucket) ≠ none)
    (first : (incr now state.database (redisKey key bucket)).2 = 1) :
    Tallied limit windowSeconds (past ++ [.counted call key bucket])
      { state.enter now call (.expiring key bucket) with
        database := (incr now state.database (redisKey key bucket)).1 } := by
  have value := (counter_incr windowSeconds now state.database key bucket _ (tallied.counters key bucket) alive).1
  have fresh : countedHits past key bucket = 0 := by omega
  have undecided : decidedCounts past key bucket = [] := by
    apply List.eq_nil_iff_forall_not_mem.mpr
    intro count member
    have bounds := (tallied.numbered key bucket).2 count member
    omega
  have grown (other : Str) (window : Int) : countedHits (past ++ [.counted call key bucket]) other window =
      countedHits past other window + if other = key ∧ window = bucket then 1 else 0 := by
    rw [counted_append, counted_single]
  have decided (other : Str) (window : Int) :
      decidedCounts (past ++ [.counted call key bucket]) other window = decidedCounts past other window := by
    simp [decidedCounts, HitEvent.decides]
  refine ⟨?_, ?_, ?_, ?_, ?_⟩
  · intro other window
    rw [grown]
    exact counters_grow limit windowSeconds past state now tallied key bucket alive other window
  · exact begun_enter limit windowSeconds past state now call tallied ordered _ key bucket counting (.inl rfl)
  · intro other window
    rw [decided, grown]
    refine ⟨(tallied.numbered other window).1, ?_⟩
    intro count member
    have bounds := (tallied.numbered other window).2 count member
    omega
  · intro other name window expiring
    rw [decided, grown]
    simp only [enter_phase] at expiring ⊢
    by_cases same : other = call
    · rw [if_pos same] at expiring
      cases expiring
      refine ⟨by simp [undecided], by simp, ?_⟩
      intro third also
      by_contra apart
      rw [if_neg (same ▸ apart)] at also
      exact (tallied.pending third key bucket also).2.1 fresh
    · rw [if_neg same] at expiring
      obtain ⟨open', counted, alone⟩ := tallied.pending other name window expiring
      refine ⟨open', by omega, ?_⟩
      intro third also
      by_cases mine : third = call
      · rw [if_pos mine] at also
        cases also
        exact absurd fresh counted
      · rw [if_neg mine] at also
        exact alone third also
  · intro other name window count decision member
    have earlier : .decided other name window count decision ∈ past := by simpa using member
    exact tallied.judged other name window count decision earlier

theorem tallied_next (key : Str) (bucket count : Int) (counting : state.phase call = .counting key bucket)
    (alive : countedHits past key bucket ≠ 0 → find now state.database (redisKey key bucket) ≠ none)
    (counted : (incr now state.database (redisKey key bucket)).2 = count) (later : count ≠ 1) :
    Tallied limit windowSeconds
      (past ++ [.counted call key bucket,
        .decided call key bucket count (countDecision count limit ((bucket + 1) * windowSeconds))])
      { state.enter now call .finished with database := (incr now state.database (redisKey key bucket)).1 } := by
  have value := (counter_incr windowSeconds now state.database key bucket _ (tallied.counters key bucket) alive).1
  rw [counted] at value
  set decision := countDecision count limit ((bucket + 1) * windowSeconds)
  have grown (other : Str) (window : Int) :
      countedHits (past ++ [.counted call key bucket, .decided call key bucket count decision]) other window =
        countedHits past other window + if other = key ∧ window = bucket then 1 else 0 := by
    rw [counted_append, ← counted_single call]
    rfl
  have decided (other : Str) (window : Int) :
      decidedCounts (past ++ [.counted call key bucket, .decided call key bucket count decision]) other window =
        decidedCounts past other window ++ if other = key ∧ window = bucket then [count] else [] := by
    rw [decided_append, ← decided_single call key other bucket window count decision]
    rfl
  refine ⟨?_, ?_, ?_, ?_, ?_⟩
  · intro other window
    rw [grown]
    exact counters_grow limit windowSeconds past state now tallied key bucket alive other window
  · exact begun_enter limit windowSeconds past state now call tallied ordered _ key bucket counting (.inr rfl)
  · intro other window
    rw [decided, grown]
    have old := tallied.numbered other window
    by_cases same : other = key ∧ window = bucket
    · rw [if_pos same, if_pos same]
      obtain ⟨rfl, rfl⟩ := same
      have unused : count ∉ decidedCounts past other window := by
        intro member
        have bounds := old.2 count member
        omega
      exact numbered_snoc _ _ _ count old unused (by omega) (by omega)
    · rw [if_neg same, if_neg same, List.append_nil, Nat.add_zero]
      exact old
  · intro other name window expiring
    rw [decided, grown]
    obtain ⟨undecided, pending, alone⟩ := tallied.pending other name window
      (expiring_before state now call other name window expiring).2
    refine ⟨?_, by omega, fun third also => alone third (expiring_before state now call third name window also).2⟩
    intro member
    cases List.mem_append.mp member with
    | inl earlier => exact undecided earlier
    | inr own =>
        by_cases mine : name = key ∧ window = bucket
        · rw [if_pos mine] at own
          exact later (List.mem_singleton.mp own).symm
        · rw [if_neg mine] at own
          cases own
  · exact judged_snoc limit past _ call key bucket count ((bucket + 1) * windowSeconds) (by simp [decision])
      tallied.judged

theorem tallied_expire (key : Str) (bucket : Int) (expiring : state.phase call = .expiring key bucket) :
    Tallied limit windowSeconds
      (past ++ [.decided call key bucket 1 (countDecision 1 limit ((bucket + 1) * windowSeconds))])
      { state.enter now call .finished with
        database := expire now state.database (redisKey key bucket) windowSeconds } := by
  obtain ⟨undecided, counted, alone⟩ := tallied.pending call key bucket expiring
  have started := still_begun limit windowSeconds past state now tallied ordered call key bucket (.inr expiring)
  set decision := countDecision 1 limit ((bucket + 1) * windowSeconds)
  have grown (other : Str) (window : Int) :
      countedHits (past ++ [.decided call key bucket 1 decision]) other window = countedHits past other window := by
    simp [countedHits, HitEvent.counts]
  have decided (other : Str) (window : Int) :
      decidedCounts (past ++ [.decided call key bucket 1 decision]) other window =
        decidedCounts past other window ++ if other = key ∧ window = bucket then [1] else [] := by
    rw [decided_append, decided_single]
  refine ⟨?_, ?_, ?_, ?_, ?_⟩
  · intro other window
    rw [grown]
    by_cases same : other = key ∧ window = bucket
    · rw [same.1, same.2]
      exact counter_expire windowSeconds now state.database key bucket _ (tallied.counters key bucket) started
    · exact counter_other windowSeconds state.database _ key other bucket window _
        (fun name different => expire_other now state.database _ name windowSeconds different) same
        (tallied.counters other window)
  · intro other name window reached
    simp only [enter_phase, enter_clock] at reached ⊢
    by_cases same : other = call
    · simp [same] at reached
    · rw [if_neg same] at reached
      exact still_begun limit windowSeconds past state now tallied ordered other name window reached
  · intro other window
    rw [decided, grown]
    have old := tallied.numbered other window
    by_cases same : other = key ∧ window = bucket
    · rw [if_pos same]
      obtain ⟨rfl, rfl⟩ := same
      exact numbered_snoc _ _ _ 1 old undecided (Nat.le_refl _) (by omega)
    · rw [if_neg same, List.append_nil]
      exact old
  · intro other name window also
    rw [decided, grown]
    obtain ⟨different, earlier⟩ := expiring_before state now call other name window also
    have apart : ¬ (name = key ∧ window = bucket) := by
      rintro ⟨rfl, rfl⟩
      exact different (alone other earlier)
    obtain ⟨open', pending, single⟩ := tallied.pending other name window earlier
    rw [if_neg apart, List.append_nil]
    exact ⟨open', pending, fun third again => single third (expiring_before state now call third name window again).2⟩
  · exact judged_snoc limit past _ call key bucket 1 ((bucket + 1) * windowSeconds) (by simp [decision]) tallied.judged

end Preservation

theorem tallied_step (limit windowSeconds : Int) (positive : 0 < windowSeconds) (past : List HitEvent)
    (state : SharedState) (input : HitStep) (next : SharedState) (events : List HitEvent)
    (tallied : Tallied limit windowSeconds past state) (kept : CounterKept past state input)
    (stepped : hitStep limit windowSeconds state input = some (next, events)) :
    Tallied limit windowSeconds (past ++ events) next := by
  obtain ⟨ordered, did⟩ := hit_step_cases limit windowSeconds state next input events stepped
  obtain ⟨key, idle, rfl, rfl⟩ | ⟨key, bucket, action, counting, first, rfl, rfl⟩ |
    ⟨key, bucket, count, action, counting, counted, later, rfl, rfl⟩ | ⟨key, bucket, expiring, rfl, rfl⟩ |
    ⟨rfl, rfl⟩ := did
  · rw [List.append_nil]
    apply tallied_enter limit windowSeconds past state input.time input.call tallied ordered
    · intro other window absurd
      cases absurd
    · intro other window same
      cases same
      exact window_start input.time windowSeconds positive
  · exact tallied_first limit windowSeconds past state input.time input.call tallied ordered key bucket counting
      (kept key bucket action counting) first
  · exact tallied_next limit windowSeconds past state input.time input.call tallied ordered key bucket count counting
      (kept key bucket action counting) counted later
  · exact tallied_expire limit windowSeconds past state input.time input.call tallied ordered key bucket expiring
  · rw [List.append_nil]
    apply tallied_enter limit windowSeconds past state input.time input.call tallied ordered
    · intro other window absurd
      cases absurd
    · intro other window absurd
      cases absurd

theorem few_counts (limit : Int) (counts : List Int) (distinct : counts.Nodup) (positive : ∀ count ∈ counts, 1 ≤ count) :
    (counts.filter (fun count => count ≤ limit)).length ≤ limit.toNat := by
  have within : (counts.filter (fun count => count ≤ limit)).toFinset ⊆ Finset.Icc 1 limit := by
    intro count member
    have found : count ∈ counts ∧ count ≤ limit := by simpa using member
    exact Finset.mem_Icc.mpr ⟨positive count found.1, found.2⟩
  have size := Finset.card_le_card within
  rw [List.toFinset_card_of_nodup (distinct.filter _), Int.card_Icc] at size
  have width : limit + 1 - 1 = limit := by omega
  rwa [width] at size

theorem allowed_counts (limit : Int) (trace : List HitEvent) (key : Str) (bucket : Int)
    (judged : ∀ call key bucket count decision, .decided call key bucket count decision ∈ trace →
      decision.allowed = decide (count ≤ limit)) :
    allowedHits trace key bucket = ((decidedCounts trace key bucket).filter (fun count => count ≤ limit)).length := by
  rw [allowedHits, decidedCounts, List.filter_map, List.length_map, List.filter_filter]
  congr 1
  apply List.filter_congr
  intro event member
  cases event with
  | counted call other window => simp [HitEvent.allows, HitEvent.decides]
  | decided call other window count decision =>
      have verdict := judged call other window count decision member
      have split : HitEvent.allows key bucket (.decided call other window count decision) =
          (HitEvent.decides key bucket (.decided call other window count decision) && decide (count ≤ limit)) := by
        rw [← verdict]
        rfl
      rw [split]
      exact Bool.and_comm _ _

theorem tallied_limit (limit windowSeconds : Int) (trace : List HitEvent) (state : SharedState) (key : Str)
    (bucket : Int) (tallied : Tallied limit windowSeconds trace state) :
    allowedHits trace key bucket ≤ limit.toNat := by
  rw [allowed_counts limit trace key bucket tallied.judged]
  obtain ⟨distinct, bounds⟩ := tallied.numbered key bucket
  exact few_counts limit _ distinct (fun count member => (bounds count member).1)

theorem redis_limit_holds (limit windowSeconds : Int) (positive : 0 < windowSeconds) (inputs : List HitStep)
    (last : SharedState) (trace : List HitEvent)
    (kept : Respects (hitStep limit windowSeconds) CounterKept [] sharedStart inputs)
    (ran : exec (hitStep limit windowSeconds) sharedStart inputs = some (last, trace)) (key : Str) (bucket : Int) :
    allowedHits trace key bucket ≤ limit.toNat := by
  have tallied := respecting_invariant (hitStep limit windowSeconds) CounterKept (Tallied limit windowSeconds)
    (tallied_step limit windowSeconds positive) sharedStart last [] trace inputs (tallied_start limit windowSeconds)
    kept ran
  rw [List.nil_append] at tallied
  exact tallied_limit limit windowSeconds trace last key bucket tallied

theorem timely_limit_holds (limit windowSeconds : Int) (positive : 0 < windowSeconds) (inputs : List HitStep)
    (last : SharedState) (trace : List HitEvent)
    (timely : Respects (hitStep limit windowSeconds) (fun _ state input => ∀ key bucket, input.action = .incr →
      state.phase input.call = .counting key bucket →
        (input.time : Rat) < (((bucket + 1) * windowSeconds : Int) : Rat)) [] sharedStart inputs)
    (ran : exec (hitStep limit windowSeconds) sharedStart inputs = some (last, trace)) (key : Str) (bucket : Int) :
    allowedHits trace key bucket ≤ limit.toNat := by
  have preserved : ∀ past state input next events, Tallied limit windowSeconds past state →
      (∀ key bucket, input.action = .incr → state.phase input.call = .counting key bucket →
        (input.time : Rat) < (((bucket + 1) * windowSeconds : Int) : Rat)) →
      hitStep limit windowSeconds state input = some (next, events) →
      Tallied limit windowSeconds (past ++ events) next := by
    intro past state input next events tallied inWindow stepped
    apply tallied_step limit windowSeconds positive past state input next events tallied _ stepped
    intro other window action counting counted
    exact counter_alive windowSeconds input.time state.database other window _ (tallied.counters other window) counted
      (inWindow other window action counting)
  have tallied := respecting_invariant (hitStep limit windowSeconds) _ (Tallied limit windowSeconds) preserved
    sharedStart last [] trace inputs (tallied_start limit windowSeconds) timely ran
  rw [List.nil_append] at tallied
  exact tallied_limit limit windowSeconds trace last key bucket tallied

-- Two hits of the first minute; the INCR of the second one may reach Redis when
-- the counter of the first has run out.
def delayedHits (arrival : WallClock) : List HitStep :=
  [⟨0, 0, .begin ['a']⟩, ⟨0, 0, .incr⟩, ⟨0, 0, .expire⟩, ⟨(59 : Nat), 1, .begin ['a']⟩, ⟨arrival, 1, .incr⟩]

theorem redis_limit_holds_two :
    ∃ last trace, exec (hitStep 1 60) sharedStart (delayedHits 59) = some (last, trace) ∧
      allowedHits trace ['a'] 0 ≤ 1 := by
  have taken : (exec (hitStep 1 60) sharedStart (delayedHits 59)).isSome = true := by decide +kernel
  obtain ⟨⟨last, trace⟩, ran⟩ := Option.isSome_iff_exists.mp taken
  refine ⟨last, trace, ran, ?_⟩
  exact redis_limit_holds 1 60 (by decide) (delayedHits 59) last trace (by decide +kernel) ran ['a'] 0

theorem late_hit_allowed :
    ¬ ∀ (limit windowSeconds : Int) (inputs : List HitStep) (last : SharedState) (trace : List HitEvent) (key : Str)
      (bucket : Int), 0 < limit → 0 < windowSeconds →
      exec (hitStep limit windowSeconds) sharedStart inputs = some (last, trace) →
      allowedHits trace key bucket ≤ limit.toNat := by
  intro claim
  have allowed : (exec (hitStep 1 60) sharedStart (delayedHits 61 ++ [⟨61, 1, .expire⟩])).map
      (fun reached => allowedHits reached.2 ['a'] 0) = some 2 := by decide +kernel
  obtain ⟨⟨last, trace⟩, ran, two⟩ := Option.map_eq_some_iff.mp allowed
  have few := claim 1 60 _ last trace ['a'] 0 (by decide) (by decide) ran
  rw [two] at few
  exact absurd few (by decide)

end Chassis.RateLimit
