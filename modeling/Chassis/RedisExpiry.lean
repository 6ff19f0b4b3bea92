import Chassis.RedisInterleaving

set_option autoImplicit false

namespace Chassis.RateLimit

open Redis Text Transition

-- What a step does about the time to live of a key: its EXPIRE takes effect,
-- or the call that owes the EXPIRE is aborted and never makes it.
inductive ExpiryEvent where
  | limited (time : WallClock) (key : Str) (bucket : Int)
  | stranded (key : Str) (bucket : Int)

def expiryEvents (state : SharedState) (input : HitStep) : List ExpiryEvent :=
  match input.action, state.phase input.call with
  | .expire, .expiring key bucket => [.limited input.time key bucket]
  | .abort, .expiring key bucket => [.stranded key bucket]
  | _, _ => []

def observedStep (limit windowSeconds : Int) (state : SharedState) (input : HitStep) :
    Option (SharedState × List ExpiryEvent) :=
  (hitStep limit windowSeconds state input).map (fun stepped => (stepped.1, expiryEvents state input))

def existingKeys (now : WallClock) (state : SharedState) : Database Str Int :=
  state.database.filter (fun _ entry => ((now : Rat) : WithTop Rat) ≤ entry.2)

theorem existing_get (now : WallClock) (state : SharedState) (name : Str) :
    (existingKeys now state).get name = find now state.database name := by
  rw [existingKeys, Dict.get_filter, find]

def NoHitInProgress (state : SharedState) : Prop := ∀ call, state.phase call = .idle ∨ state.phase call = .finished

theorem observed_step_cases (limit windowSeconds : Int) (state next : SharedState) (input : HitStep)
    (events : List ExpiryEvent) (stepped : observedStep limit windowSeconds state input = some (next, events)) :
    (∃ phase, (∀ key bucket, state.phase input.call ≠ .expiring key bucket) ∧
        (∀ key bucket, phase ≠ HitPhase.expiring key bucket) ∧ events = [] ∧
        next = state.enter input.time input.call phase) ∨
      (∃ key bucket, state.phase input.call = .counting key bucket ∧ events = [] ∧
        (incr input.time state.database (redisKey key bucket)).2 = 1 ∧
        next = { state.enter input.time input.call (.expiring key bucket) with
          database := (incr input.time state.database (redisKey key bucket)).1 }) ∨
      (∃ key bucket, state.phase input.call = .counting key bucket ∧ events = [] ∧
        (incr input.time state.database (redisKey key bucket)).2 ≠ 1 ∧
        next = { state.enter input.time input.call .finished with
          database := (incr input.time state.database (redisKey key bucket)).1 }) ∨
      (∃ key bucket, state.phase input.call = .expiring key bucket ∧ events = [.limited input.time key bucket] ∧
        next = { state.enter input.time input.call .finished with
          database := expire input.time state.database (redisKey key bucket) windowSeconds }) ∨
      ∃ key bucket, state.phase input.call = .expiring key bucket ∧ events = [.stranded key bucket] ∧
        next = state.enter input.time input.call .finished := by
  obtain ⟨now, call, action⟩ := input
  obtain ⟨reached, taken, observed⟩ := Option.map_eq_some_iff.mp stepped
  cases observed
  by_cases early : now < state.clock
  · simp [hitStep, early] at taken
  · cases action with
    | begin key =>
        cases phase : state.phase call <;> simp [hitStep, early, phase] at taken
        exact .inl ⟨.counting key _, by simp, by simp, by simp [expiryEvents], by rw [← taken]⟩
    | incr =>
        cases phase : state.phase call <;> simp [hitStep, early, phase] at taken
        next key bucket =>
          by_cases first : (incr now state.database (redisKey key bucket)).2 = 1
          · rw [if_pos first] at taken
            exact .inr (.inl ⟨key, bucket, rfl, by simp [expiryEvents], first, by rw [← Option.some.inj taken]; rfl⟩)
          · rw [if_neg first] at taken
            exact .inr (.inr (.inl ⟨key, bucket, rfl, by simp [expiryEvents], first, by rw [← Option.some.inj taken]; rfl⟩))
    | expire =>
        cases phase : state.phase call <;> simp [hitStep, early, phase] at taken
        exact .inr (.inr (.inr (.inl ⟨_, _, rfl, by simp [expiryEvents, phase], by rw [← taken]; rfl⟩)))
    | abort =>
        cases phase : state.phase call <;> simp [hitStep, early, phase] at taken
        · exact .inl ⟨.finished, by simp, by simp, by simp [expiryEvents, phase], by rw [← taken]⟩
        · exact .inr (.inr (.inr (.inr ⟨_, _, rfl, by simp [expiryEvents, phase], by rw [← taken]⟩)))

theorem unlimited_alive (now : Rat) (database : Database Str Int) (name : Str) (count : Int)
    (held : database.get name = some (count, ⊤)) : find now database name = some (count, ⊤) :=
  (find_eq_some now database name _).mpr ⟨held, le_top⟩

theorem incr_one (now : Rat) (database : Database Str Int) (name : Str)
    (positive : ∀ count expiry, database.get name = some (count, expiry) → 1 ≤ count)
    (one : (incr now database name).2 = 1) :
    find now database name = none ∧ (incr now database name).1.get name = some (1, ⊤) := by
  cases found : find now database name with
  | none =>
      rw [incr_first now database name found]
      exact ⟨rfl, by rw [Dict.get_set, if_pos rfl]⟩
  | some entry =>
      have counted := positive entry.1 entry.2 ((find_eq_some now database name entry).mp found).1
      rw [incr_next now database name entry.1 entry.2 found] at one
      have zero : entry.1 + 1 = 1 := one
      omega

theorem incr_more (now : Rat) (database : Database Str Int) (name : Str) (more : (incr now database name).2 ≠ 1) :
    ∃ count expiry, database.get name = some (count, expiry) ∧
      (incr now database name).1.get name = some (count + 1, expiry) := by
  cases found : find now database name with
  | none =>
      rw [incr_first now database name found] at more
      exact absurd rfl more
  | some entry =>
      refine ⟨entry.1, entry.2, ((find_eq_some now database name entry).mp found).1, ?_⟩
      rw [incr_next now database name entry.1 entry.2 found, Dict.get_set, if_pos rfl]

structure OwedAt (windowSeconds : Int) (past : List ExpiryEvent) (state : SharedState) (key : Str) (bucket : Int) : Prop where
  positive : ∀ count expiry, state.database.get (redisKey key bucket) = some (count, expiry) → 1 ≤ count
  pending : ∀ call, state.phase call = .expiring key bucket →
    ∃ count, state.database.get (redisKey key bucket) = some (count, ⊤)
  alone : ∀ call other, state.phase call = .expiring key bucket → state.phase other = .expiring key bucket → call = other
  unlimited : ∀ count, state.database.get (redisKey key bucket) = some (count, ⊤) →
    (∃ call, state.phase call = .expiring key bucket) ∨ .stranded key bucket ∈ past
  stranded : .stranded key bucket ∈ past →
    (∃ count, state.database.get (redisKey key bucket) = some (count, ⊤)) ∧ ∀ call, state.phase call ≠ .expiring key bucket
  limited : ∀ count (expiry : Rat), state.database.get (redisKey key bucket) = some (count, (expiry : WithTop Rat)) →
    ∃ time : WallClock, .limited time key bucket ∈ past ∧ expiry = time + windowSeconds

structure Owed (windowSeconds : Int) (past : List ExpiryEvent) (state : SharedState) : Prop where
  named : ∀ name entry, state.database.get name = some entry → ∃ key bucket, name = redisKey key bucket
  each : ∀ key bucket, OwedAt windowSeconds past state key bucket

theorem owed_start (windowSeconds : Int) : Owed windowSeconds [] sharedStart where
  named := by simp [sharedStart, Dict.get, Dict.empty]
  each := by
    intro key bucket
    exact ⟨by simp [sharedStart, Dict.get, Dict.empty], by simp [sharedStart], by simp [sharedStart],
      by simp [sharedStart, Dict.get, Dict.empty], by simp, by simp [sharedStart, Dict.get, Dict.empty]⟩

theorem owed_at_frame (windowSeconds : Int) (past more : List ExpiryEvent) (state next : SharedState) (key : Str)
    (bucket : Int) (owed : OwedAt windowSeconds past state key bucket)
    (same : next.database.get (redisKey key bucket) = state.database.get (redisKey key bucket))
    (phases : ∀ call, next.phase call = .expiring key bucket ↔ state.phase call = .expiring key bucket)
    (quiet : .stranded key bucket ∉ more) : OwedAt windowSeconds (past ++ more) next key bucket where
  positive := by rw [same]; exact owed.positive
  pending := by
    intro call expiring
    rw [same]
    exact owed.pending call ((phases call).mp expiring)
  alone := fun call other one two => owed.alone call other ((phases call).mp one) ((phases other).mp two)
  unlimited := by
    intro count held
    rw [same] at held
    rcases owed.unlimited count held with ⟨call, expiring⟩ | lost
    · exact .inl ⟨call, (phases call).mpr expiring⟩
    · exact .inr (List.mem_append_left more lost)
  stranded := by
    intro member
    obtain ⟨held, free⟩ := owed.stranded ((List.mem_append.mp member).resolve_right quiet)
    rw [same]
    exact ⟨held, fun call expiring => free call ((phases call).mp expiring)⟩
  limited := by
    intro count expiry held
    rw [same] at held
    obtain ⟨time, member, due⟩ := owed.limited count expiry held
    exact ⟨time, List.mem_append_left more member, due⟩

theorem expiring_enter (state : SharedState) (now : WallClock) (call other : Nat) (phase : HitPhase) (key : Str)
    (bucket : Int) (before : state.phase call ≠ .expiring key bucket) (after : phase ≠ .expiring key bucket) :
    (state.enter now call phase).phase other = .expiring key bucket ↔ state.phase other = .expiring key bucket := by
  rw [enter_phase]
  by_cases own : other = call
  · rw [if_pos own, own]
    exact ⟨fun expiring => absurd expiring after, fun expiring => absurd expiring before⟩
  · rw [if_neg own]

theorem other_phases (state : SharedState) (now : WallClock) (call : Nat) (key : Str) (bucket : Int) (phase : HitPhase)
    (before : state.phase call = .counting key bucket ∨ state.phase call = .expiring key bucket)
    (after : phase = .expiring key bucket ∨ phase = .finished) (name : Str) (window : Int)
    (different : ¬ (name = key ∧ window = bucket)) (other : Nat) :
    (state.enter now call phase).phase other = .expiring name window ↔ state.phase other = .expiring name window := by
  apply expiring_enter
  · rcases before with counting | expiring
    · simp [counting]
    · rw [expiring]
      simp only [ne_eq, HitPhase.expiring.injEq]
      exact fun same => different ⟨same.1.symm, same.2.symm⟩
  · rcases after with rfl | rfl
    · simp only [ne_eq, HitPhase.expiring.injEq]
      exact fun same => different ⟨same.1.symm, same.2.symm⟩
    · simp

section Preservation

variable (windowSeconds : Int) (past : List ExpiryEvent) (state : SharedState) (now : WallClock) (call : Nat) (key : Str)
  (bucket : Int) (owed : Owed windowSeconds past state)

include owed

theorem owed_local (next : SharedState) (more : List ExpiryEvent)
    (others : ∀ name, name ≠ redisKey key bucket → next.database.get name = state.database.get name)
    (phases : ∀ name window, ¬ (name = key ∧ window = bucket) → ∀ other,
      next.phase other = .expiring name window ↔ state.phase other = .expiring name window)
    (events : ∀ name window, .stranded name window ∈ more → name = key ∧ window = bucket)
    (own : OwedAt windowSeconds (past ++ more) next key bucket) : Owed windowSeconds (past ++ more) next where
  named := by
    intro name entry held
    by_cases mine : name = redisKey key bucket
    · exact ⟨key, bucket, mine⟩
    · rw [others name mine] at held
      exact owed.named name entry held
  each := by
    intro name window
    by_cases mine : name = key ∧ window = bucket
    · rw [mine.1, mine.2]
      exact own
    · have apart : redisKey name window ≠ redisKey key bucket :=
        fun same => mine (redis_key_injective name key window bucket same)
      exact owed_at_frame windowSeconds past more state next name window (owed.each name window) (others _ apart)
        (phases name window mine) (fun member => mine (events name window member))

theorem owed_enter (phase : HitPhase) (free : ∀ key bucket, state.phase call ≠ .expiring key bucket)
    (calm : ∀ key bucket, phase ≠ .expiring key bucket) : Owed windowSeconds (past ++ []) (state.enter now call phase) where
  named := owed.named
  each := by
    intro name window
    refine owed_at_frame windowSeconds past [] state _ name window (owed.each name window) rfl ?_ (by simp)
    intro other
    exact expiring_enter state now call other phase name window (free name window) (calm name window)

theorem owed_first (counting : state.phase call = .counting key bucket)
    (one : (incr now state.database (redisKey key bucket)).2 = 1) :
    Owed windowSeconds (past ++ []) { state.enter now call (.expiring key bucket) with
      database := (incr now state.database (redisKey key bucket)).1 } := by
  have mine := owed.each key bucket
  obtain ⟨gone, fresh⟩ := incr_one now state.database _ mine.positive one
  have unheld (count : Int) : state.database.get (redisKey key bucket) ≠ some (count, ⊤) := by
    intro held
    rw [unlimited_alive now state.database _ count held] at gone
    cases gone
  have entered (other : Nat) (expiring : (state.enter now call (.expiring key bucket)).phase other = .expiring key bucket) :
      other = call := by
    rw [enter_phase] at expiring
    by_contra apart
    rw [if_neg apart] at expiring
    obtain ⟨count, held⟩ := mine.pending other expiring
    exact unheld count held
  apply owed_local windowSeconds past state key bucket owed
  · exact fun name different => incr_other now state.database _ name different
  · exact other_phases state now call key bucket _ (.inl counting) (.inl rfl)
  · simp
  · refine ⟨?_, ?_, ?_, ?_, ?_, ?_⟩
    · intro count expiry held
      rw [fresh] at held
      cases held
      exact le_refl _
    · exact fun _ _ => ⟨1, fresh⟩
    · exact fun first second one two => (entered first one).trans (entered second two).symm
    · exact fun _ _ => .inl ⟨call, by simp⟩
    · intro member
      obtain ⟨⟨count, held⟩, _⟩ := mine.stranded (by simpa using member)
      exact absurd held (unheld count)
    · intro count expiry held
      rw [fresh] at held
      cases held

theorem owed_more (counting : state.phase call = .counting key bucket)
    (more : (incr now state.database (redisKey key bucket)).2 ≠ 1) :
    Owed windowSeconds (past ++ []) { state.enter now call .finished with
      database := (incr now state.database (redisKey key bucket)).1 } := by
  have mine := owed.each key bucket
  obtain ⟨count, expiry, held, grown⟩ := incr_more now state.database _ more
  have counted := mine.positive count expiry held
  have phases (other : Nat) : (state.enter now call .finished).phase other = .expiring key bucket ↔
      state.phase other = .expiring key bucket :=
    expiring_enter state now call other .finished key bucket (by simp [counting]) (by simp)
  have unlimited (value : Int) (same : some (count, expiry) = some (value, ⊤)) :
      state.database.get (redisKey key bucket) = some (count, ⊤) := by
    rw [held, (Prod.mk.inj (Option.some.inj same)).2]
  apply owed_local windowSeconds past state key bucket owed
  · exact fun name different => incr_other now state.database _ name different
  · exact other_phases state now call key bucket _ (.inl counting) (.inr rfl)
  · simp
  · refine ⟨?_, ?_, ?_, ?_, ?_, ?_⟩
    · intro value lasting now
      rw [grown] at now
      cases now
      omega
    · intro other expiring
      obtain ⟨value, before⟩ := mine.pending other ((phases other).mp expiring)
      have same := unlimited value (held.symm.trans before)
      rw [held] at same
      cases same
      exact ⟨count + 1, grown⟩
    · exact fun first second one two => mine.alone first second ((phases first).mp one) ((phases second).mp two)
    · intro value now
      rw [grown] at now
      cases now
      rcases mine.unlimited count held with ⟨other, expiring⟩ | lost
      · exact .inl ⟨other, (phases other).mpr expiring⟩
      · exact .inr (by simpa using lost)
    · intro member
      obtain ⟨⟨value, before⟩, free⟩ := mine.stranded (by simpa using member)
      have same := unlimited value (held.symm.trans before)
      rw [held] at same
      cases same
      exact ⟨⟨count + 1, grown⟩, fun other expiring => free other ((phases other).mp expiring)⟩
    · intro value lasting now
      rw [grown] at now
      cases now
      simpa using mine.limited count lasting held

theorem owed_expire (expiring : state.phase call = .expiring key bucket) :
    Owed windowSeconds (past ++ [.limited now key bucket]) { state.enter now call .finished with
      database := expire now state.database (redisKey key bucket) windowSeconds } := by
  have mine := owed.each key bucket
  obtain ⟨count, held⟩ := mine.pending call expiring
  have counted := mine.positive count ⊤ held
  have set : (expire now state.database (redisKey key bucket) windowSeconds).get (redisKey key bucket) =
      some (count, ((now + windowSeconds : Rat) : WithTop Rat)) := by
    rw [expire_found now state.database _ windowSeconds count ⊤ (unlimited_alive now state.database _ count held), setex,
      Dict.get_set, if_pos rfl]
  have none (other : Nat) : (state.enter now call .finished).phase other ≠ .expiring key bucket := by
    intro still
    obtain ⟨different, before⟩ := expiring_before state now call other key bucket still
    exact different (mine.alone other call before expiring)
  apply owed_local windowSeconds past state key bucket owed
  · exact fun name different => expire_other now state.database _ name windowSeconds different
  · exact other_phases state now call key bucket _ (.inr expiring) (.inr rfl)
  · simp
  · refine ⟨?_, ?_, ?_, ?_, ?_, ?_⟩
    · intro value lasting now
      rw [set] at now
      cases now
      exact counted
    · exact fun other still => absurd still (none other)
    · exact fun first _ one _ => absurd one (none first)
    · intro value now
      rw [set] at now
      cases now
    · intro member
      exact absurd expiring ((mine.stranded (by simpa using member)).2 call)
    · intro value lasting later
      rw [set] at later
      have due := WithTop.coe_injective (Prod.mk.inj (Option.some.inj later)).2
      exact ⟨now, by simp, due.symm⟩

theorem owed_stranded (expiring : state.phase call = .expiring key bucket) :
    Owed windowSeconds (past ++ [.stranded key bucket]) (state.enter now call .finished) := by
  have mine := owed.each key bucket
  have held := mine.pending call expiring
  have none (other : Nat) : (state.enter now call .finished).phase other ≠ .expiring key bucket := by
    intro still
    obtain ⟨different, before⟩ := expiring_before state now call other key bucket still
    exact different (mine.alone other call before expiring)
  apply owed_local windowSeconds past state key bucket owed
  · exact fun _ _ => rfl
  · exact other_phases state now call key bucket _ (.inr expiring) (.inr rfl)
  · simp
  · refine ⟨mine.positive, fun _ _ => held, fun first _ one _ => absurd one (none first), ?_, fun _ => ⟨held, none⟩, ?_⟩
    · exact fun _ _ => .inr (by simp)
    · intro value lasting later
      obtain ⟨time, member, due⟩ := mine.limited value lasting later
      exact ⟨time, List.mem_append_left _ member, due⟩

end Preservation

theorem owed_step (limit windowSeconds : Int) (past : List ExpiryEvent) (state : SharedState) (input : HitStep)
    (next : SharedState) (events : List ExpiryEvent) (owed : Owed windowSeconds past state)
    (stepped : observedStep limit windowSeconds state input = some (next, events)) :
    Owed windowSeconds (past ++ events) next := by
  obtain ⟨phase, free, calm, rfl, rfl⟩ | ⟨key, bucket, counting, rfl, one, rfl⟩ |
    ⟨key, bucket, counting, rfl, more, rfl⟩ | ⟨key, bucket, expiring, rfl, rfl⟩ | ⟨key, bucket, expiring, rfl, rfl⟩ :=
    observed_step_cases limit windowSeconds state next input events stepped
  · exact owed_enter windowSeconds past state input.time input.call owed phase free calm
  · exact owed_first windowSeconds past state input.time input.call key bucket owed counting one
  · exact owed_more windowSeconds past state input.time input.call key bucket owed counting more
  · exact owed_expire windowSeconds past state input.time input.call key bucket owed expiring
  · exact owed_stranded windowSeconds past state input.time input.call key bucket owed expiring

def recentNames (windowSeconds : Int) (trace : List ExpiryEvent) (now : WallClock) : List Str :=
  (trace.filterMap (fun event =>
    match event with
    | .limited time key bucket => if (now : Rat) ≤ time + windowSeconds then some (redisKey key bucket) else none
    | .stranded _ _ => none)).dedup

theorem mem_recent_names (windowSeconds : Int) (trace : List ExpiryEvent) (now time : WallClock) (key : Str) (bucket : Int)
    (member : .limited time key bucket ∈ trace) (recent : (now : Rat) ≤ time + windowSeconds) :
    redisKey key bucket ∈ recentNames windowSeconds trace now := by
  rw [recentNames, List.mem_dedup, List.mem_filterMap]
  exact ⟨_, member, by simp only [if_pos recent]⟩

section Quiet

variable (windowSeconds : Int) (trace : List ExpiryEvent) (state : SharedState) (now : WallClock)
  (owed : Owed windowSeconds trace state)

include owed

theorem unlimited_stranded (quiet : NoHitInProgress state) (name : Str) (entry : Int × WithTop Rat)
    (found : (existingKeys now state).get name = some entry) (endless : entry.2 = ⊤) :
    ∃ key bucket, name = redisKey key bucket ∧ .stranded key bucket ∈ trace := by
  rw [existing_get] at found
  obtain ⟨held, _⟩ := (find_eq_some now state.database name entry).mp found
  obtain ⟨key, bucket, rfl⟩ := owed.named name entry held
  have unlimited : state.database.get (redisKey key bucket) = some (entry.1, ⊤) := by rw [held, ← endless]
  rcases (owed.each key bucket).unlimited entry.1 unlimited with ⟨call, expiring⟩ | lost
  · rcases quiet call with idle | finished
    · rw [idle] at expiring
      cases expiring
    · rw [finished] at expiring
      cases expiring
  · exact ⟨key, bucket, rfl, lost⟩

theorem few_live_keys (limited : ∀ name entry, (existingKeys now state).get name = some entry → entry.2 ≠ ⊤) :
    (existingKeys now state).size ≤ (recentNames windowSeconds trace now).length := by
  have within : (existingKeys now state).keys ⊆ recentNames windowSeconds trace now := by
    intro name member
    obtain ⟨entry, found⟩ := (Dict.mem_keys _ name).mp member
    obtain ⟨expiry, due⟩ := WithTop.ne_top_iff_exists.mp (limited name entry found)
    rw [existing_get] at found
    obtain ⟨held, alive⟩ := (find_eq_some now state.database name entry).mp found
    obtain ⟨key, bucket, rfl⟩ := owed.named name entry held
    have stored : state.database.get (redisKey key bucket) = some (entry.1, (expiry : WithTop Rat)) := by rw [held, due]
    obtain ⟨time, given, same⟩ := (owed.each key bucket).limited entry.1 expiry stored
    rw [← due, WithTop.coe_le_coe, same] at alive
    exact mem_recent_names windowSeconds trace now time key bucket given alive
  have distinct : (existingKeys now state).keys.Nodup := Dict.distinct _
  have length := (distinct.subperm within).length_le
  rwa [Dict.keys, List.length_map] at length

end Quiet

theorem redis_keys_expire_iff (limit windowSeconds : Int) (inputs : List HitStep) (last : SharedState)
    (trace : List ExpiryEvent) (ran : exec (observedStep limit windowSeconds) sharedStart inputs = some (last, trace))
    (quiet : NoHitInProgress last) (now : WallClock) :
    ((∀ name entry, (existingKeys now last).get name = some entry → entry.2 ≠ ⊤) ∧
        (existingKeys now last).size ≤ (recentNames windowSeconds trace now).length) ↔
      ∀ key bucket, .stranded key bucket ∉ trace := by
  have owed := exec_invariant (observedStep limit windowSeconds) (Owed windowSeconds) (owed_step limit windowSeconds)
    sharedStart last [] trace inputs (owed_start windowSeconds) ran
  rw [List.nil_append] at owed
  constructor
  · rintro ⟨limited, _⟩ key bucket lost
    obtain ⟨⟨count, held⟩, _⟩ := (owed.each key bucket).stranded lost
    exact limited _ _ ((existing_get now last _).trans (unlimited_alive now last.database _ count held)) rfl
  · intro none
    have limited : ∀ name entry, (existingKeys now last).get name = some entry → entry.2 ≠ ⊤ := by
      intro name entry found endless
      obtain ⟨key, bucket, _, lost⟩ := unlimited_stranded windowSeconds trace last now owed quiet name entry found endless
      exact none key bucket lost
    exact ⟨limited, few_live_keys windowSeconds trace last now owed limited⟩

def cancelledHit : List HitStep := [⟨0, 0, .begin ['a']⟩, ⟨0, 0, .incr⟩, ⟨0, 0, .abort⟩]

theorem cancelled_ran : ∃ last, exec (observedStep 5 60) sharedStart cancelledHit = some (last, [.stranded ['a'] 0]) ∧
    NoHitInProgress last := by
  refine ⟨_, rfl, ?_⟩
  intro call
  by_cases own : call = 0
  · simp [own]
  · simp [own, sharedStart]

theorem redis_keys_expire_iff_cancelled :
    ∃ last : SharedState, ((∀ name entry, (existingKeys 3600 last).get name = some entry → entry.2 ≠ ⊤) ∧
        (existingKeys 3600 last).size ≤
          (recentNames 60 [.stranded ['a'] 0] 3600).length) ↔
      ∀ key bucket, ExpiryEvent.stranded key bucket ∉ [ExpiryEvent.stranded ['a'] 0] := by
  obtain ⟨last, ran, quiet⟩ := cancelled_ran
  exact ⟨last, redis_keys_expire_iff 5 60 cancelledHit last _ ran quiet 3600⟩

theorem cancelled_key_never_expires :
    ¬ ∀ (limit windowSeconds : Int) (inputs : List HitStep) (last : SharedState) (trace : List ExpiryEvent)
      (now : WallClock), 1 ≤ limit → 1 ≤ windowSeconds →
      exec (observedStep limit windowSeconds) sharedStart inputs = some (last, trace) → NoHitInProgress last →
      ∀ name entry, (existingKeys now last).get name = some entry → entry.2 ≠ ⊤ := by
  intro claim
  obtain ⟨last, ran, quiet⟩ := cancelled_ran
  have owed := exec_invariant (observedStep 5 60) (Owed 60) (owed_step 5 60) sharedStart last [] _ cancelledHit
    (owed_start 60) ran
  obtain ⟨⟨count, held⟩, _⟩ := (owed.each ['a'] 0).stranded (by simp)
  exact claim 5 60 cancelledHit last _ 3600 (by decide) (by decide) ran quiet _ _
    ((existing_get 3600 last _).trans (unlimited_alive _ last.database _ count held)) rfl

end Chassis.RateLimit
