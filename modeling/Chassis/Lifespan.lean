import Chassis.Asgi

set_option autoImplicit false

namespace Chassis.Lifespan

open Asgi

inductive ResourceKind where
  | dbEngine
  | httpClient
  | cacheStore
deriving DecidableEq

structure Resource where
  kind : ResourceKind
  id : Nat
deriving DecidableEq

-- What app.state holds from this cycle or an earlier one, with every resource
-- created so far and every call that releases one.
structure World where
  dbEngine : Option Resource := none
  httpClient : Option Resource := none
  cacheStore : Option Resource := none
  fresh : Nat := 0
  created : List Resource := []
  released : List Resource := []

structure Settings where
  authRequireWarmup : Bool
  cacheEnabled : Bool

-- What each step of one cycle raises, if anything.
structure Plan where
  createDatabaseEngine : Option Raised := none
  createSessionFactory : Option Raised := none
  instrumentDatabaseEngine : Option Raised := none
  asyncClient : Option Raised := none
  jwtAuthService : Option Raised := none
  warmUp : Option Raised := none
  createCacheStore : Option Raised := none
  ping : Option Raised := none
  serving : Option Raised := none
  close : Option Raised := none
  aclose : Option Raised := none
  dispose : Option Raised := none

abbrev Life := ExceptT Raised (StateM World)

def attempt (outcome : Option Raised) : Life Unit :=
  match outcome with
  | none => pure ()
  | some error => throw error

def acquired (kind : ResourceKind) (world : World) : World :=
  let resource := ⟨kind, world.fresh⟩
  let counted := { world with fresh := world.fresh + 1, created := world.created ++ [resource] }
  match kind with
  | .dbEngine => { counted with dbEngine := some resource }
  | .httpClient => { counted with httpClient := some resource }
  | .cacheStore => { counted with cacheStore := some resource }

-- An attribute of app.state is set to what the constructor returns.
def create (kind : ResourceKind) (outcome : Option Raised) : Life Unit := do
  attempt outcome
  modify (acquired kind)

-- A call that raises has been made all the same.
def release (slot : World → Option Resource) (outcome : Option Raised) : Life Unit := do
  match slot (← get) with
  | none => throw (.other "AttributeError".toList)
  | some resource =>
      modify (fun world => { world with released := world.released ++ [resource] })
      attempt outcome

-- except Exception: a cancellation passes through.
def tolerate (tolerated : Bool) (outcome : Option Raised) : Life Unit :=
  tryCatch (attempt outcome) (fun error => if tolerated && error ≠ .cancelled then pure () else throw error)

def startup (settings : Settings) (plan : Plan) : Life Unit := do
  create .dbEngine plan.createDatabaseEngine
  attempt plan.createSessionFactory
  attempt plan.instrumentDatabaseEngine
  create .httpClient plan.asyncClient
  attempt plan.jwtAuthService
  tolerate (!settings.authRequireWarmup) plan.warmUp
  if settings.cacheEnabled then
    create .cacheStore plan.createCacheStore
    tolerate true plan.ping

def closeCacheStore (plan : Plan) : Life Unit := do
  if (← get).cacheStore.isSome then
    release World.cacheStore plan.close

def shutdown (plan : Plan) : Life Unit := do
  closeCacheStore plan
  release World.httpClient plan.aclose
  release World.dbEngine plan.dispose

def lifespan (settings : Settings) (plan : Plan) : Life Unit := do
  startup settings plan
  try
    attempt plan.serving
  finally
    shutdown plan

theorem bind_apply {α β : Type} (first : Life α) (next : α → Life β) (world : World) :
    (first >>= next) world = match first world with
      | (.ok value, reached) => next value reached
      | (.error error, reached) => (.error error, reached) := by
  show ExceptT.bind first next world = _
  simp only [ExceptT.bind, ExceptT.mk, bind, StateT.bind, ExceptT.bindCont]
  cases first world with
  | mk result reached => cases result <;> rfl

theorem finally_state (body cleanup : Life Unit) (world : World) :
    (tryFinally body cleanup world).2 = (cleanup (body world).2).2 := by
  simp only [tryFinally, tryFinally', ExceptT.mk, bind, StateT.bind, Functor.map, ExceptT.map]
  cases body world with
  | mk result reached =>
      cases result with
      | error error =>
          cases cleaned : cleanup reached with
          | mk outcome final =>
              simp only [cleaned]
              cases outcome <;> rfl
      | ok value =>
          cases cleaned : cleanup reached with
          | mk outcome final =>
              simp only [cleaned]
              cases outcome <;> rfl

@[simp] theorem attempt_none (world : World) : attempt none world = (.ok (), world) := rfl

@[simp] theorem attempt_some (error : Raised) (world : World) : attempt (some error) world = (.error error, world) := rfl

@[simp] theorem create_none (kind : ResourceKind) (world : World) :
    create kind none world = (.ok (), acquired kind world) := rfl

@[simp] theorem create_some (kind : ResourceKind) (error : Raised) (world : World) :
    create kind (some error) world = (.error error, world) := rfl

def Passes (tolerated : Bool) (outcome : Option Raised) : Prop :=
  outcome = none ∨ tolerated = true ∧ outcome ≠ some .cancelled

theorem tolerate_apply (tolerated : Bool) (outcome : Option Raised) (world : World) :
    (Passes tolerated outcome ∧ tolerate tolerated outcome world = (.ok (), world)) ∨
      (¬ Passes tolerated outcome ∧ ∃ error, tolerate tolerated outcome world = (.error error, world)) := by
  cases outcome with
  | none => exact .inl ⟨.inl rfl, rfl⟩
  | some error =>
      have caught : tolerate tolerated (some error) world =
          (if tolerated && error ≠ .cancelled then pure () else throw error : Life Unit) world := rfl
      rw [caught]
      by_cases passing : tolerated = true ∧ error ≠ .cancelled
      · refine .inl ⟨.inr ⟨passing.1, by simpa using passing.2⟩, ?_⟩
        simp [passing]
        rfl
      · refine .inr ⟨by simpa [Passes] using passing, error, ?_⟩
        have blocked : (tolerated && decide (error ≠ .cancelled)) = false := by simpa using passing
        rw [blocked]
        rfl

def Started (settings : Settings) (plan : Plan) : Prop :=
  plan.createDatabaseEngine = none ∧ plan.createSessionFactory = none ∧ plan.instrumentDatabaseEngine = none ∧
    plan.asyncClient = none ∧ plan.jwtAuthService = none ∧ Passes (!settings.authRequireWarmup) plan.warmUp ∧
    (settings.cacheEnabled = true → plan.createCacheStore = none ∧ Passes true plan.ping)

def opened (settings : Settings) (world : World) : World :=
  let connected := acquired .httpClient (acquired .dbEngine world)
  if settings.cacheEnabled then acquired .cacheStore connected else connected

theorem startup_started (settings : Settings) (plan : Plan) (world : World) (started : Started settings plan) :
    startup settings plan world = (.ok (), opened settings world) := by
  obtain ⟨engine, factory, instrument, client, service, warm, cache⟩ := started
  have warmed (reached : World) : tolerate (!settings.authRequireWarmup) plan.warmUp reached = (.ok (), reached) := by
    rcases tolerate_apply (!settings.authRequireWarmup) plan.warmUp reached with ⟨_, passed⟩ | ⟨blocked, _⟩
    · exact passed
    · exact absurd warm blocked
  simp only [startup, bind_apply, engine, factory, instrument, client, service, create_none, attempt_none, warmed]
  by_cases enabled : settings.cacheEnabled = true
  · obtain ⟨store, ping⟩ := cache enabled
    have pinged (reached : World) : tolerate true plan.ping reached = (.ok (), reached) := by
      rcases tolerate_apply true plan.ping reached with ⟨_, passed⟩ | ⟨blocked, _⟩
      · exact passed
      · exact absurd ping blocked
    simp [enabled, bind_apply, store, pinged, opened]
  · simp [enabled, opened]
    rfl

def Aborted (settings : Settings) (plan : Plan) (world reached : World) : Prop :=
  (plan.createDatabaseEngine ≠ none ∧ reached = world) ∨
    (plan.createDatabaseEngine = none ∧
      (reached = acquired .dbEngine world ∨ reached = acquired .httpClient (acquired .dbEngine world) ∨
        settings.cacheEnabled = true ∧ reached = opened settings world))

theorem startup_aborted (settings : Settings) (plan : Plan) (world : World) (failed : ¬ Started settings plan) :
    ∃ error reached, startup settings plan world = (.error error, reached) ∧ Aborted settings plan world reached := by
  simp only [startup, bind_apply]
  cases engine : plan.createDatabaseEngine with
  | some error => exact ⟨error, world, rfl, .inl ⟨by simp [engine], rfl⟩⟩
  | none =>
  simp only [create_none]
  cases factory : plan.createSessionFactory with
  | some error => exact ⟨error, _, rfl, .inr ⟨engine, .inl rfl⟩⟩
  | none =>
  simp only [attempt_none]
  cases instrument : plan.instrumentDatabaseEngine with
  | some error => exact ⟨error, _, rfl, .inr ⟨engine, .inl rfl⟩⟩
  | none =>
  simp only [attempt_none]
  cases client : plan.asyncClient with
  | some error => exact ⟨error, _, rfl, .inr ⟨engine, .inl rfl⟩⟩
  | none =>
  simp only [create_none]
  cases service : plan.jwtAuthService with
  | some error => exact ⟨error, _, rfl, .inr ⟨engine, .inr (.inl rfl)⟩⟩
  | none =>
  simp only [attempt_none]
  rcases tolerate_apply (!settings.authRequireWarmup) plan.warmUp (acquired .httpClient (acquired .dbEngine world)) with
    ⟨warm, passed⟩ | ⟨_, error, raised⟩
  · rw [passed]
    by_cases enabled : settings.cacheEnabled = true
    · simp only [enabled, if_true, bind_apply]
      cases store : plan.createCacheStore with
      | some error => exact ⟨error, _, rfl, .inr ⟨engine, .inr (.inl rfl)⟩⟩
      | none =>
      simp only [create_none]
      have reached : acquired .cacheStore (acquired .httpClient (acquired .dbEngine world)) = opened settings world := by
        simp [opened, enabled]
      rw [reached]
      rcases tolerate_apply true plan.ping (opened settings world) with ⟨ping, _⟩ | ⟨_, error, raised⟩
      · exact absurd ⟨engine, factory, instrument, client, service, warm, fun _ => ⟨store, ping⟩⟩ failed
      · exact ⟨error, _, raised, .inr ⟨engine, .inr (.inr ⟨enabled, rfl⟩)⟩⟩
    · exact absurd ⟨engine, factory, instrument, client, service, warm, fun on => absurd on enabled⟩ failed
  · rw [raised]
    exact ⟨error, _, rfl, .inr ⟨engine, .inr (.inl rfl)⟩⟩

def freed (settings : Settings) (plan : Plan) (fresh : Nat) : List Resource :=
  let rest : List Resource :=
    ⟨.httpClient, fresh + 1⟩ :: if plan.aclose = none then [⟨.dbEngine, fresh⟩] else []
  if settings.cacheEnabled then ⟨.cacheStore, fresh + 2⟩ :: if plan.close = none then rest else [] else rest

theorem release_found (slot : World → Option Resource) (outcome : Option Raised) (world : World) (resource : Resource)
    (found : slot world = some resource) :
    release slot outcome world = attempt outcome { world with released := world.released ++ [resource] } := by
  simp only [release, bind_apply]
  have read : (get : Life World) world = (.ok world, world) := rfl
  rw [read]
  simp only [found]
  rfl

theorem release_state (outcome : Option Raised) (world : World) : (attempt outcome world).2 = world := by
  cases outcome <;> rfl

theorem close_cache_store (plan : Plan) (world : World) :
    closeCacheStore plan world =
      if world.cacheStore.isSome then release World.cacheStore plan.close world else (.ok (), world) := by
  simp only [closeCacheStore, bind_apply]
  have read : (get : Life World) world = (.ok world, world) := rfl
  rw [read]
  simp only
  split <;> rfl

theorem shutdown_tail (plan : Plan) (world : World) (client engine : Resource)
    (clientHeld : world.httpClient = some client) (engineHeld : world.dbEngine = some engine) :
    ((release World.httpClient plan.aclose >>= fun _ => release World.dbEngine plan.dispose) world).2 =
      { world with
        released := world.released ++ client :: if plan.aclose = none then [engine] else [] } := by
  rw [bind_apply, release_found _ _ world client clientHeld]
  cases aclose : plan.aclose with
  | some error => simp
  | none =>
      simp only [attempt_none]
      rw [release_found _ _ { world with released := world.released ++ [client] } engine engineHeld, release_state]
      simp

theorem shutdown_state (settings : Settings) (plan : Plan) (world : World)
    (uncached : settings.cacheEnabled = false → world.cacheStore = none) :
    (shutdown plan (opened settings world)).2 =
      { opened settings world with released := world.released ++ freed settings plan world.fresh } := by
  rw [shutdown, bind_apply, close_cache_store]
  cases enabled : settings.cacheEnabled with
  | true =>
      have store : (opened settings world).cacheStore = some ⟨.cacheStore, world.fresh + 2⟩ := by
        simp [opened, enabled, acquired]
      rw [store, Option.isSome_some, if_pos rfl, release_found _ _ _ _ store]
      cases close : plan.close with
      | some error => simp [freed, enabled, close, opened, acquired]
      | none =>
          simp only [attempt_none]
          rw [shutdown_tail plan _ ⟨.httpClient, world.fresh + 1⟩ ⟨.dbEngine, world.fresh⟩
            (by simp [opened, enabled, acquired]) (by simp [opened, enabled, acquired])]
          simp [freed, enabled, close, opened, acquired]
  | false =>
      have store : (opened settings world).cacheStore = none := by
        simpa [opened, enabled, acquired] using uncached enabled
      rw [store, Option.isSome_none]
      simp only [Bool.false_eq_true, if_false]
      rw [shutdown_tail plan _ ⟨.httpClient, world.fresh + 1⟩ ⟨.dbEngine, world.fresh⟩
        (by simp [opened, enabled, acquired]) (by simp [opened, enabled, acquired])]
      simp [freed, enabled, opened, acquired]

def cycle (settings : Settings) (world : World) (plan : Plan) : World := (lifespan settings plan world).2

theorem cycle_started (settings : Settings) (plan : Plan) (world : World)
    (uncached : settings.cacheEnabled = false → world.cacheStore = none) (started : Started settings plan) :
    cycle settings world plan =
      { opened settings world with released := world.released ++ freed settings plan world.fresh } := by
  rw [cycle, lifespan, bind_apply, startup_started settings plan world started]
  simp only
  rw [finally_state, release_state]
  exact shutdown_state settings plan world uncached

theorem cycle_aborted (settings : Settings) (plan : Plan) (world : World) (failed : ¬ Started settings plan) :
    Aborted settings plan world (cycle settings world plan) := by
  obtain ⟨error, reached, ran, aborted⟩ := startup_aborted settings plan world failed
  rw [cycle, lifespan, bind_apply, ran]
  exact aborted

structure Numbered (settings : Settings) (world : World) : Prop where
  created : ∀ resource ∈ world.created, resource.id < world.fresh
  released : ∀ resource ∈ world.released, resource.id < world.fresh
  uncached : settings.cacheEnabled = false → world.cacheStore = none

theorem numbered_acquired (settings : Settings) (kind : ResourceKind) (world : World) (numbered : Numbered settings world)
    (allowed : settings.cacheEnabled = true ∨ kind ≠ .cacheStore) : Numbered settings (acquired kind world) := by
  have created : (acquired kind world).created = world.created ++ [⟨kind, world.fresh⟩] := by cases kind <;> rfl
  have released : (acquired kind world).released = world.released := by cases kind <;> rfl
  have fresh : (acquired kind world).fresh = world.fresh + 1 := by cases kind <;> rfl
  refine ⟨?_, ?_, ?_⟩
  · intro resource member
    rw [created] at member
    rw [fresh]
    cases List.mem_append.mp member with
    | inl earlier => exact Nat.lt_succ_of_lt (numbered.created resource earlier)
    | inr own =>
        rw [List.mem_singleton.mp own]
        exact Nat.lt_succ_self _
  · intro resource member
    rw [released] at member
    rw [fresh]
    exact Nat.lt_succ_of_lt (numbered.released resource member)
  · intro disabled
    cases kind with
    | dbEngine => exact numbered.uncached disabled
    | httpClient => exact numbered.uncached disabled
    | cacheStore => simp [disabled] at allowed

theorem numbered_opened (settings : Settings) (world : World) (numbered : Numbered settings world) :
    Numbered settings (opened settings world) := by
  have connected := numbered_acquired settings .httpClient _
    (numbered_acquired settings .dbEngine world numbered (.inr (by decide))) (.inr (by decide))
  cases enabled : settings.cacheEnabled with
  | true =>
      rw [opened, enabled]
      exact numbered_acquired settings .cacheStore _ connected (.inl enabled)
  | false =>
      rw [opened, enabled]
      exact connected

def made (settings : Settings) (fresh : Nat) : List Resource :=
  [⟨.dbEngine, fresh⟩, ⟨.httpClient, fresh + 1⟩] ++ if settings.cacheEnabled then [⟨.cacheStore, fresh + 2⟩] else []

theorem opened_created (settings : Settings) (world : World) :
    (opened settings world).created = world.created ++ made settings world.fresh := by
  cases enabled : settings.cacheEnabled <;> simp [opened, made, enabled, acquired]

theorem opened_fresh (settings : Settings) (world : World) : world.fresh + 2 ≤ (opened settings world).fresh := by
  cases enabled : settings.cacheEnabled <;> simp [opened, enabled, acquired]

theorem made_ids (settings : Settings) (world : World) :
    ∀ resource ∈ made settings world.fresh,
      world.fresh ≤ resource.id ∧ resource.id < (opened settings world).fresh := by
  cases enabled : settings.cacheEnabled <;> simp [made, opened, acquired, enabled] <;> omega

theorem freed_made (settings : Settings) (plan : Plan) (fresh : Nat) :
    ∀ resource ∈ freed settings plan fresh, resource ∈ made settings fresh := by
  cases enabled : settings.cacheEnabled <;> cases close : plan.close <;> cases aclose : plan.aclose <;>
    simp [freed, made, enabled, close, aclose]

theorem made_freed_iff (settings : Settings) (plan : Plan) (fresh : Nat) :
    (∀ resource ∈ made settings fresh, (freed settings plan fresh).count resource = 1) ↔
      (settings.cacheEnabled = true → plan.close = none) ∧ plan.aclose = none := by
  cases enabled : settings.cacheEnabled <;> cases close : plan.close <;> cases aclose : plan.aclose <;>
    simp [made, freed, enabled, close, aclose, List.count_cons]

theorem numbered_cycle (settings : Settings) (plan : Plan) (world : World) (numbered : Numbered settings world) :
    Numbered settings (cycle settings world plan) := by
  by_cases started : Started settings plan
  · rw [cycle_started settings plan world numbered.uncached started]
    have opening := numbered_opened settings world numbered
    refine ⟨opening.created, ?_, opening.uncached⟩
    intro resource member
    cases List.mem_append.mp member with
    | inl earlier =>
        have older := numbered.released resource earlier
        have later := opened_fresh settings world
        exact Nat.lt_of_lt_of_le older (Nat.le_of_add_right_le later)
    | inr own => exact (made_ids settings world resource (freed_made settings plan _ resource own)).2
  · rcases cycle_aborted settings plan world started with ⟨_, same⟩ | ⟨_, same | same | ⟨_, same⟩⟩
    · rw [same]
      exact numbered
    · rw [same]
      exact numbered_acquired settings .dbEngine world numbered (.inr (by decide))
    · rw [same]
      exact numbered_acquired settings .httpClient _
        (numbered_acquired settings .dbEngine world numbered (.inr (by decide))) (.inr (by decide))
    · rw [same]
      exact numbered_opened settings world numbered

def Clean (settings : Settings) (plan : Plan) : Prop :=
  plan.createDatabaseEngine ≠ none ∨
    Started settings plan ∧ (settings.cacheEnabled = true → plan.close = none) ∧ plan.aclose = none

def AllReleased (world : World) : Prop := ∀ resource ∈ world.created, world.released.count resource = 1

theorem fresh_unreleased (settings : Settings) (world : World) (numbered : Numbered settings world) (resource : Resource)
    (new : world.fresh ≤ resource.id) : world.released.count resource = 0 := by
  apply List.count_eq_zero.mpr
  intro member
  exact absurd (numbered.released resource member) (Nat.not_lt.mpr new)

theorem started_releases_iff (settings : Settings) (plan : Plan) (world : World) (numbered : Numbered settings world)
    (before : AllReleased world) :
    AllReleased { opened settings world with released := world.released ++ freed settings plan world.fresh } ↔
      (settings.cacheEnabled = true → plan.close = none) ∧ plan.aclose = none := by
  rw [← made_freed_iff settings plan world.fresh]
  constructor
  · intro released resource member
    have counted := released resource (by simp [opened_created, member])
    rw [List.count_append, fresh_unreleased settings world numbered resource (made_ids settings world resource member).1,
      Nat.zero_add] at counted
    exact counted
  · intro freed resource member
    simp only [opened_created, List.mem_append] at member
    rw [List.count_append]
    cases member with
    | inl earlier =>
        have unfreed : (Lifespan.freed settings plan world.fresh).count resource = 0 := by
          apply List.count_eq_zero.mpr
          intro again
          have new := (made_ids settings world resource (freed_made settings plan _ resource again)).1
          exact absurd (numbered.created resource earlier) (Nat.not_lt.mpr new)
        rw [before resource earlier, unfreed]
    | inr own =>
        rw [fresh_unreleased settings world numbered resource (made_ids settings world resource own).1, freed resource own]

theorem aborted_leaks (settings : Settings) (plan : Plan) (world reached : World) (numbered : Numbered settings world)
    (engine : plan.createDatabaseEngine = none) (aborted : Aborted settings plan world reached) :
    ¬ AllReleased reached := by
  intro released
  have kept : (⟨.dbEngine, world.fresh⟩ : Resource) ∈ reached.created ∧ reached.released = world.released := by
    rcases aborted with ⟨failed, _⟩ | ⟨_, same | same | ⟨enabled, same⟩⟩
    · exact absurd engine failed
    · simp [same, acquired]
    · simp [same, acquired]
    · simp [same, opened, enabled, acquired]
  have once := released _ kept.1
  rw [kept.2, fresh_unreleased settings world numbered _ le_rfl] at once
  exact absurd once (by decide)

theorem cycle_releases_iff (settings : Settings) (plan : Plan) (world : World) (numbered : Numbered settings world)
    (before : AllReleased world) : AllReleased (cycle settings world plan) ↔ Clean settings plan := by
  by_cases started : Started settings plan
  · rw [cycle_started settings plan world numbered.uncached started,
      started_releases_iff settings plan world numbered before]
    constructor
    · intro closed
      exact .inr ⟨started, closed⟩
    · rintro (failed | ⟨_, closed⟩)
      · exact absurd started.1 failed
      · exact closed
  · have aborted := cycle_aborted settings plan world started
    by_cases engine : plan.createDatabaseEngine = none
    · constructor
      · intro released
        exact absurd released (aborted_leaks settings plan world _ numbered engine aborted)
      · rintro (failed | ⟨fine, _⟩)
        · exact absurd engine failed
        · exact absurd fine started
    · rcases aborted with ⟨_, same⟩ | ⟨fine, _⟩
      · rw [same]
        exact ⟨fun _ => .inl engine, fun _ => before⟩
      · exact absurd fine engine

theorem lifespan_releases_iff (settings : Settings) (plans : List Plan) :
    (∀ before after, plans = before ++ after → AllReleased (before.foldl (cycle settings) {})) ↔
      ∀ plan ∈ plans, Clean settings plan := by
  have general : ∀ world, Numbered settings world → AllReleased world →
      ((∀ before after, plans = before ++ after → AllReleased (before.foldl (cycle settings) world)) ↔
        ∀ plan ∈ plans, Clean settings plan) := by
    induction plans with
    | nil =>
        intro world _ released
        simp only [List.nil_eq_append_iff]
        constructor
        · intro _ plan member
          cases member
        · rintro _ before after ⟨rfl, rfl⟩
          exact released
    | cons plan rest ih =>
        intro world numbered released
        have first := cycle_releases_iff settings plan world numbered released
        have next := numbered_cycle settings plan world numbered
        constructor
        · intro all
          have once := all [plan] rest rfl
          have onward := (ih _ next once).mp
            (fun before after split => all (plan :: before) after (by rw [split]; rfl))
          intro other member
          cases List.mem_cons.mp member with
          | inl same => exact same ▸ first.mp once
          | inr later => exact onward other later
        · intro clean before after split
          have once := first.mpr (clean plan (by simp))
          have onward := (ih _ next once).mpr (fun other member => clean other (by simp [member]))
          cases before with
          | nil => exact released
          | cons head more =>
              obtain ⟨rfl, same⟩ := List.cons.inj split
              exact onward more after same
  exact general {} ⟨by simp, by simp, fun _ => rfl⟩ (by simp [AllReleased])

theorem failed_close_leaks :
    ¬ ∀ (settings : Settings) (plans before after : List Plan), plans = before ++ after →
      AllReleased (before.foldl (cycle settings) {}) := by
  intro claim
  have closed := claim ⟨true, true⟩ _ [{ close := some (.other "ConnectionError".toList) }] [] rfl
  have engine := closed ⟨.dbEngine, 0⟩ (by decide)
  exact absurd engine (by decide)

end Chassis.Lifespan
