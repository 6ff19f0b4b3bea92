import Chassis.ClaimErrors
import Chassis.Dict
import Chassis.JsonRender

set_option autoImplicit false

namespace Chassis.Readiness

open JsonRender JsonText

structure ReadinessCheckResult where
  name : PyStr
  isHealthy : Bool
  detail : PyStr
  latencyMs : Option PyFloat := none

def latencyPayload : Option PyFloat → PyValue
  | none => .none
  | some latency => .float latency.round2

def ReadinessCheckResult.asPayload (includeDetail : Bool) (result : ReadinessCheckResult) : PyValue :=
  .dict ([(.text "healthy", .bool result.isHealthy), (.text "latency_ms", latencyPayload result.latencyMs)] ++
    if includeDetail then [(.text "detail", .str result.detail)] else [])

section Registry

variable {σ ε : Type}

-- What a check hands back: its result, or an awaitable that will have it.
inductive MaybeResult (σ ε : Type) where
  | ready (result : ReadinessCheckResult)
  | awaitable (resume : σ → Except ε ReadinessCheckResult × σ)

-- A check sees the application and may change it, but not the registry: the
-- registrations come before the probe.
abbrev ReadinessCheck (σ ε : Type) := σ → Except ε (MaybeResult σ ε) × σ

structure ReadinessRegistry (σ ε : Type) where
  checks : Dict PyStr (ReadinessCheck σ ε)

def ReadinessRegistry.register (registry : ReadinessRegistry σ ε) (name : PyStr) (check : ReadinessCheck σ ε) :
    ReadinessRegistry σ ε :=
  ⟨registry.checks.set name check⟩

def ReadinessRegistry.values (registry : ReadinessRegistry σ ε) : List (ReadinessCheck σ ε) :=
  registry.checks.items.map Prod.snd

def registerAll (registrations : List (PyStr × ReadinessCheck σ ε)) : ReadinessRegistry σ ε :=
  registrations.foldl (fun registry entry => registry.register entry.1 entry.2) ⟨Dict.empty⟩

def settle (check : ReadinessCheck σ ε) (world : σ) : Except ε ReadinessCheckResult × σ :=
  match check world with
  | (.error raised, after) => (.error raised, after)
  | (.ok (.ready result), after) => (.ok result, after)
  | (.ok (.awaitable resume), after) => resume after

variable (perfCounter : σ → Rat × σ)

def runCheck (check : ReadinessCheck σ ε) (world : σ) : Except ε ReadinessCheckResult × σ :=
  let (start, started) := perfCounter world
  match settle check started with
  | (.error raised, after) => (.error raised, after)
  | (.ok result, after) =>
      match result.latencyMs with
      | some _ => (.ok result, after)
      | none =>
          let (now, measured) := perfCounter after
          (.ok { result with latencyMs := some (.finite ((now - start) * 1000)) }, measured)

def runLoop : List (ReadinessCheck σ ε) → σ → Except ε (List ReadinessCheckResult) × σ
  | [], world => (.ok [], world)
  | check :: rest, world =>
      match runCheck perfCounter check world with
      | (.error raised, after) => (.error raised, after)
      | (.ok result, after) =>
          let (later, last) := runLoop rest after
          (later.map (fun results => result :: results), last)

def ReadinessRegistry.run (registry : ReadinessRegistry σ ε) (world : σ) :
    Except ε (List ReadinessCheckResult) × σ :=
  runLoop perfCounter registry.values world

-- What leaves readiness_check: the exception of a check or of the rendering.
inductive Failure (ε : Type) where
  | check (raised : ε)
  | rendering (raised : RenderError)

def checksPayload (includeDetail : Bool) (results : List ReadinessCheckResult) : Dict PyStr PyValue :=
  Dict.ofPairs (results.map (fun result => (result.name, result.asPayload includeDetail)))

def readinessContent (allHealthy : Bool) (checks : List (PyStr × PyValue)) : PyValue :=
  .dict [(.text "status", .text (if allHealthy then "ready" else "not_ready")),
    (.text "checks", .dict (checks.map (fun entry => (.str entry.1, entry.2))))]

variable (interpreter : Interpreter)

def answer (includeDetail : Bool) (results : List ReadinessCheckResult) :
    Except RenderError (RenderedResponse interpreter) :=
  let allHealthy := results.all ReadinessCheckResult.isHealthy
  jsonResponse interpreter (if allHealthy then 200 else 503)
    (readinessContent allHealthy (checksPayload includeDetail results).items)

def readinessCheck (includeDetail : Bool) (registry : ReadinessRegistry σ ε) (world : σ) :
    Except (Failure ε) (RenderedResponse interpreter) × σ :=
  match registry.run perfCounter world with
  | (.error raised, after) => (.error (.check raised), after)
  | (.ok results, after) => ((answer interpreter includeDetail results).mapError .rendering, after)

-- The outcome of every check on its own, each run in the world that the ones
-- before it left, whether they raised or not.
def outcomes : List (ReadinessCheck σ ε) → σ → List (Except ε ReadinessCheckResult)
  | [], _ => []
  | check :: rest, world => (runCheck perfCounter check world).1 :: outcomes rest (runCheck perfCounter check world).2

def healthy : Except ε ReadinessCheckResult → Bool
  | .ok result => result.isHealthy
  | .error _ => false

def Reflects (includeDetail : Bool) : Except ε ReadinessCheckResult → PyStr × PyValue → Prop
  | .ok result, entry => entry = (result.name, result.asPayload includeDetail)
  | .error _, entry => ∃ members, entry.2 = .dict ((.text "healthy", .bool false) :: members)

def Aggregates (includeDetail : Bool) (own : List (Except ε ReadinessCheckResult))
    (response : RenderedResponse interpreter) : Prop :=
  response.statusCode = (if own.all healthy then 200 else 503) ∧
    ∃ entries, response.content = readinessContent (own.all healthy) entries ∧
      List.Forall₂ (Reflects includeDetail) own entries

def Sendable (includeDetail : Bool) (result : ReadinessCheckResult) : Prop :=
  Encodable result.name ∧ (includeDetail = true → Encodable result.detail) ∧
    ∀ latency, result.latencyMs = some latency → ∃ value, latency = .finite value

def WellBehaved (includeDetail : Bool) (own : List (Except ε ReadinessCheckResult)) : Prop :=
  ∃ results : List ReadinessCheckResult, own = results.map .ok ∧ (results.map ReadinessCheckResult.name).Nodup ∧
    ∀ result ∈ results, Sendable includeDetail result

theorem register_all_checks (registrations : List (PyStr × ReadinessCheck σ ε)) :
    (registerAll registrations).checks = Dict.ofPairs registrations := by
  induction registrations using List.reverseRecOn with
  | nil => rfl
  | append_singleton before entry ih =>
      rw [Dict.of_pairs_snoc, ← ih, registerAll, List.foldl_append]
      rfl

theorem run_loop_ok_iff (checks : List (ReadinessCheck σ ε)) (world : σ) (results : List ReadinessCheckResult) :
    (runLoop perfCounter checks world).1 = .ok results ↔ outcomes perfCounter checks world = results.map .ok := by
  induction checks generalizing world results with
  | nil => cases results <;> simp [runLoop, outcomes]
  | cons check rest ih =>
      rw [runLoop, outcomes]
      cases ran : runCheck perfCounter check world with
      | mk outcome after =>
          cases outcome with
          | error raised => cases results <;> simp
          | ok result =>
              have tail := ih after
              cases later : (runLoop perfCounter rest after).1 with
              | error raised =>
                  rw [later] at tail
                  cases results with
                  | nil => simp [later, Except.map]
                  | cons first others => simp [later, Except.map, ← tail others]
              | ok found =>
                  rw [later] at tail
                  cases results with
                  | nil => simp [later, Except.map]
                  | cons first others => simp [later, Except.map, ← tail others]

theorem outcomes_length (checks : List (ReadinessCheck σ ε)) (world : σ) :
    (outcomes perfCounter checks world).length = checks.length := by
  induction checks generalizing world with
  | nil => rfl
  | cons check rest ih => rw [outcomes, List.length_cons, List.length_cons, ih]

theorem all_healthy (results : List ReadinessCheckResult) :
    (results.map (Except.ok (ε := ε))).all healthy = results.all ReadinessCheckResult.isHealthy := by
  rw [List.all_map]
  rfl

theorem payload_renderable (includeDetail : Bool) (result : ReadinessCheckResult) (depth : Nat) :
    Renderable interpreter (depth + 1) (result.asPayload includeDetail) ↔
      (includeDetail = true → Encodable result.detail) ∧
        ∀ latency, result.latencyMs = some latency → ∃ value, latency = .finite value := by
  have rounded : Renderable interpreter depth (latencyPayload result.latencyMs) ↔
      ∀ latency, result.latencyMs = some latency → ∃ value, latency = .finite value := by
    cases result.latencyMs with
    | none => simp [latencyPayload, Renderable]
    | some latency => cases latency <;> simp [latencyPayload, Renderable, PyFloat.round2]
  have flag : Renderable interpreter depth (.bool result.isHealthy) := by simp [Renderable]
  have detail : Renderable interpreter depth (.str result.detail) ↔ Encodable result.detail := by simp [Renderable]
  rw [ReadinessCheckResult.asPayload, renderable_dict]
  cases includeDetail with
  | false => simp [literal_key, flag, rounded]
  | true =>
      simp only [↓reduceIte, List.cons_append, List.nil_append, List.forall_mem_cons, literal_key, flag, rounded, detail]
      simp [and_comm]

theorem content_renderable (allHealthy : Bool) (entries : List (PyStr × PyValue)) (depth : Nat) :
    Renderable interpreter (depth + 2) (readinessContent allHealthy entries) ↔
      ∀ entry ∈ entries, Encodable entry.1 ∧ Renderable interpreter depth entry.2 := by
  rw [readinessContent, renderable_dict]
  simp only [List.forall_mem_cons, literal_key, literal_value, renderable_dict, List.forall_mem_map]
  simp [KeyRenderable]

theorem content_entries (left right : Bool) (before after : List (PyStr × PyValue))
    (same : readinessContent left before = readinessContent right after) : before.length = after.length := by
  have members : before.map (fun entry => (PyKey.str entry.1, entry.2)) =
      after.map (fun entry => (PyKey.str entry.1, entry.2)) := by
    simp only [readinessContent, PyValue.dict.injEq, List.cons.injEq, Prod.mk.injEq] at same
    exact same.2.1.2
  simpa using congrArg List.length members

theorem entries_renderable (includeDetail : Bool) (results : List ReadinessCheckResult) (depth : Nat) :
    (∀ entry ∈ results.map (fun result => (result.name, result.asPayload includeDetail)),
      Encodable entry.1 ∧ Renderable interpreter (depth + 1) entry.2) ↔
      ∀ result ∈ results, Sendable includeDetail result := by
  simp only [List.forall_mem_map, payload_renderable, Sendable]

theorem forall_reflects (includeDetail : Bool) (results : List ReadinessCheckResult) :
    List.Forall₂ (Reflects includeDetail) (results.map (Except.ok (ε := ε)))
      (results.map (fun result => (result.name, result.asPayload includeDetail))) := by
  induction results with
  | nil => exact .nil
  | cons result rest ih => exact .cons rfl ih

theorem payload_items (includeDetail : Bool) (results : List ReadinessCheckResult)
    (distinct : (results.map ReadinessCheckResult.name).Nodup) :
    (checksPayload includeDetail results).items =
      results.map (fun result => (result.name, result.asPayload includeDetail)) := by
  apply Dict.of_pairs_items
  rw [List.map_map]
  exact distinct

theorem payload_full (includeDetail : Bool) (results : List ReadinessCheckResult)
    (full : (checksPayload includeDetail results).size = results.length) :
    (results.map ReadinessCheckResult.name).Nodup := by
  have distinct := Dict.of_pairs_full (results.map (fun result => (result.name, result.asPayload includeDetail)))
    (by rw [List.length_map]; exact full)
  rwa [List.map_map] at distinct

theorem answer_content (includeDetail : Bool) (results : List ReadinessCheckResult)
    (response : RenderedResponse interpreter) (built : answer interpreter includeDetail results = .ok response) :
    response.statusCode = (if results.all ReadinessCheckResult.isHealthy then 200 else 503) ∧
      response.content = readinessContent (results.all ReadinessCheckResult.isHealthy)
        (checksPayload includeDetail results).items :=
  json_response_ok interpreter _ _ response built

theorem answer_aggregates_iff (room : 3 ≤ interpreter.nesting) (includeDetail : Bool)
    (results : List ReadinessCheckResult) :
    (∃ response, answer interpreter includeDetail results = .ok response ∧
      Aggregates interpreter includeDetail (results.map (Except.ok (ε := ε))) response) ↔
      (results.map ReadinessCheckResult.name).Nodup ∧ ∀ result ∈ results, Sendable includeDetail result := by
  obtain ⟨depth, deep⟩ := Nat.exists_eq_add_of_le' room
  constructor
  · rintro ⟨response, built, _, entries, content, reflected⟩
    obtain ⟨_, written⟩ := answer_content interpreter includeDetail results response built
    have entryCount : entries.length = results.length := by simpa using reflected.length_eq.symm
    have itemCount := content_entries _ _ _ _ (written.symm.trans content)
    have distinct := payload_full includeDetail results (itemCount.trans entryCount)
    have renderable := (json_response_built_iff interpreter _ _).mp ⟨response, built⟩
    rw [deep, content_renderable, payload_items includeDetail results distinct, entries_renderable] at renderable
    exact ⟨distinct, renderable⟩
  · rintro ⟨distinct, sendable⟩
    have items := payload_items includeDetail results distinct
    have renderable : Renderable interpreter interpreter.nesting
        (readinessContent (results.all ReadinessCheckResult.isHealthy) (checksPayload includeDetail results).items) := by
      rw [deep, content_renderable, items, entries_renderable]
      exact sendable
    obtain ⟨response, built⟩ := (json_response_built_iff interpreter
      (if results.all ReadinessCheckResult.isHealthy then 200 else 503) _).mpr renderable
    obtain ⟨status, content⟩ := answer_content interpreter includeDetail results response built
    refine ⟨response, built, ?_, _, ?_, forall_reflects includeDetail results⟩
    · rw [all_healthy, status]
    · rw [all_healthy, content, items]

theorem readiness_aggregates_iff (room : 3 ≤ interpreter.nesting) (includeDetail : Bool)
    (registrations : List (PyStr × ReadinessCheck σ ε)) (world : σ) :
    (∀ name check, (registerAll registrations).checks.get name = some check ↔
      ∃ before after, registrations = before ++ (name, check) :: after ∧ name ∉ after.map Prod.fst) ∧
    (outcomes perfCounter (registerAll registrations).values world).length = (registerAll registrations).checks.size ∧
    ((∃ response after,
        readinessCheck perfCounter interpreter includeDetail (registerAll registrations) world = (.ok response, after) ∧
        Aggregates interpreter includeDetail (outcomes perfCounter (registerAll registrations).values world) response) ↔
      WellBehaved includeDetail (outcomes perfCounter (registerAll registrations).values world)) := by
  refine ⟨?_, ?_, ?_⟩
  · intro name check
    rw [register_all_checks, Dict.of_pairs_last]
  · rw [outcomes_length, ReadinessRegistry.values, List.length_map, Dict.size]
  · have through := run_loop_ok_iff perfCounter (registerAll registrations).values world
    rw [readinessCheck, ReadinessRegistry.run]
    cases ran : runLoop perfCounter (registerAll registrations).values world with
    | mk outcome after =>
        rw [ran] at through
        dsimp only at through ⊢
        cases outcome with
        | error raised =>
            constructor
            · rintro ⟨response, _, impossible, _⟩
              cases impossible
            · rintro ⟨results, own, _⟩
              cases (through results).mpr own
        | ok results =>
            have own := (through results).mp rfl
            dsimp only
            rw [own]
            have aggregated := answer_aggregates_iff (ε := ε) interpreter room includeDetail results
            constructor
            · rintro ⟨response, _, answered, aggregates⟩
              have built := (map_error_ok _ _ _).mp (Prod.mk.inj answered).1
              exact ⟨results, rfl, aggregated.mp ⟨response, built, aggregates⟩⟩
            · rintro ⟨others, same, good⟩
              have equal : results = others := List.map_injective_iff.mpr (fun _ _ => Except.ok.inj) same
              obtain ⟨response, built, aggregates⟩ := aggregated.mpr (equal ▸ good)
              exact ⟨response, after, by rw [built]; rfl, aggregates⟩

end Registry

def still (world : Unit) : Rat × Unit := (0, world)

def databaseResult (isHealthy : Bool) : ReadinessCheckResult :=
  ⟨points "database".toList, isHealthy, points "pool".toList, some (.finite (1 / 2))⟩

def primaryDown : ReadinessCheck Unit Str :=
  fun world => (.ok (.awaitable (fun later => (.ok (databaseResult false), later))), world)
def replicaUp : ReadinessCheck Unit Str := fun world => (.ok (.ready (databaseResult true)), world)
def authRaises : ReadinessCheck Unit Str := fun world => (.error "ConnectionError".toList, world)

def cacheUp : ReadinessCheck Unit Str :=
  fun world => (.ok (.ready { name := points "cache".toList, isHealthy := true, detail := points "ok".toList }), world)

-- The check that would raise is replaced before the probe.
def replacedRegistrations : List (PyStr × ReadinessCheck Unit Str) :=
  [(points "database".toList, authRaises), (points "cache".toList, cacheUp), (points "database".toList, primaryDown)]

theorem readiness_aggregates_iff_replaced :
    ∃ response after,
      readinessCheck still Auth.cpython true (registerAll replacedRegistrations) () = (.ok response, after) ∧
        Aggregates Auth.cpython true (outcomes still (registerAll replacedRegistrations).values ()) response := by
  refine (readiness_aggregates_iff still Auth.cpython (by decide) true replacedRegistrations ()).2.2.mpr ?_
  refine ⟨[databaseResult false,
    { name := points "cache".toList, isHealthy := true, detail := points "ok".toList,
      latencyMs := some (.finite ((0 - 0) * 1000)) }], rfl, by decide, ?_⟩
  intro result listed
  simp only [List.mem_cons, List.not_mem_nil, or_false] at listed
  rcases listed with rfl | rfl
  · exact ⟨points_encodable _, fun _ => points_encodable _, fun latency held => ⟨1 / 2, (Option.some.inj held).symm⟩⟩
  · exact ⟨points_encodable _, fun _ => points_encodable _, fun latency held => ⟨(0 - 0) * 1000, (Option.some.inj held).symm⟩⟩

-- A check that raises leaves no answer at all, and two results of one name
-- leave one entry, here the healthy one.
def raisingRegistry : ReadinessRegistry Unit Str :=
  registerAll [(points "database".toList, primaryDown), (points "auth".toList, authRaises)]
def clashingRegistry : ReadinessRegistry Unit Str :=
  registerAll [(points "primary".toList, primaryDown), (points "replica".toList, replicaUp)]

theorem unhealthy_check_hidden :
    (¬ ∃ response after, readinessCheck still Auth.cpython true raisingRegistry () = (.ok response, after)) ∧
    (checksPayload true [databaseResult false, databaseResult true]).items =
      [(points "database".toList, (databaseResult true).asPayload true)] ∧
    ¬ ∃ response after, readinessCheck still Auth.cpython true clashingRegistry () = (.ok response, after) ∧
      Aggregates Auth.cpython true (outcomes still clashingRegistry.values ()) response := by
  have single : (checksPayload true [databaseResult false, databaseResult true]).items =
      [(points "database".toList, (databaseResult true).asPayload true)] := rfl
  refine ⟨?_, single, ?_⟩
  · rintro ⟨response, after, answered⟩
    have raised : (readinessCheck still Auth.cpython true raisingRegistry ()).1 =
        .error (.check "ConnectionError".toList) := rfl
    rw [answered] at raised
    cases raised
  · rintro ⟨response, after, answered, _, entries, content, reflected⟩
    have ran : readinessCheck still Auth.cpython true clashingRegistry () =
        ((answer Auth.cpython true [databaseResult false, databaseResult true]).mapError .rendering, ()) := rfl
    have built := (map_error_ok _ _ _).mp (Prod.mk.inj (ran.symm.trans answered)).1
    have written := (answer_content Auth.cpython true _ response built).2
    have one : entries.length = 1 := by
      rw [← content_entries _ _ _ _ (written.symm.trans content), single]
      rfl
    have two : (outcomes still clashingRegistry.values ()).length = 2 := rfl
    rw [reflected.length_eq, one] at two
    cases two

end Chassis.Readiness
