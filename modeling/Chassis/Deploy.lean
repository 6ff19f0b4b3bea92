import Chassis.Shell
import Chassis.Text

set_option autoImplicit false

namespace Chassis.Deploy

open Shell

inductive Place where
  | prepare
  | replace
  | verify
  | rollback
  | finish
deriving DecidableEq

inductive Command where
  | testFile (path : Str)
  | mkdir (path : Str)
  | login (registry username password : Str)
  | pull (image : Str)
  | remove (container : Str)
  | inspectContainer (container : Str)
  | stop (container : Str)
  | rename (container name : Str)
  | run (name : Str) (options : List Str) (image : Str)
  | start (container : Str)
  | status (container : Str)
  | probe (container : Str)
  | readinessPath (container : Str)
  | runProbe (arguments : List Str)
  | logs (container : Str)
  | composeId
  | composePull (tag : Str)
  | composeUp (tag : Str)
  | composeLogs
  | imageId (container : Str)
  | imageReference (container : Str)
  | hostPort (container : Str)
  | tag (image reference : Str)
  | inspectImage (image : Str)
  | removeImage (image : Str)
  | seconds
  | sleep (duration : Nat)
deriving DecidableEq

-- A guarded command stands in a condition, before `||`, or in a function that
-- is called there; the exit status of any other one ends the script.
structure Call where
  place : Place
  guarded : Bool
  command : Command
deriving DecidableEq

-- A command that failed may still have taken effect. `clock` is SECONDS after it.
structure Outcome where
  code : Nat
  applied : Bool
  output : Str
  clock : Nat
deriving DecidableEq

def Outcome.ok (outcome : Outcome) : Bool := outcome.code == 0

def Outcome.effective (outcome : Outcome) : Bool := outcome.ok || outcome.applied

def succeeded (output : String) : Outcome := ⟨0, true, output.toList, 0⟩

structure Environment where
  imageName : Option Str := none
  imageTag : Option Str := none
  containerName : Option Str := none
  hostPort : Option Str := none
  containerPort : Option Str := none
  composeFile : Option Str := none
  projectName : Option Str := none
  envFile : Option Str := none
  dataDir : Option Str := none
  registryHost : Option Str := none
  registryUsername : Option Str := none
  registryPassword : Option Str := none
  healthTimeoutSeconds : Option Nat := none
  verifyHost : Option Str := none
  verifyHostHeader : Option Str := none
  verifyScheme : Option Str := none
  verifyTimeoutSeconds : Option Str := none
  rollbackImageTag : Option Str := none

-- ${VARIABLE:-default}
def orDefault (value : Option Str) (default : Str) : Str :=
  match value with
  | some (head :: tail) => head :: tail
  | some [] => default
  | none => default

namespace Environment

variable (env : Environment)

-- ${IMAGE_NAME,,}
def image : Str := (orDefault env.imageName []).map Char.toLower
def tag : Str := orDefault env.imageTag "latest".toList
def imageRef : Str := env.image ++ ':' :: env.tag
def container : Str := orDefault env.containerName "fastapi-chassis".toList
def file : Str := orDefault env.envFile ".env".toList
def registry : Str := orDefault env.registryHost "ghcr.io".toList
def username : Str := orDefault env.registryUsername []
def password : Str := orDefault env.registryPassword []
def healthTimeout : Nat := env.healthTimeoutSeconds.getD 90
def project : Str := orDefault env.projectName "fastapi-chassis".toList
def compose : Str := orDefault env.composeFile "docker-compose.deploy.yml".toList
def rollbackTag : Str := orDefault env.rollbackImageTag ("rollback-".toList ++ env.project)
def rollbackRef : Str := env.image ++ ':' :: env.rollbackTag

end Environment

def appImage : Environment := { imageName := some "app".toList }

section Script

variable {σ ω : Type} (perform : σ → Call → ω → σ × Outcome)

def call (place : Place) (guarded : Bool) (command : Command) : Script σ ω Outcome :=
  act (fun world answer => perform world ⟨place, guarded, command⟩ answer)

-- A simple command or a plain assignment under `set -e`.
def strict (place : Place) (command : Command) : Script σ ω Str := do
  let outcome ← call perform place false command
  if outcome.ok then pure outcome.output else exit outcome.code

def attempt (place : Place) (command : Command) : Script σ ω Bool := do
  let outcome ← call perform place true command
  pure outcome.ok

def capture (place : Place) (command : Command) : Script σ ω Str := do
  let outcome ← call perform place true command
  pure outcome.output

def seconds (place : Place) : Script σ ω Nat := do
  let outcome ← call perform place true .seconds
  pure outcome.clock

def requireImageName (env : Environment) : Script σ ω Unit :=
  if orDefault env.imageName [] = [] then exit 1 else pure ()

def requireFile (path : Str) : Script σ ω Unit := do
  let found ← attempt perform .prepare (.testFile path)
  if found then pure () else exit 1

def loginToRegistry (env : Environment) : Script σ ω Unit :=
  if env.username ≠ [] ∧ env.password ≠ [] then do
    let _ ← strict perform .prepare (.login env.registry env.username env.password)
    pure ()
  else pure ()

-- The loop of wait_for_container_ready and wait_for_compose_ready. Both are
-- called in conditions only, so no command in it ends the script.
def probeHealthy (place : Place) (container status : Str) : Script σ ω Bool :=
  if status = "healthy".toList then attempt perform place (.probe container) else pure false

def untilDeadline (place : Place) (deadline : Nat) : Script σ ω (Option Bool) := do
  let now ← seconds perform place
  if deadline ≤ now then pure (some false)
  else do
    let _ ← attempt perform place (.sleep 3)
    pure none

def waitRound (place : Place) (container : Str) (deadline : Nat) : Script σ ω (Option Bool) := do
  let status ← capture perform place (.status container)
  let ready ← probeHealthy perform place container status
  if ready then pure (some true)
  else if status = "unhealthy".toList ∨ status = "exited".toList ∨ status = "dead".toList then pure (some false)
  else untilDeadline perform place deadline

def waitForReady (place : Place) (container : Str) (deadline : Nat) : Script σ ω Bool :=
  loop (waitRound perform place container deadline)

def probeArgs (env : Environment) (imageRef hostPort readinessPath : Str) : List Str :=
  ["--network".toList, "host".toList, imageRef, "python".toList, "/app/ops/http_probe.py".toList,
    "--scheme".toList, orDefault env.verifyScheme "http".toList,
    "--host".toList, orDefault env.verifyHost "127.0.0.1".toList,
    "--port".toList, hostPort, "--path".toList, readinessPath,
    "--path-env".toList, "APP_READINESS_CHECK_PATH".toList, "--default-path".toList, "/ready".toList,
    "--timeout".toList, orDefault env.verifyTimeoutSeconds "5".toList] ++
  if orDefault env.verifyHostHeader [] ≠ [] then
    ["--host-header".toList, orDefault env.verifyHostHeader []]
  else []

def verifyHostReadiness (env : Environment) (place : Place) (imageRef hostPort readinessPath : Str) :
    Script σ ω Bool :=
  attempt perform place (.runProbe (probeArgs env imageRef hostPort readinessPath))

end Script

section Rules

variable {σ ω : Type} {perform : σ → Call → ω → σ × Outcome}
variable {pre : σ → Prop} {exits : Nat → σ → Prop} {killed : σ → Prop}

theorem ensures_call (place : Place) (guarded : Bool) (command : Command) (post : Outcome → σ → Prop)
    (stopped : ∀ world, pre world → killed world)
    (holds : ∀ world answer, pre world →
      post (perform world ⟨place, guarded, command⟩ answer).2 (perform world ⟨place, guarded, command⟩ answer).1) :
    Ensures pre (call perform place guarded command) post exits killed :=
  ensures_act post _ stopped holds

theorem ensures_strict (place : Place) (command : Command) (post : Str → σ → Prop)
    (stopped : ∀ world, pre world → killed world)
    (passed : ∀ world answer, pre world → (perform world ⟨place, false, command⟩ answer).2.ok = true →
      post (perform world ⟨place, false, command⟩ answer).2.output (perform world ⟨place, false, command⟩ answer).1)
    (failed : ∀ world answer, pre world → (perform world ⟨place, false, command⟩ answer).2.ok = false →
      exits (perform world ⟨place, false, command⟩ answer).2.code (perform world ⟨place, false, command⟩ answer).1) :
    Ensures pre (strict perform place command) post exits killed := by
  refine ensures_bind _ _ (fun outcome world => (outcome.ok = true → post outcome.output world) ∧
    (outcome.ok = false → exits outcome.code world)) post ?_ ?_
  · exact ensures_call place false command _ stopped
      (fun world answer before => ⟨passed world answer before, failed world answer before⟩)
  · intro outcome
    refine ensures_if _ _ _ post ?_ ?_
    · intro ok
      exact ensures_result post outcome.output (fun _ done => done.1 ok)
    · intro notOk
      exact ensures_exit post outcome.code (fun _ done => done.2 (by simpa using notOk))

theorem ensures_attempt (place : Place) (command : Command) (post : Bool → σ → Prop)
    (stopped : ∀ world, pre world → killed world)
    (holds : ∀ world answer, pre world →
      post (perform world ⟨place, true, command⟩ answer).2.ok (perform world ⟨place, true, command⟩ answer).1) :
    Ensures pre (attempt perform place command) post exits killed :=
  ensures_bind _ _ (fun outcome world => post outcome.ok world) post
    (ensures_call place true command _ stopped holds) (fun outcome => ensures_result post outcome.ok (fun _ done => done))

theorem ensures_capture (place : Place) (command : Command) (post : Str → σ → Prop)
    (stopped : ∀ world, pre world → killed world)
    (holds : ∀ world answer, pre world →
      post (perform world ⟨place, true, command⟩ answer).2.output (perform world ⟨place, true, command⟩ answer).1) :
    Ensures pre (capture perform place command) post exits killed :=
  ensures_bind _ _ (fun outcome world => post outcome.output world) post
    (ensures_call place true command _ stopped holds)
    (fun outcome => ensures_result post outcome.output (fun _ done => done))

theorem ensures_seconds (place : Place) (stopped : ∀ world, pre world → killed world)
    (holds : ∀ world answer, pre world → pre (perform world ⟨place, true, .seconds⟩ answer).1) :
    Ensures pre (seconds perform place) (fun _ => pre) exits killed :=
  ensures_bind _ _ (fun _ => pre) _ (ensures_call place true .seconds _ stopped holds)
    (fun outcome => ensures_result _ outcome.clock (fun _ done => done))

theorem ensures_until_deadline (place : Place) (deadline : Nat) (stopped : ∀ world, pre world → killed world)
    (idle : ∀ world answer command, command = .seconds ∨ command = .sleep 3 → pre world →
      pre (perform world ⟨place, true, command⟩ answer).1) :
    Ensures pre (untilDeadline perform place deadline) (fun found world => found ≠ some true ∧ pre world)
      exits killed := by
  refine ensures_bind _ _ (fun _ => pre) _ (ensures_seconds place stopped ?_) ?_
  · exact fun world answer before => idle world answer .seconds (.inl rfl) before
  · intro now
    refine ensures_if _ _ _ _ ?_ ?_
    · exact fun late => ensures_result _ (some false) (fun world done => ⟨by simp, done⟩)
    · intro early
      refine ensures_bind _ _ (fun _ => pre) _ (ensures_attempt place (.sleep 3) _ stopped ?_) ?_
      · exact fun world answer before => idle world answer (.sleep 3) (.inr rfl) before
      · exact fun _ => ensures_result _ none (fun _ done => ⟨by simp, done⟩)

theorem ensures_wait (place : Place) (container : Str) (deadline : Nat) (healthy ready : σ → Prop)
    (stopped : ∀ world, pre world → killed world)
    (status : ∀ world answer, pre world → pre (perform world ⟨place, true, .status container⟩ answer).1 ∧
      ((perform world ⟨place, true, .status container⟩ answer).2.output = "healthy".toList →
        healthy (perform world ⟨place, true, .status container⟩ answer).1))
    (probe : ∀ world answer, healthy world → pre (perform world ⟨place, true, .probe container⟩ answer).1 ∧
      ((perform world ⟨place, true, .probe container⟩ answer).2.ok = true →
        ready (perform world ⟨place, true, .probe container⟩ answer).1))
    (idle : ∀ world answer command, command = .seconds ∨ command = .sleep 3 → pre world →
      pre (perform world ⟨place, true, command⟩ answer).1) :
    Ensures pre (waitForReady perform place container deadline)
      (fun passed world => if passed = true then ready world else pre world) exits killed := by
  refine ensures_loop _ _ stopped ?_
  refine ensures_bind _ _ (fun text world => pre world ∧ (text = "healthy".toList → healthy world)) _
    (ensures_capture place (.status container) _ stopped (fun world answer before => status world answer before)) ?_
  intro text
  refine ensures_bind _ _ (fun passed world => if passed = true then ready world else pre world) _ ?_ ?_
  · refine ensures_if _ _ _ _ ?_ ?_
    · intro reads
      refine ensures_attempt place (.probe container) _ (fun world before => stopped world before.1) ?_
      intro world answer before
      have answered := probe world answer (before.2 reads)
      cases ok : (perform world ⟨place, true, .probe container⟩ answer).2.ok with
      | true => simpa using answered.2 ok
      | false => simpa using answered.1
    · intro other
      exact ensures_result _ false (fun world before => by simpa using before.1)
  · intro passed
    refine ensures_if _ _ _ _ ?_ ?_
    · intro isReady
      exact ensures_result _ (some true) (fun world done => by simpa [isReady] using done)
    · intro notReady
      simp only [notReady, if_false]
      refine ensures_if _ _ _ _ (fun failed => ensures_result _ (some false) (fun world done => by simpa using done)) ?_
      intro waiting
      refine ensures_weaken _ _ _ (ensures_until_deadline place deadline stopped idle) ?_
      intro found world done
      cases found with
      | none => exact done.2
      | some passed =>
          have failed : passed = false := by simpa using done.1
          simpa [failed] using done.2

end Rules

end Chassis.Deploy
