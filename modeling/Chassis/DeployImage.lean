import Chassis.DeployContract

set_option autoImplicit false

namespace Chassis.Deploy

open Shell

namespace Image

def rollbackName (env : Environment) : Str := env.container ++ "-rollback".toList

def hostPort (env : Environment) : Str := orDefault env.hostPort "8000".toList

def containerPort (env : Environment) : Str := orDefault env.containerPort "8000".toList

def dataDir (env : Environment) : Str := orDefault env.dataDir "./data".toList

def runOptions (env : Environment) : List Str :=
  ["--restart".toList, "unless-stopped".toList, "--read-only".toList, "--tmpfs".toList, "/tmp".toList,
    "--tmpfs".toList, "/var/tmp".toList, "--cap-drop".toList, "ALL".toList,
    "--security-opt".toList, "no-new-privileges:true".toList, "--env-file".toList, env.file,
    "-e".toList, "APP_HOST=0.0.0.0".toList, "-e".toList, "APP_PORT=".toList ++ containerPort env,
    "-p".toList, hostPort env ++ ':' :: containerPort env, "-v".toList, dataDir env ++ ":/app/data".toList]

section Script

variable {σ ω : Type} (perform : σ → Call → ω → σ × Outcome) (env : Environment)

def rollbackPreviousContainer : Script σ ω Unit := do
  let preserved ← attempt perform .rollback (.inspectContainer (rollbackName env))
  if preserved then do
    let _ ← attempt perform .rollback (.remove env.container)
    let _ ← strict perform .rollback (.rename (rollbackName env) env.container)
    let _ ← strict perform .rollback (.start env.container)
    pure ()
  else pure ()

def rollBackAndExit : Script σ ω Unit := do
  let _ ← rollbackPreviousContainer perform env
  exit 1

def logAndRollBack : Script σ ω Unit := do
  let _ ← attempt perform .verify (.logs env.container)
  rollBackAndExit perform env

def prepare : Script σ ω Unit := do
  let _ ← requireImageName env
  let _ ← requireFile perform env.file
  let _ ← strict perform .prepare (.mkdir (dataDir env))
  let _ ← loginToRegistry perform env
  let _ ← strict perform .prepare (.pull env.imageRef)
  pure ()

def preserveCurrent : Script σ ω Unit := do
  let _ ← attempt perform .replace (.remove (rollbackName env))
  let running ← attempt perform .replace (.inspectContainer env.container)
  if running then do
    let _ ← strict perform .replace (.stop env.container)
    let _ ← strict perform .replace (.rename env.container (rollbackName env))
    pure ()
  else pure ()

def waitForContainerReady (container : Str) (deadline : Nat) : Script σ ω Bool :=
  waitForReady perform .verify container deadline

def verifyHost : Script σ ω Unit := do
  let readinessPath ← strict perform .verify (.readinessPath env.container)
  let reachable ← verifyHostReadiness perform env .verify env.imageRef (hostPort env) readinessPath
  if reachable then do
    let _ ← attempt perform .finish (.remove (rollbackName env))
    pure ()
  else logAndRollBack perform env

def reportStatus : Script σ ω Unit := do
  let _ ← strict perform .verify (.status env.container)
  logAndRollBack perform env

def verify : Script σ ω Unit := do
  let now ← seconds perform .verify
  let ready ← waitForContainerReady perform env.container (now + env.healthTimeout)
  if ready then verifyHost perform env else reportStatus perform env

def startReplacement : Script σ ω Unit := do
  let started ← attempt perform .replace (.run env.container (runOptions env) env.imageRef)
  if started then verify perform env else rollBackAndExit perform env

def deploy : Script σ ω Unit := do
  let _ ← prepare perform env
  let _ ← preserveCurrent perform env
  startReplacement perform env

end Script

def inspectPreserved (env : Environment) : Call := ⟨.rollback, true, .inspectContainer (rollbackName env)⟩

def removeReplacement (env : Environment) : Call := ⟨.rollback, true, .remove env.container⟩

def renameBack (env : Environment) : Call := ⟨.rollback, false, .rename (rollbackName env) env.container⟩

def startPrevious (env : Environment) : Call := ⟨.rollback, false, .start env.container⟩

def stopPrevious (env : Environment) : Call := ⟨.replace, false, .stop env.container⟩

def runReplacement (env : Environment) : Call := ⟨.replace, true, .run env.container (runOptions env) env.imageRef⟩

def Recovers (env : Environment) (step : Step) : Prop :=
  (step.1.guarded = true ∨ step.2.ok = true ∨ step.1 = startPrevious env) ∧
    (step.1 = inspectPreserved env → step.2.ok = true)

theorem steady_recovers (env : Environment) (trace : Trace) (steady : Steady trace) :
    ∀ step ∈ trace, Recovers env step := by
  intro step member
  have holds := steady step member
  refine ⟨holds.2.imp_right .inl, ?_⟩
  intro same
  rw [same] at holds
  exact absurd rfl holds.1

def contract (env : Environment) : Contract where
  verified trace := PassedInside .verify env.container trace ∧ ∃ readinessPath,
    Did ⟨.verify, false, .readinessPath env.container⟩ (Outcome.prints readinessPath) trace ∧
    Did ⟨.verify, true, .runProbe (probeArgs env env.imageRef (hostPort env) readinessPath)⟩ Outcome.ok trace
  takenDown trace := Did (stopPrevious env) Outcome.effective trace ∨ Did (runReplacement env) Outcome.effective trace
  restored trace := Did (removeReplacement env) Outcome.issued trace ∧ Did (renameBack env) Outcome.ok trace ∧
    Did (startPrevious env) Outcome.issued trace
  recoverable trace := ∀ step ∈ trace, Recovers env step
  untouched := by
    intro trace preparing down
    rcases down with ⟨step, member, same, _⟩ | ⟨step, member, same, _⟩ <;>
      simpa [same, stopPrevious, runReplacement] using preparing step member
  unbroken := steady_recovers env
  broken := by
    intro past call outcome steady place guarded failed
    constructor
    · rintro ⟨_, _, started⟩
      rcases (did_snoc past call outcome (startPrevious env) _).mp started with earlier | last
      · exact steady_not_did past steady _ _ rfl earlier
      · exact place (congrArg Call.place last.1)
    · intro recovers
      rcases (recovers (call, outcome) (by simp)).1 with isGuarded | ok | isStart
      · simp [guarded] at isGuarded
      · simp [failed] at ok
      · exact place (congrArg Call.place isStart)

def Rolling (env : Environment) (trace : Trace) : Prop :=
  (contract env).recoverable trace ∧ ¬Did (startPrevious env) Outcome.issued trace

theorem steady_rolling (env : Environment) (trace : Trace) (steady : Steady trace) : Rolling env trace :=
  ⟨steady_recovers env trace steady, steady_not_did trace steady _ _ rfl⟩

theorem recoverable_snoc (env : Environment) (past : Trace) (step : Step) :
    (contract env).recoverable (past ++ [step]) ↔ (contract env).recoverable past ∧ Recovers env step := by
  change (∀ earlier ∈ past ++ [step], Recovers env earlier) ↔ _
  rw [List.forall_mem_append, List.forall_mem_singleton]
  rfl

theorem rolling_snoc (env : Environment) (past : Trace) (call : Call) (outcome : Outcome) (rolling : Rolling env past)
    (recovers : Recovers env (call, outcome)) (different : call ≠ startPrevious env) :
    Rolling env (past ++ [(call, outcome)]) := by
  refine ⟨(recoverable_snoc env past _).mpr ⟨rolling.1, recovers⟩, ?_⟩
  intro started
  rcases (did_snoc past call outcome _ _).mp started with earlier | last
  · exact rolling.2 earlier
  · exact different last.1

theorem settled_without_rollback (env : Environment) (past : Trace) (call : Call) (outcome : Outcome)
    (rolling : Rolling env past) (broken : ¬Recovers env (call, outcome)) (different : call ≠ startPrevious env) :
    (contract env).Settled (past ++ [(call, outcome)]) := by
  constructor
  · rintro ⟨_, _, started⟩
    rcases (did_snoc past call outcome _ _).mp started with earlier | last
    · exact absurd earlier rolling.2
    · exact absurd last.1 different
  · exact fun recovers => absurd ((recoverable_snoc env past _).mp recovers).2 broken

theorem settled_by_start (env : Environment) (past : Trace) (outcome : Outcome) (rolling : Rolling env past)
    (removed : Did (removeReplacement env) Outcome.issued past) (renamed : Did (renameBack env) Outcome.ok past) :
    (contract env).Settled (past ++ [(startPrevious env, outcome)]) := by
  have recovers : Recovers env (startPrevious env, outcome) := ⟨.inr (.inr rfl), by simp [startPrevious, inspectPreserved]⟩
  constructor
  · exact fun _ => (recoverable_snoc env past _).mpr ⟨rolling.1, recovers⟩
  · exact fun _ => ⟨did_lasting _ _ past _ removed, did_lasting _ _ past _ renamed, did_here past _ outcome _ rfl⟩

theorem inspected_rolling (env : Environment) (past : Trace) (outcome : Outcome) (steady : Steady past)
    (ok : outcome.ok = true) : Rolling env (past ++ [(inspectPreserved env, outcome)]) :=
  rolling_snoc env past _ outcome (steady_rolling env past steady) ⟨.inl rfl, fun _ => ok⟩
    (by simp [inspectPreserved, startPrevious])

theorem settled_without_container (env : Environment) (past : Trace) (outcome : Outcome) (steady : Steady past)
    (failed : ¬outcome.ok = true) : (contract env).Settled (past ++ [(inspectPreserved env, outcome)]) :=
  settled_without_rollback env past _ outcome (steady_rolling env past steady) (fun recovers => failed (recovers.2 rfl))
    (by simp [inspectPreserved, startPrevious])

theorem settled_unnamed (env : Environment) (past : Trace) (outcome : Outcome) (rolling : Rolling env past)
    (failed : outcome.ok = false) : (contract env).Settled (past ++ [(renameBack env, outcome)]) := by
  refine settled_without_rollback env past _ outcome rolling ?_ (by simp [renameBack, startPrevious])
  intro recovers
  simpa [failed, renameBack, startPrevious] using recovers.1

theorem rollback_previous_container_settles (env : Environment) :
    Ensures (fun trace => Steady trace ∧ True) (rollbackPreviousContainer record env)
      (fun _ => (contract env).Settled) (contract env).Exact (fun _ => True) := by
  refine ensures_bind _ _ (fun preserved trace => if preserved = true then Rolling env trace
    else (contract env).Settled trace) _ (ensures_attempt _ _ _ (fun _ _ => trivial) ?inspect) ?_
  case inspect =>
    intro past outcome before
    change if outcome.ok = true then Rolling env (past ++ [(inspectPreserved env, outcome)])
      else (contract env).Settled (past ++ [(inspectPreserved env, outcome)])
    by_cases ok : outcome.ok = true
    · rw [if_pos ok]
      exact inspected_rolling env past outcome before.1 ok
    · rw [if_neg ok]
      exact settled_without_container env past outcome before.1 ok
  intro preserved
  refine ensures_if _ _ _ _ ?_ (fun missing => ensures_result _ () (fun _ done => by simpa [missing] using done))
  intro found
  simp only [found, if_true]
  refine ensures_bind _ _ (fun _ trace => Rolling env trace ∧ Did (removeReplacement env) Outcome.issued trace) _
    (ensures_attempt _ _ _ (fun _ _ => trivial) ?remove) ?_
  case remove =>
    intro past outcome rolling
    exact ⟨rolling_snoc env past _ outcome rolling ⟨.inl rfl, by simp [inspectPreserved]⟩ (by simp [startPrevious]),
      did_here past _ outcome _ rfl⟩
  intro _
  refine ensures_bind _ _ (fun _ trace => Rolling env trace ∧ Did (removeReplacement env) Outcome.issued trace ∧
    Did (renameBack env) Outcome.ok trace) _ (ensures_strict _ _ _ (fun _ _ => trivial) ?renamed ?unnamed) ?_
  case renamed =>
    intro past outcome before ok
    exact ⟨rolling_snoc env past _ outcome before.1 ⟨.inr (.inl ok), by simp [inspectPreserved]⟩ (by simp [startPrevious]),
      did_lasting _ _ past _ before.2, did_here past _ outcome _ ok⟩
  case unnamed =>
    intro past outcome before failed
    exact (contract env).exact_settled _ _ (code_nonzero outcome failed) (settled_unnamed env past outcome before.1 failed)
  intro _
  refine ensures_bind _ _ (fun _ => (contract env).Settled) _ (ensures_strict _ _ _ (fun _ _ => trivial) ?started ?stopped)
    (fun _ => ensures_result _ () (fun _ done => done))
  case started => exact fun past outcome before _ => settled_by_start env past outcome before.1 before.2.1 before.2.2
  case stopped =>
    intro past outcome before failed
    exact (contract env).exact_settled _ _ (code_nonzero outcome failed)
      (settled_by_start env past outcome before.1 before.2.1 before.2.2)

theorem roll_back_and_exit_finishes (env : Environment) :
    Finishes (contract env) (fun _ => True) (rollBackAndExit record env) :=
  finishes_settled _ (rollback_previous_container_settles env)

theorem log_and_roll_back_finishes (env : Environment) :
    Finishes (contract env) (fun _ => True) (logAndRollBack record env) :=
  ensures_bind _ _ _ _ (meets_attempt .verify _ (fun _ _ _ => trivial) (by simp))
    (fun _ => meets_forgotten _ _ _ (roll_back_and_exit_finishes env))

theorem verify_host_finishes (env : Environment) :
    Finishes (contract env) (PassedInside .verify env.container) (verifyHost record env) := by
  have inside := passed_inside_lasting .verify env.container
  refine ensures_bind _ _ _ _ (meets_strict .verify _ inside (by simp)) ?_
  intro readinessPath
  have recorded := lasting_and _ _ inside (did_lasting ⟨.verify, false, .readinessPath env.container⟩
    (Outcome.prints readinessPath))
  refine meets_learned _ _ _ (ensures_bind _ _ _ _ (meets_attempt .verify _ recorded (by simp)) ?_)
  intro reachable
  refine ensures_if _ _ _ _ ?_ (fun _ => meets_forgotten _ _ _ (log_and_roll_back_finishes env))
  intro reached
  refine meets_learned_if _ reached _ _ _ ?_
  refine ensures_bind _ _ _ _ (meets_attempt .finish _ (lasting_and _ _ recorded (did_lasting _ _)) (by simp)) ?_
  intro _
  refine ensures_result _ () ?_
  rintro trace ⟨⟨steady, ⟨passed, path⟩, probed⟩, _⟩
  exact (contract env).exact_verified trace steady ⟨passed, readinessPath, path, probed⟩

theorem report_status_finishes (env : Environment) :
    Finishes (contract env) (fun _ => True) (reportStatus record env) :=
  ensures_bind _ _ _ _ (meets_strict .verify _ (fun _ _ _ => trivial) (by simp))
    (fun _ => meets_forgotten _ _ _ (log_and_roll_back_finishes env))

theorem verify_finishes (env : Environment) : Finishes (contract env) (fun _ => True) (verify record env) := by
  refine ensures_bind _ _ _ _ (meets_seconds .verify (fun _ _ _ => trivial) (by simp)) ?_
  intro now
  refine ensures_bind _ _ _ _ (meets_wait .verify _ _ (fun _ _ _ => trivial) (by simp)) ?_
  intro ready
  refine ensures_if _ _ _ _ ?_ (fun _ => meets_forgotten _ _ _ (report_status_finishes env))
  intro passed
  exact ensures_from _ _ _ (verify_host_finishes env) (fun _ done => ⟨done.1.1, done.2 passed⟩)

theorem start_replacement_finishes (env : Environment) :
    Finishes (contract env) (fun _ => True) (startReplacement record env) := by
  refine ensures_bind _ _ _ _ (meets_attempt .replace _ (fun _ _ _ => trivial) (by simp)) ?_
  intro started
  refine ensures_if _ _ _ _ ?_ ?_
  · exact fun _ => meets_forgotten _ _ _ (verify_finishes env)
  · exact fun _ => meets_forgotten _ _ _ (roll_back_and_exit_finishes env)

theorem preserve_current_meets (env : Environment) : Meets (contract env) (fun _ => True) (preserveCurrent record env)
    (fun _ trace => Steady trace ∧ True) := by
  refine ensures_bind _ _ _ _ (meets_attempt .replace _ (fun _ _ _ => trivial) (by simp)) ?_
  intro _
  refine meets_forgotten _ _ _ (ensures_bind _ _ _ _ (meets_attempt .replace _ (fun _ _ _ => trivial) (by simp)) ?_)
  intro running
  refine ensures_if _ _ _ _ ?_ (fun _ => ensures_result _ () (fun _ done => done.1))
  intro _
  refine meets_forgotten _ _ _ (ensures_bind _ _ _ _ (meets_strict .replace _ (fun _ _ _ => trivial) (by simp)) ?_)
  intro _
  refine meets_forgotten _ _ _ (ensures_bind _ _ _ _ (meets_strict .replace _ (fun _ _ _ => trivial) (by simp)) ?_)
  exact fun _ => ensures_result _ () (fun _ done => done.1)

theorem prepare_prepares (env : Environment) : Prepares (contract env) (prepare record env) := by
  refine prepares_bind _ _ _ (require_image_name_prepares _ env) ?_
  intro _
  refine prepares_bind _ _ _ (require_file_prepares _ env.file) ?_
  intro _
  refine prepares_bind _ _ _ (prepares_strict _ _) ?_
  intro _
  refine prepares_bind _ _ _ (login_to_registry_prepares _ env) ?_
  intro _
  exact prepares_bind _ _ _ (prepares_strict _ _) (fun _ => prepares_result _ ())

theorem deploy_exact (env : Environment) : Ensures (fun trace => trace = []) (deploy record env)
    (fun _ => (contract env).Exact 0) (contract env).Exact (fun _ => True) :=
  deploys_exact _ _ _ (prepare_prepares env)
    (ensures_bind _ _ _ _ (preserve_current_meets env) (fun _ => start_replacement_finishes env))

end Image

end Chassis.Deploy
