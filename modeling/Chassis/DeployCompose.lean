import Chassis.DeployImage

set_option autoImplicit false

namespace Chassis.Deploy

open Shell

namespace Compose

section Script

variable {σ ω : Type} (perform : σ → Call → ω → σ × Outcome) (env : Environment)

def waitForComposeReady (place : Place) (container : Str) (deadline : Nat) : Script σ ω Bool :=
  waitForReady perform place container deadline

-- rollback_compose_deployment is called before `|| true` only, so a command that
-- fails in it does not end the script.
def rollbackFailed : Script σ ω Bool := do
  let _ ← attempt perform .rollback .composeLogs
  pure false

def verifyRollbackHost (container : Str) : Script σ ω Bool := do
  let readinessPath ← capture perform .rollback (.readinessPath container)
  let hostPort ← capture perform .rollback (.hostPort container)
  if hostPort = [] then rollbackFailed perform
  else do
    let reachable ← verifyHostReadiness perform env .rollback env.rollbackRef hostPort readinessPath
    if reachable then pure true else rollbackFailed perform

def verifyRollback (container : Str) : Script σ ω Bool := do
  let now ← seconds perform .rollback
  let ready ← waitForComposeReady perform .rollback container (now + env.healthTimeout)
  if ready then verifyRollbackHost perform env container else rollbackFailed perform

def redeployRollback : Script σ ω Bool := do
  let _ ← attempt perform .rollback (.composeUp env.rollbackTag)
  let container ← capture perform .rollback .composeId
  if container = [] then pure false else verifyRollback perform env container

def rollbackComposeDeployment : Script σ ω Bool := do
  let available ← attempt perform .rollback (.inspectImage env.rollbackRef)
  if available then redeployRollback perform env else pure false

def rollBackAndExit : Script σ ω Unit := do
  let _ ← rollbackComposeDeployment perform env
  exit 1

def logAndRollBack : Script σ ω Unit := do
  let _ ← strict perform .verify .composeLogs
  rollBackAndExit perform env

def tagPrevious (container : Str) : Script σ ω Unit :=
  if container = [] then pure ()
  else do
    let previousImage ← strict perform .prepare (.imageId container)
    let _ ← strict perform .prepare (.tag previousImage env.rollbackRef)
    pure ()

def prepare : Script σ ω Unit := do
  let _ ← requireImageName env
  let _ ← requireFile perform env.compose
  let _ ← requireFile perform env.file
  let _ ← loginToRegistry perform env
  let previousContainer ← capture perform .prepare .composeId
  let _ ← tagPrevious perform env previousContainer
  let _ ← strict perform .prepare (.composePull env.tag)
  pure ()

def cleanUp : Script σ ω Unit := do
  let left ← attempt perform .finish (.inspectImage env.rollbackRef)
  if left then do
    let _ ← attempt perform .finish (.removeImage env.rollbackRef)
    pure ()
  else pure ()

def verifyPublished (imageRef hostPort readinessPath : Str) : Script σ ω Unit :=
  if hostPort = [] then logAndRollBack perform env
  else do
    let reachable ← verifyHostReadiness perform env .verify imageRef hostPort readinessPath
    if reachable then cleanUp perform env else logAndRollBack perform env

def verifyHost (container imageRef : Str) : Script σ ω Unit := do
  let readinessPath ← strict perform .verify (.readinessPath container)
  let hostPort ← strict perform .verify (.hostPort container)
  verifyPublished perform env imageRef hostPort readinessPath

def reportStatus (container : Str) : Script σ ω Unit := do
  let _ ← strict perform .verify (.status container)
  logAndRollBack perform env

def verify (container : Str) : Script σ ω Unit := do
  let imageRef ← strict perform .verify (.imageReference container)
  let now ← seconds perform .verify
  let ready ← waitForComposeReady perform .verify container (now + env.healthTimeout)
  if ready then verifyHost perform env container imageRef else reportStatus perform env container

def startReplacement : Script σ ω Unit := do
  let _ ← strict perform .replace (.composeUp env.tag)
  let container ← strict perform .verify .composeId
  if container = [] then rollBackAndExit perform env else verify perform env container

def deploy : Script σ ω Unit := do
  let _ ← prepare perform env
  startReplacement perform env

end Script

def inspectRollback (env : Environment) : Call := ⟨.rollback, true, .inspectImage env.rollbackRef⟩

def upRollback (env : Environment) : Call := ⟨.rollback, true, .composeUp env.rollbackTag⟩

def Tagged (env : Environment) (trace : Trace) : Prop :=
  ∃ step ∈ trace, (∃ image, step.1 = ⟨.prepare, false, .tag image env.rollbackRef⟩) ∧ step.2.ok = true

def Recovers (env : Environment) (tagged : Prop) (step : Step) : Prop :=
  (step.1.guarded = true ∨ step.2.ok = true) ∧ (step.1 = inspectRollback env → step.2.ok = true ∧ tagged)

theorem steady_recovers (env : Environment) (trace : Trace) (steady : Steady trace) :
    ∀ step ∈ trace, Recovers env (Tagged env trace) step := by
  intro step member
  have holds := steady step member
  refine ⟨holds.2, ?_⟩
  intro same
  rw [same] at holds
  exact absurd rfl holds.1

def Created (container : Str) (trace : Trace) : Prop :=
  Did ⟨.verify, false, .composeId⟩ (Outcome.prints container) trace

def contract (env : Environment) : Contract where
  verified trace := ∃ container imageRef hostPort readinessPath, Created container trace ∧
    Did ⟨.verify, false, .imageReference container⟩ (Outcome.prints imageRef) trace ∧
    PassedInside .verify container trace ∧
    Did ⟨.verify, false, .readinessPath container⟩ (Outcome.prints readinessPath) trace ∧
    Did ⟨.verify, false, .hostPort container⟩ (Outcome.prints hostPort) trace ∧
    Did ⟨.verify, true, .runProbe (probeArgs env imageRef hostPort readinessPath)⟩ Outcome.ok trace
  takenDown trace := Did ⟨.replace, false, .composeUp env.tag⟩ Outcome.effective trace
  restored trace := Tagged env trace ∧ Did (upRollback env) Outcome.issued trace
  recoverable trace := ∀ step ∈ trace, Recovers env (Tagged env trace) step
  untouched := by
    rintro trace preparing ⟨step, member, same, _⟩
    simpa [same] using preparing step member
  unbroken := steady_recovers env
  broken := by
    intro past call outcome steady place guarded failed
    constructor
    · rintro ⟨_, up⟩
      rcases (did_snoc past call outcome (upRollback env) _).mp up with earlier | last
      · exact steady_not_did past steady _ _ rfl earlier
      · exact place (congrArg Call.place last.1)
    · intro recovers
      rcases (recovers (call, outcome) (by simp)).1 with isGuarded | ok
      · simp [guarded] at isGuarded
      · simp [failed] at ok

theorem tagged_snoc (env : Environment) (past : Trace) (command : Command) (guarded : Bool) (outcome : Outcome) :
    Tagged env (past ++ [(⟨.rollback, guarded, command⟩, outcome)]) ↔ Tagged env past := by
  simp [Tagged, or_and_right, exists_or]

theorem recoverable_snoc (env : Environment) (past : Trace) (command : Command) (outcome : Outcome) :
    (contract env).recoverable (past ++ [(⟨.rollback, true, command⟩, outcome)]) ↔
      (contract env).recoverable past ∧ Recovers env (Tagged env past) (⟨.rollback, true, command⟩, outcome) := by
  change (∀ step ∈ _, Recovers env (Tagged env _) step) ↔ _
  rw [tagged_snoc, List.forall_mem_append, List.forall_mem_singleton]
  rfl

def Rolling (env : Environment) (trace : Trace) : Prop :=
  ((contract env).recoverable trace ↔ Tagged env trace) ∧ ¬Did (upRollback env) Outcome.issued trace

theorem rolling_inspected (env : Environment) (past : Trace) (outcome : Outcome) (steady : Steady past)
    (ok : outcome.ok = true) : Rolling env (past ++ [(inspectRollback env, outcome)]) := by
  have recovers : Recovers env (Tagged env past) (inspectRollback env, outcome) ↔ Tagged env past :=
    ⟨fun holds => (holds.2 rfl).2, fun tagged => ⟨.inl rfl, fun _ => ⟨ok, tagged⟩⟩⟩
  constructor
  · rw [inspectRollback, recoverable_snoc, tagged_snoc]
    exact ⟨fun holds => recovers.mp holds.2, fun tagged => ⟨steady_recovers env past steady, recovers.mpr tagged⟩⟩
  · intro up
    rcases (did_snoc past _ outcome _ _).mp up with earlier | last
    · exact steady_not_did past steady _ _ rfl earlier
    · simp [inspectRollback, upRollback] at last

theorem settled_without_image (env : Environment) (past : Trace) (outcome : Outcome) (steady : Steady past)
    (failed : ¬outcome.ok = true) : (contract env).Settled (past ++ [(inspectRollback env, outcome)]) := by
  constructor
  · rintro ⟨_, up⟩
    rcases (did_snoc past _ outcome _ _).mp up with earlier | last
    · exact absurd earlier (steady_not_did past steady _ _ rfl)
    · simp [inspectRollback, upRollback] at last
  · intro recovers
    exact absurd ((recovers (inspectRollback env, outcome) (by simp)).2 rfl).1 failed

theorem settled_by_up (env : Environment) (past : Trace) (outcome : Outcome) (rolling : Rolling env past) :
    (contract env).Settled (past ++ [(upRollback env, outcome)]) := by
  have recovers : Recovers env (Tagged env past) (upRollback env, outcome) :=
    ⟨.inl rfl, by simp [upRollback, inspectRollback]⟩
  have restored : (contract env).restored (past ++ [(upRollback env, outcome)]) ↔ Tagged env past := by
    change Tagged env _ ∧ _ ↔ _
    rw [upRollback, tagged_snoc]
    exact ⟨And.left, fun tagged => ⟨tagged, did_here past _ outcome _ rfl⟩⟩
  rw [Contract.Settled, restored, upRollback, recoverable_snoc, rolling.1]
  exact ⟨fun tagged => ⟨tagged, recovers⟩, And.left⟩

theorem settled_later (env : Environment) (past : Trace) (command : Command) (outcome : Outcome)
    (settled : (contract env).Settled past) (inspects : ∀ image, command ≠ .inspectImage image)
    (starts : ∀ tag, command ≠ .composeUp tag) :
    (contract env).Settled (past ++ [(⟨.rollback, true, command⟩, outcome)]) := by
  have recovers : Recovers env (Tagged env past) (⟨.rollback, true, command⟩, outcome) :=
    ⟨.inl rfl, fun same => absurd (congrArg Call.command same) (inspects _)⟩
  have restored : (contract env).restored (past ++ [(⟨.rollback, true, command⟩, outcome)]) ↔
      (contract env).restored past := by
    change Tagged env _ ∧ _ ↔ Tagged env past ∧ _
    rw [tagged_snoc, did_snoc]
    refine and_congr_right (fun _ => or_iff_left ?_)
    exact fun last => starts _ (congrArg Call.command last.1)
  rw [Contract.Settled] at settled
  rw [Contract.Settled, restored, recoverable_snoc, settled]
  exact ⟨fun holds => ⟨holds, recovers⟩, And.left⟩

def Stays {α : Type} (env : Environment) (script : Script Trace Outcome α) : Prop :=
  Ensures (contract env).Settled script (fun _ => (contract env).Settled) (contract env).Exact (fun _ => True)

theorem stays_attempt (env : Environment) (command : Command) (inspects : ∀ image, command ≠ .inspectImage image)
    (starts : ∀ tag, command ≠ .composeUp tag) : Stays env (attempt record .rollback command) :=
  ensures_attempt .rollback command _ (fun _ _ => trivial)
    (fun past outcome settled => settled_later env past command outcome settled inspects starts)

theorem stays_capture (env : Environment) (command : Command) (inspects : ∀ image, command ≠ .inspectImage image)
    (starts : ∀ tag, command ≠ .composeUp tag) : Stays env (capture record .rollback command) :=
  ensures_capture .rollback command _ (fun _ _ => trivial)
    (fun past outcome settled => settled_later env past command outcome settled inspects starts)

theorem stays_wait (env : Environment) (container : Str) (deadline : Nat) :
    Stays env (waitForComposeReady record .rollback container deadline) := by
  have later (command : Command) (inspects : ∀ image, command ≠ .inspectImage image)
      (starts : ∀ tag, command ≠ .composeUp tag) (past : Trace) (outcome : Outcome)
      (settled : (contract env).Settled past) :=
    settled_later env past command outcome settled inspects starts
  refine ensures_weaken _ _ _ (ensures_wait .rollback container deadline (contract env).Settled (contract env).Settled
    (fun _ _ => trivial) ?_ ?_ ?_) (fun ready trace done => by simpa using done)
  · intro past outcome settled
    have after := later (.status container) (by simp) (by simp) past outcome settled
    exact ⟨after, fun _ => after⟩
  · intro past outcome settled
    have after := later (.probe container) (by simp) (by simp) past outcome settled
    exact ⟨after, fun _ => after⟩
  · intro past outcome command idle settled
    exact later command (by rcases idle with rfl | rfl <;> simp) (by rcases idle with rfl | rfl <;> simp)
      past outcome settled

theorem rollback_failed_stays (env : Environment) : Stays env (rollbackFailed record) :=
  ensures_bind _ _ _ _ (stays_attempt env .composeLogs (by simp) (by simp))
    (fun _ => ensures_result _ false (fun _ done => done))

theorem verify_rollback_host_stays (env : Environment) (container : Str) :
    Stays env (verifyRollbackHost record env container) := by
  refine ensures_bind _ _ _ _ (stays_capture env (.readinessPath container) (by simp) (by simp)) ?_
  intro readinessPath
  refine ensures_bind _ _ _ _ (stays_capture env (.hostPort container) (by simp) (by simp)) ?_
  intro hostPort
  refine ensures_if _ _ _ _ (fun _ => rollback_failed_stays env) ?_
  intro _
  refine ensures_bind _ _ _ _ (stays_attempt env _ (by simp) (by simp)) ?_
  intro reachable
  refine ensures_if _ _ _ _ ?_ (fun _ => rollback_failed_stays env)
  exact fun _ => ensures_result _ true (fun _ done => done)

theorem verify_rollback_stays (env : Environment) (container : Str) :
    Stays env (verifyRollback record env container) := by
  refine ensures_bind _ _ _ _ (ensures_seconds .rollback (fun _ _ => trivial) ?_) ?_
  · exact fun past outcome settled => settled_later env past .seconds outcome settled (by simp) (by simp)
  intro now
  refine ensures_bind _ _ _ _ (stays_wait env container (now + env.healthTimeout)) ?_
  intro ready
  exact ensures_if _ _ _ _ (fun _ => verify_rollback_host_stays env container) (fun _ => rollback_failed_stays env)

theorem rollback_compose_deployment_settles (env : Environment) :
    Ensures (fun trace => Steady trace ∧ True) (rollbackComposeDeployment record env)
      (fun _ => (contract env).Settled) (contract env).Exact (fun _ => True) := by
  refine ensures_bind _ _ (fun available trace => if available = true then Rolling env trace
    else (contract env).Settled trace) _ (ensures_attempt _ _ _ (fun _ _ => trivial) ?inspect) ?_
  case inspect =>
    intro past outcome before
    change if outcome.ok = true then Rolling env (past ++ [(inspectRollback env, outcome)])
      else (contract env).Settled (past ++ [(inspectRollback env, outcome)])
    by_cases ok : outcome.ok = true
    · rw [if_pos ok]
      exact rolling_inspected env past outcome before.1 ok
    · rw [if_neg ok]
      exact settled_without_image env past outcome before.1 ok
  intro available
  refine ensures_if _ _ _ _ ?_ (fun missing => ensures_result _ false (fun _ done => by simpa [missing] using done))
  intro found
  simp only [found, if_true]
  refine ensures_bind _ _ (fun _ => (contract env).Settled) _ (ensures_attempt _ _ _ (fun _ _ => trivial) ?up) ?_
  case up => exact fun past outcome rolling => settled_by_up env past outcome rolling
  intro _
  refine ensures_bind _ _ _ _ (stays_capture env .composeId (by simp) (by simp)) ?_
  intro container
  exact ensures_if _ _ _ _ (fun _ => ensures_result _ false (fun _ done => done))
    (fun _ => verify_rollback_stays env container)

theorem roll_back_and_exit_finishes (env : Environment) :
    Finishes (contract env) (fun _ => True) (rollBackAndExit record env) :=
  finishes_settled _ (rollback_compose_deployment_settles env)

theorem log_and_roll_back_finishes (env : Environment) :
    Finishes (contract env) (fun _ => True) (logAndRollBack record env) :=
  ensures_bind _ _ _ _ (meets_strict .verify _ (fun _ _ _ => trivial) (by simp))
    (fun _ => meets_forgotten _ _ _ (roll_back_and_exit_finishes env))

theorem clean_up_finishes (env : Environment) (fact : Trace → Prop) (lasting : Lasting fact)
    (verified : ∀ trace, fact trace → (contract env).verified trace) :
    Finishes (contract env) fact (cleanUp record env) := by
  have ends (trace : Trace) (steady : Steady trace) (holds : fact trace) : (contract env).Exact 0 trace :=
    (contract env).exact_verified trace steady (verified trace holds)
  refine ensures_bind _ _ _ _ (meets_attempt .finish _ lasting (by simp)) ?_
  intro left
  refine ensures_if _ _ _ _ ?_ (fun _ => ensures_result _ () (fun trace done => ends trace done.1.1 done.1.2))
  intro _
  refine ensures_from _ _ _ (ensures_bind _ _ _ _ (meets_attempt .finish _ lasting (by simp)) ?_)
    (fun _ done => done.1)
  exact fun _ => ensures_result _ () (fun trace done => ends trace done.1.1 done.1.2)

theorem verify_published_finishes (env : Environment) (imageRef hostPort readinessPath : Str) (fact : Trace → Prop)
    (lasting : Lasting fact) (verified : ∀ trace, fact trace →
      Did ⟨.verify, true, .runProbe (probeArgs env imageRef hostPort readinessPath)⟩ Outcome.ok trace →
        (contract env).verified trace) :
    Finishes (contract env) fact (verifyPublished record env imageRef hostPort readinessPath) := by
  have gives_up : Finishes (contract env) fact (logAndRollBack record env) :=
    ensures_from _ _ _ (log_and_roll_back_finishes env) (fun _ done => ⟨done.1, trivial⟩)
  refine ensures_if _ _ _ _ (fun _ => gives_up) ?_
  intro _
  refine ensures_bind _ _ _ _ (meets_attempt .verify _ lasting (by simp)) ?_
  intro reachable
  refine ensures_if _ _ _ _ ?_ (fun _ => meets_forgotten _ _ _ (log_and_roll_back_finishes env))
  intro reached
  refine meets_learned_if _ reached _ _ _ ?_
  exact clean_up_finishes env _ (lasting_and _ _ lasting (did_lasting _ _))
    (fun trace both => verified trace both.1 both.2)

def Inside (container imageRef : Str) (trace : Trace) : Prop :=
  (Created container trace ∧ Did ⟨.verify, false, .imageReference container⟩ (Outcome.prints imageRef) trace) ∧
    PassedInside .verify container trace

theorem verify_host_finishes (env : Environment) (container imageRef : Str) :
    Finishes (contract env) (Inside container imageRef) (verifyHost record env container imageRef) := by
  have inside : Lasting (Inside container imageRef) :=
    lasting_and _ _ (lasting_and _ _ (did_lasting _ _) (did_lasting _ _)) (passed_inside_lasting _ _)
  refine ensures_bind _ _ _ _ (meets_strict .verify _ inside (by simp)) ?_
  intro readinessPath
  have recorded := lasting_and _ _ inside (did_lasting ⟨.verify, false, .readinessPath container⟩
    (Outcome.prints readinessPath))
  refine meets_learned _ _ _ (ensures_bind _ _ _ _ (meets_strict .verify _ recorded (by simp)) ?_)
  intro hostPort
  refine meets_learned _ _ _ ?_
  refine verify_published_finishes env imageRef hostPort readinessPath _ (lasting_and _ _ recorded (did_lasting _ _)) ?_
  rintro trace ⟨⟨⟨⟨created, image⟩, passed⟩, path⟩, port⟩ probed
  exact ⟨container, imageRef, hostPort, readinessPath, created, image, passed, path, port, probed⟩

theorem report_status_finishes (env : Environment) (container : Str) :
    Finishes (contract env) (fun _ => True) (reportStatus record env container) :=
  ensures_bind _ _ _ _ (meets_strict .verify _ (fun _ _ _ => trivial) (by simp))
    (fun _ => meets_forgotten _ _ _ (log_and_roll_back_finishes env))

theorem verify_finishes (env : Environment) (container : Str) :
    Finishes (contract env) (Created container) (verify record env container) := by
  have created : Lasting (Created container) := did_lasting _ _
  refine ensures_bind _ _ _ _ (meets_strict .verify _ created (by simp)) ?_
  intro imageRef
  have recorded := lasting_and _ _ created (did_lasting ⟨.verify, false, .imageReference container⟩
    (Outcome.prints imageRef))
  refine meets_learned _ _ _ (ensures_bind _ _ _ _ (meets_seconds .verify recorded (by simp)) ?_)
  intro now
  refine ensures_bind _ _ _ _ (meets_wait .verify container _ recorded (by simp)) ?_
  intro ready
  refine ensures_if _ _ _ _ ?_ (fun _ => meets_forgotten _ _ _ (report_status_finishes env container))
  exact fun passed => meets_learned_if _ passed _ _ _ (verify_host_finishes env container imageRef)

theorem start_replacement_finishes (env : Environment) :
    Finishes (contract env) (fun _ => True) (startReplacement record env) := by
  refine ensures_bind _ _ _ _ (meets_strict .replace _ (fun _ _ _ => trivial) (by simp)) ?_
  intro _
  refine meets_forgotten _ _ _ (ensures_bind _ _ _ _ (meets_strict .verify _ (fun _ _ _ => trivial) (by simp)) ?_)
  intro container
  refine ensures_if _ _ _ _ (fun _ => meets_forgotten _ _ _ (roll_back_and_exit_finishes env)) ?_
  intro _
  exact ensures_from _ _ _ (verify_finishes env container) (fun _ done => ⟨done.1.1, done.2⟩)

theorem tag_previous_prepares (env : Environment) (container : Str) :
    Prepares (contract env) (tagPrevious record env container) := by
  refine prepares_if _ _ _ _ (prepares_result _ ()) ?_
  refine prepares_bind _ _ _ (prepares_strict _ (.imageId container)) ?_
  intro previousImage
  exact prepares_bind _ _ _ (prepares_strict _ _) (fun _ => prepares_result _ ())

theorem prepare_prepares (env : Environment) : Prepares (contract env) (prepare record env) := by
  refine prepares_bind _ _ _ (require_image_name_prepares _ env) ?_
  intro _
  refine prepares_bind _ _ _ (require_file_prepares _ env.compose) ?_
  intro _
  refine prepares_bind _ _ _ (require_file_prepares _ env.file) ?_
  intro _
  refine prepares_bind _ _ _ (login_to_registry_prepares _ env) ?_
  intro _
  refine prepares_bind _ _ _ (prepares_capture _ .composeId) ?_
  intro previousContainer
  refine prepares_bind _ _ _ (tag_previous_prepares env previousContainer) ?_
  intro _
  exact prepares_bind _ _ _ (prepares_strict _ _) (fun _ => prepares_result _ ())

theorem deploy_exact (env : Environment) : Ensures (fun trace => trace = []) (deploy record env)
    (fun _ => (contract env).Exact 0) (contract env).Exact (fun _ => True) :=
  deploys_exact _ _ _ (prepare_prepares env) (start_replacement_finishes env)

end Compose

def imageRun (env : Environment) (answers : List Outcome) : Ran Trace Outcome Unit := Image.deploy record env [] answers

def composeRun (env : Environment) (answers : List Outcome) : Ran Trace Outcome Unit :=
  Compose.deploy record env [] answers

theorem failed_deploy_restores_iff (env : Environment) (answers : List Outcome) (code : Nat) :
    ((imageRun env answers).ending.exitCode = some code →
      ((Image.contract env).Kept code (imageRun env answers).world ↔
        ((Image.contract env).takenDown (imageRun env answers).world →
          (Image.contract env).recoverable (imageRun env answers).world))) ∧
    ((composeRun env answers).ending.exitCode = some code →
      ((Compose.contract env).Kept code (composeRun env answers).world ↔
        ((Compose.contract env).takenDown (composeRun env answers).world →
          (Compose.contract env).recoverable (composeRun env answers).world))) := by
  constructor
  · exact exits_exact (Image.contract env) _ answers code (Image.deploy_exact env)
  · exact exits_exact (Compose.contract env) _ answers code (Compose.deploy_exact env)

def failure : Outcome := ⟨1, true, [], 0⟩

def unreadableReplacement : List Outcome :=
  [succeeded "", succeeded "", succeeded "", succeeded "", succeeded "", succeeded "", succeeded "", succeeded "",
    succeeded "", succeeded "healthy", succeeded "", failure]

def failedUp : List Outcome :=
  [succeeded "", succeeded "", succeeded "1a2b", succeeded "sha256:0c", succeeded "", succeeded "", failure]

theorem failed_deploy_restores_iff_unreadable :
    (imageRun appImage unreadableReplacement).ending.exitCode = some 1 ∧
    ((Image.contract appImage).Kept 1 (imageRun appImage unreadableReplacement).world ↔
      ((Image.contract appImage).takenDown (imageRun appImage unreadableReplacement).world →
        (Image.contract appImage).recoverable (imageRun appImage unreadableReplacement).world)) ∧
    (composeRun appImage failedUp).ending.exitCode = some 1 ∧
    ((Compose.contract appImage).Kept 1 (composeRun appImage failedUp).world ↔
      ((Compose.contract appImage).takenDown (composeRun appImage failedUp).world →
        (Compose.contract appImage).recoverable (composeRun appImage failedUp).world)) := by
  have image : (imageRun appImage unreadableReplacement).ending.exitCode = some 1 := by decide
  have compose : (composeRun appImage failedUp).ending.exitCode = some 1 := by decide
  exact ⟨image, (failed_deploy_restores_iff appImage unreadableReplacement 1).1 image, compose,
    (failed_deploy_restores_iff appImage failedUp 1).2 compose⟩

theorem failed_deploy_leaves_previous_down :
    (imageRun appImage unreadableReplacement).ending.exitCode = some 1 ∧
    ¬(Image.contract appImage).Kept 1 (imageRun appImage unreadableReplacement).world ∧
    (composeRun appImage failedUp).ending.exitCode = some 1 ∧
    ¬(Compose.contract appImage).Kept 1 (composeRun appImage failedUp).world := by
  refine ⟨by decide, ?_, by decide, ?_⟩
  · intro kept
    have down : Did (Image.stopPrevious appImage) Outcome.effective (imageRun appImage unreadableReplacement).world := by
      decide
    have restored := kept.2 (by simp) (.inl down)
    have started : ¬Did (Image.startPrevious appImage) Outcome.issued
        (imageRun appImage unreadableReplacement).world := by decide
    exact started restored.2.2
  · intro kept
    have down : Did ⟨.replace, false, .composeUp appImage.tag⟩ Outcome.effective (composeRun appImage failedUp).world := by
      decide
    have restored := kept.2 (by simp) down
    have started : ¬Did (Compose.upRollback appImage) Outcome.issued (composeRun appImage failedUp).world := by decide
    exact started restored.2

end Chassis.Deploy
