import Chassis.DeployImage
import Mathlib.Logic.Function.Basic

set_option autoImplicit false

namespace Chassis.Deploy

open Shell

structure Container where
  healthy : Bool
  ready : Bool
  reachable : Bool
deriving DecidableEq

def Container.created : Container := ⟨false, false, false⟩

def Container.verified (container : Container) : Bool := container.healthy && container.ready && container.reachable

abbrev Docker := Str → Option Container

def Docker.holds (docker : Docker) (name : Str) (stage : Container → Bool) : Bool := (docker name).any stage

def Docker.mark (docker : Docker) (name : Str) (passed : Container → Container) : Docker :=
  Function.update docker name ((docker name).map passed)

def Outcome.refused (outcome : Outcome) : Outcome :=
  { outcome with code := max 1 outcome.code, applied := false, output := [] }

def Outcome.whenever (outcome : Outcome) (possible : Bool) : Outcome := if possible then outcome else outcome.refused

-- What docker does for a command that it would answer with the outcome if the
-- containers allow it. The host-level probe reaches the container of the name.
def Docker.answer (name : Str) (docker : Docker) (command : Command) (outcome : Outcome) : Docker × Outcome :=
  match command with
  | .remove container => (if outcome.effective then Function.update docker container none else docker, outcome)
  | .rename container target =>
      let answer := outcome.whenever ((docker container).isSome && (docker target).isNone)
      (if answer.effective then Function.update (Function.update docker container none) target (docker container)
        else docker, answer)
  | .run container _ _ =>
      let answer := outcome.whenever (docker container).isNone
      (if answer.effective then Function.update docker container (some .created) else docker, answer)
  | .status container =>
      let answer := outcome.whenever (docker container).isSome
      (if answer.healthy then docker.mark container (fun found => { found with healthy := true }) else docker, answer)
  | .probe container =>
      let answer := outcome.whenever (docker container).isSome
      (if answer.ok then docker.mark container (fun found => { found with ready := true }) else docker, answer)
  | .runProbe _ =>
      (if outcome.ok then docker.mark name (fun found => { found with reachable := true }) else docker, outcome)
  | .inspectContainer container => (docker, outcome.whenever (docker container).isSome)
  | .stop container => (docker, outcome.whenever (docker container).isSome)
  | .start container => (docker, outcome.whenever (docker container).isSome)
  | .readinessPath container => (docker, outcome.whenever (docker container).isSome)
  | .logs container => (docker, outcome.whenever (docker container).isSome)
  | _ => (docker, outcome)

structure Moment where
  docker : Docker
  call : Call
  outcome : Outcome

structure Host where
  docker : Docker
  moments : List Moment

def Host.perform (name : Str) (host : Host) (call : Call) (outcome : Outcome) : Host × Outcome :=
  let (docker, answer) := host.docker.answer name call.command outcome
  (⟨docker, host.moments ++ [⟨host.docker, call, answer⟩]⟩, answer)

-- A run whose answers are used up was killed before its next command.
def deployAll (name : Str) : List (Environment × List Outcome) → Host → Host
  | [], host => host
  | (env, answers) :: rest, host => deployAll name rest (Image.deploy (Host.perform name) env host answers).world

def preservedName (name : Str) : Str := name ++ "-rollback".toList

def Safe (name : Str) (docker : Docker) : Prop :=
  docker.holds name Container.verified = true ∨ docker.holds (preservedName name) Container.verified = true

instance (name : Str) (docker : Docker) : Decidable (Safe name docker) :=
  inferInstanceAs (Decidable (_ ∨ _))

def AlwaysSafe (name : Str) (host : Host) : Prop :=
  (∀ moment ∈ host.moments, Safe name moment.docker) ∧ Safe name host.docker

def removeLeftover (name : Str) : Call := ⟨.replace, true, .remove (preservedName name)⟩

def removeFailed (name : Str) : Call := ⟨.rollback, true, .remove name⟩

def Permitted (name : Str) (moment : Moment) : Prop :=
  (moment.call = removeLeftover name → moment.outcome.effective = true →
    moment.docker.holds name Container.verified = true) ∧
  (moment.call = removeFailed name → moment.outcome.effective = true →
    moment.docker.holds (preservedName name) Container.verified = true)

def Kept (name : Str) (host : Host) : Prop := AlwaysSafe name host ↔ ∀ moment ∈ host.moments, Permitted name moment

theorem whenever_effective (outcome : Outcome) (possible : Bool)
    (effective : (outcome.whenever possible).effective = true) : possible = true := by
  cases possible with
  | true => rfl
  | false => simp [Outcome.whenever, Outcome.effective, Outcome.ok, Outcome.refused] at effective

theorem names_differ (name : Str) : preservedName name ≠ name := by
  simp [preservedName]

theorem holds_update_self (docker : Docker) (name : Str) (value : Option Container) (stage : Container → Bool) :
    Docker.holds (Function.update docker name value) name stage = value.any stage := by
  simp [Docker.holds]

theorem holds_update_other (docker : Docker) (name other : Str) (value : Option Container) (stage : Container → Bool)
    (different : other ≠ name) : Docker.holds (Function.update docker name value) other stage = docker.holds other stage := by
  simp [Docker.holds, different]

theorem holds_mark (docker : Docker) (marked name : Str) (passed : Container → Container)
    (stage : Container → Bool) (grows : ∀ found, stage found = true → stage (passed found) = true)
    (holds : docker.holds name stage = true) : (docker.mark marked passed).holds name stage = true := by
  by_cases same : name = marked
  · subst same
    rw [Docker.mark, holds_update_self]
    cases found : docker name with
    | none => simp [Docker.holds, found] at holds
    | some container =>
        have before : stage container = true := by simpa [Docker.holds, found] using holds
        simpa using grows container before
  · rw [Docker.mark, holds_update_other docker marked name _ stage same]
    exact holds

def Gentle (name : Str) (call : Call) : Prop :=
  ∀ docker outcome, Safe name docker →
    (Safe name (docker.answer name call.command outcome).1 ↔
      Permitted name ⟨docker, call, (docker.answer name call.command outcome).2⟩)

theorem kept_after (name : Str) (host : Host) (call : Call) (outcome : Outcome) (kept : Kept name host)
    (gentle : Safe name host.docker → (Safe name (host.docker.answer name call.command outcome).1 ↔
      Permitted name ⟨host.docker, call, (host.docker.answer name call.command outcome).2⟩)) :
    Kept name (host.perform name call outcome).1 := by
  have always : AlwaysSafe name (host.perform name call outcome).1 ↔
      AlwaysSafe name host ∧ Safe name (host.docker.answer name call.command outcome).1 := by
    simp [AlwaysSafe, Host.perform, or_imp, forall_and]
  have permitted : (∀ moment ∈ (host.perform name call outcome).1.moments, Permitted name moment) ↔
      (∀ moment ∈ host.moments, Permitted name moment) ∧
        Permitted name ⟨host.docker, call, (host.docker.answer name call.command outcome).2⟩ := by
    simp [Host.perform, or_imp, forall_and]
  rw [Kept] at kept
  rw [Kept, always, permitted, ← kept]
  exact and_congr_right (fun safe => gentle safe.2)

theorem safe_mark (name marked : Str) (docker : Docker) (passed : Container → Container)
    (grows : ∀ found : Container, found.verified = true → (passed found).verified = true) (safe : Safe name docker) :
    Safe name (docker.mark marked passed) :=
  safe.imp (holds_mark docker marked name passed _ grows) (holds_mark docker marked _ passed _ grows)

theorem safe_run (name container : Str) (docker : Docker) (free : (docker container).isNone = true)
    (safe : Safe name docker) : Safe name (Function.update docker container (some .created)) := by
  have elsewhere (held : Str) (holds : docker.holds held Container.verified = true) : held ≠ container := by
    rintro rfl
    simp [Docker.holds, Option.isNone_iff_eq_none.mp free] at holds
  refine safe.imp ?_ ?_
  · intro holds
    rwa [holds_update_other _ _ _ _ _ (elsewhere name holds)]
  · intro holds
    rwa [holds_update_other _ _ _ _ _ (elsewhere _ holds)]

theorem holds_renamed (docker : Docker) (container target held : Str) (different : target ≠ container)
    (free : (docker target).isNone = true) (two : held = container ∨ held = target)
    (holds : docker.holds held Container.verified = true) :
    Docker.holds (Function.update (Function.update docker container none) target (docker container)) target
      Container.verified = true := by
  rw [holds_update_self]
  rcases two with rfl | rfl
  · exact holds
  · simp [Docker.holds, Option.isNone_iff_eq_none.mp free] at holds

theorem answer_safe (name : Str) (docker : Docker) (command : Command) (outcome : Outcome)
    (kept : ∀ container, command ≠ .remove container)
    (renames : ∀ container target, command = .rename container target →
      (container = name ∧ target = preservedName name) ∨ (container = preservedName name ∧ target = name))
    (safe : Safe name docker) : Safe name (docker.answer name command outcome).1 := by
  cases command with
  | remove container => exact absurd rfl (kept container)
  | rename container target =>
      simp only [Docker.answer]
      split
      · next effective =>
          have free : (docker target).isNone = true := (Bool.and_eq_true_iff.mp (whenever_effective _ _ effective)).2
          rcases renames container target rfl with ⟨rfl, rfl⟩ | ⟨rfl, rfl⟩
          · refine .inr ?_
            rcases safe with current | preserved
            · exact holds_renamed docker _ _ _ (names_differ _) free (.inl rfl) current
            · exact holds_renamed docker _ _ _ (names_differ _) free (.inr rfl) preserved
          · refine .inl ?_
            rcases safe with current | preserved
            · exact holds_renamed docker _ _ _ (names_differ _).symm free (.inr rfl) current
            · exact holds_renamed docker _ _ _ (names_differ _).symm free (.inl rfl) preserved
      · exact safe
  | run container options image =>
      simp only [Docker.answer]
      split
      · next effective => exact safe_run name container docker (whenever_effective _ _ effective) safe
      · exact safe
  | status container =>
      simp only [Docker.answer]
      split
      · exact safe_mark name container docker _ (fun found verified => by simp_all [Container.verified]) safe
      · exact safe
  | probe container =>
      simp only [Docker.answer]
      split
      · exact safe_mark name container docker _ (fun found verified => by simp_all [Container.verified]) safe
      · exact safe
  | runProbe arguments =>
      simp only [Docker.answer]
      split
      · exact safe_mark name name docker _ (fun found verified => by simp_all [Container.verified]) safe
      · exact safe
  | _ => exact safe

theorem gentle_other (name : Str) (call : Call) (kept : ∀ container, call.command ≠ .remove container)
    (renames : ∀ container target, call.command = .rename container target →
      (container = name ∧ target = preservedName name) ∨ (container = preservedName name ∧ target = name)) :
    Gentle name call := by
  intro docker outcome safe
  refine iff_of_true (answer_safe name docker call.command outcome kept renames safe) ⟨?_, ?_⟩
  · exact fun leftover => absurd (congrArg Call.command leftover) (kept _)
  · exact fun failed => absurd (congrArg Call.command failed) (kept _)

theorem gentle_plain (name : Str) (place : Place) (guarded : Bool) (command : Command)
    (kept : ∀ container, command ≠ .remove container) (renames : ∀ container target, command ≠ .rename container target) :
    Gentle name ⟨place, guarded, command⟩ :=
  gentle_other name _ kept (fun container target same => absurd same (renames container target))

theorem safe_without_preserved (name : Str) (docker : Docker) :
    Safe name (Function.update docker (preservedName name) none) ↔ docker.holds name Container.verified = true := by
  rw [Safe, holds_update_self, holds_update_other _ _ _ _ _ (names_differ name).symm]
  simp

theorem safe_without_current (name : Str) (docker : Docker) :
    Safe name (Function.update docker name none) ↔ docker.holds (preservedName name) Container.verified = true := by
  rw [Safe, holds_update_self, holds_update_other _ _ _ _ _ (names_differ name)]
  simp

theorem gentle_leftover (name : Str) : Gentle name (removeLeftover name) := by
  intro docker outcome safe
  have permitted : Permitted name ⟨docker, removeLeftover name, outcome⟩ ↔
      (outcome.effective = true → docker.holds name Container.verified = true) := by
    simp [Permitted, removeLeftover, removeFailed]
  simp only [removeLeftover, Docker.answer] at permitted ⊢
  rw [permitted]
  by_cases effective : outcome.effective = true
  · rw [if_pos effective, safe_without_preserved]
    exact ⟨fun holds _ => holds, fun holds => holds effective⟩
  · rw [if_neg effective]
    exact iff_of_true safe (fun removed => absurd removed effective)

theorem gentle_failed (name : Str) : Gentle name (removeFailed name) := by
  intro docker outcome safe
  have permitted : Permitted name ⟨docker, removeFailed name, outcome⟩ ↔
      (outcome.effective = true → docker.holds (preservedName name) Container.verified = true) := by
    simp [Permitted, removeLeftover, removeFailed]
  simp only [removeFailed, Docker.answer] at permitted ⊢
  rw [permitted]
  by_cases effective : outcome.effective = true
  · rw [if_pos effective, safe_without_current]
    exact ⟨fun holds _ => holds, fun holds => holds effective⟩
  · rw [if_neg effective]
    exact iff_of_true safe (fun removed => absurd removed effective)

section Runs

variable (name : Str)

def Keeps {α : Type} (script : Script Host Outcome α) : Prop :=
  Ensures (Kept name) script (fun _ => Kept name) (fun _ => Kept name) (Kept name)

theorem keeps_result {α : Type} (a : α) : Keeps name (pure a) := ensures_result _ a (fun _ kept => kept)

theorem keeps_exit {α : Type} (code : Nat) : Keeps name (exit code : Script Host Outcome α) :=
  ensures_exit _ code (fun _ kept => kept)

theorem keeps_bind {α β : Type} (script : Script Host Outcome α) (next : α → Script Host Outcome β)
    (first : Keeps name script) (second : ∀ a, Keeps name (next a)) : Keeps name (script >>= next) :=
  ensures_bind script next _ _ first second

theorem keeps_if {α : Type} (condition : Prop) [Decidable condition] (yes no : Script Host Outcome α)
    (whenTrue : Keeps name yes) (whenFalse : Keeps name no) : Keeps name (if condition then yes else no) :=
  ensures_if condition yes no _ (fun _ => whenTrue) (fun _ => whenFalse)

theorem keeps_attempt (place : Place) (command : Command) (gentle : Gentle name ⟨place, true, command⟩) :
    Keeps name (attempt (Host.perform name) place command) :=
  ensures_attempt place command _ (fun _ kept => kept)
    (fun host outcome kept => kept_after name host _ outcome kept (gentle host.docker outcome))

theorem keeps_strict (place : Place) (command : Command) (gentle : Gentle name ⟨place, false, command⟩) :
    Keeps name (strict (Host.perform name) place command) :=
  ensures_strict place command _ (fun _ kept => kept)
    (fun host outcome kept _ => kept_after name host _ outcome kept (gentle host.docker outcome))
    (fun host outcome kept _ => kept_after name host _ outcome kept (gentle host.docker outcome))

def At (stage : Container → Bool) (host : Host) : Prop := Kept name host ∧ host.docker.holds name stage = true

theorem at_mark (docker : Docker) (before after : Container → Bool) (passed : Container → Container)
    (passes : ∀ found, before found = true → after (passed found) = true) (holds : docker.holds name before = true) :
    (docker.mark name passed).holds name after = true := by
  rw [Docker.mark, holds_update_self]
  cases found : docker name with
  | none => simp [Docker.holds, found] at holds
  | some container => simpa using passes container (by simpa [Docker.holds, found] using holds)

theorem holds_weaken (docker : Docker) (stage weaker : Container → Bool)
    (implies : ∀ found, stage found = true → weaker found = true) (holds : docker.holds name stage = true) :
    docker.holds name weaker = true := by
  obtain ⟨container, found, passed⟩ := Option.any_eq_true _ _ |>.mp holds
  exact (Option.any_eq_true _ _).mpr ⟨container, found, implies container passed⟩

theorem at_after (stage later : Container → Bool) (place : Place) (command : Command) (host : Host) (outcome : Outcome)
    (before : At name stage host) (gentle : Gentle name ⟨place, true, command⟩)
    (holds : (host.docker.answer name command outcome).1.holds name later = true) :
    At name later (Host.perform name host ⟨place, true, command⟩ outcome).1 :=
  ⟨kept_after name host _ outcome before.1 (gentle host.docker outcome), holds⟩

theorem wait_reaches (place : Place) (deadline : Nat) :
    Ensures (At name (fun _ => true)) (waitForReady (Host.perform name) place name deadline)
      (fun ready host => if ready = true then At name (fun found => found.healthy && found.ready) host
        else At name (fun _ => true) host) (fun _ => Kept name) (Kept name) := by
  refine ensures_wait place name deadline (At name Container.healthy) _ (fun _ before => before.1) ?status ?probe ?idle
  case status =>
    intro host outcome before
    have gently := gentle_plain name place true (.status name) (by simp) (by simp)
    constructor
    · refine at_after name _ _ place _ host outcome before gently ?_
      simp only [Docker.answer]
      split
      · exact at_mark name host.docker _ _ _ (fun _ _ => rfl) before.2
      · exact before.2
    · intro reads
      have read : (outcome.whenever (host.docker name).isSome).output = "healthy".toList := reads
      have healthy : (outcome.whenever (host.docker name).isSome).healthy = true := beq_iff_eq.mpr read
      refine at_after name _ _ place _ host outcome before gently ?_
      simp only [Docker.answer, healthy, if_true]
      exact at_mark name host.docker _ _ _ (fun _ _ => rfl) before.2
  case probe =>
    intro host outcome before
    have gently := gentle_plain name place true (.probe name) (by simp) (by simp)
    constructor
    · refine at_after name _ _ place _ host outcome before gently ?_
      simp only [Docker.answer]
      split
      · exact at_mark name host.docker _ _ _ (fun _ _ => rfl) before.2
      · simpa using holds_weaken name host.docker _ (fun _ => true) (fun _ _ => rfl) before.2
    · intro ok
      have answered : (outcome.whenever (host.docker name).isSome).ok = true := ok
      refine at_after name _ _ place _ host outcome before gently ?_
      simp only [Docker.answer, answered, if_true]
      exact at_mark name host.docker _ _ _ (fun found healthy => by simpa using healthy) before.2
  case idle =>
    intro host outcome command idle before
    have gently : Gentle name ⟨place, true, command⟩ := by
      rcases idle with rfl | rfl
      · exact gentle_plain name place true _ (by simp) (by simp)
      · exact gentle_plain name place true _ (by simp) (by simp)
    refine at_after name _ _ place command host outcome before gently ?_
    rcases idle with rfl | rfl
    · exact before.2
    · exact before.2

end Runs

section Image

open Image

variable (env : Environment)

theorem gentle_preserve (place : Place) (guarded : Bool) :
    Gentle env.container ⟨place, guarded, .rename env.container (rollbackName env)⟩ := by
  refine gentle_other _ _ (by simp) ?_
  rintro container target ⟨⟩
  exact .inl ⟨rfl, rfl⟩

theorem gentle_restore (place : Place) (guarded : Bool) :
    Gentle env.container ⟨place, guarded, .rename (rollbackName env) env.container⟩ := by
  refine gentle_other _ _ (by simp) ?_
  rintro container target ⟨⟩
  exact .inr ⟨rfl, rfl⟩

theorem rollback_previous_container_keeps :
    Keeps env.container (rollbackPreviousContainer (Host.perform env.container) env) := by
  refine keeps_bind _ _ _ (keeps_attempt _ _ _ (gentle_plain _ _ _ _ (by simp) (by simp))) ?_
  intro preserved
  refine keeps_if _ _ _ _ ?_ (keeps_result _ ())
  refine keeps_bind _ _ _ (keeps_attempt _ _ _ (gentle_failed env.container)) ?_
  intro _
  refine keeps_bind _ _ _ (keeps_strict _ _ _ (gentle_restore env _ _)) ?_
  intro _
  exact keeps_bind _ _ _ (keeps_strict _ _ _ (gentle_plain _ _ _ _ (by simp) (by simp))) (fun _ => keeps_result _ ())

theorem roll_back_and_exit_keeps : Keeps env.container (rollBackAndExit (Host.perform env.container) env) :=
  keeps_bind _ _ _ (rollback_previous_container_keeps env) (fun _ => keeps_exit _ 1)

theorem log_and_roll_back_keeps : Keeps env.container (logAndRollBack (Host.perform env.container) env) :=
  keeps_bind _ _ _ (keeps_attempt _ _ _ (gentle_plain _ _ _ _ (by simp) (by simp)))
    (fun _ => roll_back_and_exit_keeps env)

theorem report_status_keeps : Keeps env.container (reportStatus (Host.perform env.container) env) :=
  keeps_bind _ _ _ (keeps_strict _ _ _ (gentle_plain _ _ _ _ (by simp) (by simp)))
    (fun _ => log_and_roll_back_keeps env)

theorem prepare_keeps : Keeps env.container (prepare (Host.perform env.container) env) := by
  have strictly (command : Command) (kept : ∀ container, command ≠ .remove container)
      (renames : ∀ container target, command ≠ .rename container target) :
      Keeps env.container (strict (Host.perform env.container) .prepare command) :=
    keeps_strict _ _ _ (gentle_plain _ _ _ _ kept renames)
  refine keeps_bind _ _ _ (keeps_if _ _ _ _ (keeps_exit _ 1) (keeps_result _ ())) ?_
  intro _
  refine keeps_bind _ _ _ (keeps_bind _ _ _ (keeps_attempt _ _ _ (gentle_plain _ _ _ _ (by simp) (by simp))) ?_) ?_
  · exact fun found => keeps_if _ _ _ _ (keeps_result _ ()) (keeps_exit _ 1)
  intro _
  refine keeps_bind _ _ _ (strictly _ (by simp) (by simp)) ?_
  intro _
  refine keeps_bind _ _ _ (keeps_if _ _ _ _ ?_ (keeps_result _ ())) ?_
  · exact keeps_bind _ _ _ (strictly _ (by simp) (by simp)) (fun _ => keeps_result _ ())
  intro _
  exact keeps_bind _ _ _ (strictly _ (by simp) (by simp)) (fun _ => keeps_result _ ())

theorem preserve_current_keeps : Keeps env.container (preserveCurrent (Host.perform env.container) env) := by
  refine keeps_bind _ _ _ (keeps_attempt _ _ _ (gentle_leftover env.container)) ?_
  intro _
  refine keeps_bind _ _ _ (keeps_attempt _ _ _ (gentle_plain _ _ _ _ (by simp) (by simp))) ?_
  intro running
  refine keeps_if _ _ _ _ ?_ (keeps_result _ ())
  refine keeps_bind _ _ _ (keeps_strict _ _ _ (gentle_plain _ _ _ _ (by simp) (by simp))) ?_
  intro _
  exact keeps_bind _ _ _ (keeps_strict _ _ _ (gentle_preserve env _ _)) (fun _ => keeps_result _ ())

-- Only a run whose replacement has passed every stage gets to the removal of
-- the preserved container, so that removal is always safe.
theorem remove_preserved_keeps : Ensures (At env.container Container.verified)
    (attempt (Host.perform env.container) .finish (.remove (rollbackName env))) (fun _ => Kept env.container)
    (fun _ => Kept env.container) (Kept env.container) := by
  refine ensures_attempt _ _ _ (fun _ before => before.1) ?_
  intro host outcome before
  refine kept_after _ host _ outcome before.1 ?_
  intro safe
  have permitted : Permitted env.container ⟨host.docker, ⟨.finish, true, .remove (rollbackName env)⟩, outcome⟩ := by
    simp [Permitted, removeLeftover, removeFailed]
  refine iff_of_true ?_ permitted
  simp only [Docker.answer]
  split
  · exact (safe_without_preserved env.container host.docker).mpr before.2
  · exact safe

theorem verify_host_keeps : Ensures (At env.container (fun found => found.healthy && found.ready))
    (verifyHost (Host.perform env.container) env) (fun _ => Kept env.container) (fun _ => Kept env.container)
    (Kept env.container) := by
  refine ensures_bind _ _ (fun _ => At env.container (fun found => found.healthy && found.ready)) _
    (ensures_strict _ _ _ (fun _ before => before.1) ?passed ?failed) ?_
  case passed =>
    intro host outcome before _
    exact ⟨kept_after _ host _ outcome before.1 (gentle_plain _ _ _ _ (by simp) (by simp) host.docker outcome), before.2⟩
  case failed =>
    intro host outcome before _
    exact kept_after _ host _ outcome before.1 (gentle_plain _ _ _ _ (by simp) (by simp) host.docker outcome)
  intro readinessPath
  refine ensures_bind _ _ (fun reachable host => Kept env.container host ∧
    (reachable = true → host.docker.holds env.container Container.verified = true)) _
    (ensures_attempt _ _ _ (fun _ before => before.1) ?probe) ?_
  case probe =>
    intro host outcome before
    refine ⟨kept_after _ host _ outcome before.1 (gentle_plain _ _ _ _ (by simp) (by simp) host.docker outcome), ?_⟩
    intro ok
    have answered : outcome.ok = true := ok
    simp only [Host.perform, Docker.answer, answered, if_true]
    exact at_mark _ host.docker _ _ _ (fun found inside => by simpa [Container.verified] using inside) before.2
  intro reachable
  refine ensures_if _ _ _ _ ?_ ?_
  · intro reached
    refine ensures_from _ _ _ (ensures_bind _ _ _ _ (remove_preserved_keeps env) ?_)
      (fun _ done => ⟨done.1, done.2 reached⟩)
    exact fun _ => keeps_result _ ()
  · intro _
    exact ensures_from _ _ _ (log_and_roll_back_keeps env) (fun _ done => done.1)

theorem verify_keeps : Ensures (At env.container (fun _ => true)) (verify (Host.perform env.container) env)
    (fun _ => Kept env.container) (fun _ => Kept env.container) (Kept env.container) := by
  refine ensures_bind _ _ _ _ (ensures_seconds _ (fun _ before => before.1) ?_) ?_
  · intro host outcome before
    exact ⟨kept_after _ host _ outcome before.1 (gentle_plain _ _ _ _ (by simp) (by simp) host.docker outcome), before.2⟩
  intro now
  refine ensures_bind _ _ _ _ (wait_reaches env.container .verify _) ?_
  intro ready
  refine ensures_if _ _ _ _ ?_ ?_
  · intro passed
    simp only [passed, if_true]
    exact verify_host_keeps env
  · intro failed
    simp only [failed, if_false]
    exact ensures_from _ _ _ (report_status_keeps env) (fun _ done => done.1)

theorem start_replacement_keeps : Keeps env.container (startReplacement (Host.perform env.container) env) := by
  refine ensures_bind _ _ (fun started host => Kept env.container host ∧
    (started = true → host.docker.holds env.container (fun _ => true) = true)) _
    (ensures_attempt _ _ _ (fun _ kept => kept) ?run) ?_
  case run =>
    intro host outcome kept
    refine ⟨kept_after _ host _ outcome kept (gentle_plain _ _ _ _ (by simp) (by simp) host.docker outcome), ?_⟩
    intro ok
    have effective : (outcome.whenever (host.docker env.container).isNone).effective = true := by
      have answered : (outcome.whenever (host.docker env.container).isNone).ok = true := ok
      simp [Outcome.effective, answered]
    simp only [Host.perform, Docker.answer, effective, if_true]
    rw [holds_update_self]
    rfl
  intro started
  refine ensures_if _ _ _ _ ?_ ?_
  · intro running
    exact ensures_from _ _ _ (verify_keeps env) (fun _ done => ⟨done.1, done.2 running⟩)
  · intro _
    exact ensures_from _ _ _ (roll_back_and_exit_keeps env) (fun _ done => done.1)

theorem deploy_keeps : Keeps env.container (deploy (Host.perform env.container) env) :=
  keeps_bind _ _ _ (prepare_keeps env)
    (fun _ => keeps_bind _ _ _ (preserve_current_keeps env) (fun _ => start_replacement_keeps env))

end Image

theorem run_keeps (env : Environment) (answers : List Outcome) (host : Host) (kept : Kept env.container host) :
    Kept env.container (Image.deploy (Host.perform env.container) env host answers).world := by
  have ended := deploy_keeps env host answers kept
  rcases ran : Image.deploy (Host.perform env.container) env host answers with ⟨ending, later, rest⟩
  rw [ran] at ended
  cases ending with
  | value _ => exact ended
  | exited _ => exact ended
  | killed => exact ended

theorem deploy_all_keeps (name : Str) (runs : List (Environment × List Outcome)) (host : Host)
    (named : ∀ run ∈ runs, run.1.container = name) (kept : Kept name host) : Kept name (deployAll name runs host) := by
  induction runs generalizing host with
  | nil => exact kept
  | cons run rest ih =>
      obtain ⟨env, answers⟩ := run
      have here : env.container = name := named (env, answers) (by simp)
      refine ih _ (fun later member => named later (by simp [member])) ?_
      subst here
      exact run_keeps env answers host kept

theorem known_good_survives_iff (name : Str) (docker : Docker) (runs : List (Environment × List Outcome))
    (named : ∀ run ∈ runs, run.1.container = name) (good : docker.holds name Container.verified = true) :
    AlwaysSafe name (deployAll name runs ⟨docker, []⟩) ↔
      ∀ moment ∈ (deployAll name runs ⟨docker, []⟩).moments, Permitted name moment := by
  have start : Kept name ⟨docker, []⟩ :=
    iff_of_true ⟨by simp, .inl good⟩ (by simp)
  exact deploy_all_keeps name runs ⟨docker, []⟩ named start

def chassis : Str := "fastapi-chassis".toList

def goodOnly : Docker := fun name => if name = chassis then some ⟨true, true, true⟩ else none

def killedThenRetried : List (Environment × List Outcome) :=
  [(appImage, List.replicate 7 (succeeded "")), (appImage, List.replicate 4 (succeeded ""))]

theorem known_good_survives_iff_retried :
    (∀ run ∈ killedThenRetried, run.1.container = chassis) ∧
    goodOnly.holds chassis Container.verified = true ∧
    (AlwaysSafe chassis (deployAll chassis killedThenRetried ⟨goodOnly, []⟩) ↔
      ∀ moment ∈ (deployAll chassis killedThenRetried ⟨goodOnly, []⟩).moments, Permitted chassis moment) := by
  have named : ∀ run ∈ killedThenRetried, run.1.container = chassis := by decide
  have good : goodOnly.holds chassis Container.verified = true := by decide
  exact ⟨named, good, known_good_survives_iff chassis goodOnly killedThenRetried named good⟩

theorem retry_removes_known_good :
    goodOnly.holds chassis Container.verified = true ∧
    ¬AlwaysSafe chassis (deployAll chassis killedThenRetried ⟨goodOnly, []⟩) := by
  refine ⟨by decide, ?_⟩
  intro safe
  exact absurd safe.2 (by decide)

end Chassis.Deploy
