import Chassis.Deploy
import Chassis.LineEdits

set_option autoImplicit false

namespace Chassis.BaseDigests

open Lines Shell Text
open Deploy (orDefault)

structure Environment where
  dockerfilePath : Option Str := none
  uvBaseTag : Option Str := none
  pythonRuntimeTag : Option Str := none
  dryRun : Option Str := none

def Environment.path (env : Environment) : Str := orDefault env.dockerfilePath "Dockerfile".toList

def Environment.uvTag (env : Environment) : Str :=
  orDefault env.uvBaseTag "ghcr.io/astral-sh/uv:python3.13-bookworm-slim".toList

def Environment.pythonTag (env : Environment) : Str := orDefault env.pythonRuntimeTag "python:3.13-slim-bookworm".toList

def Environment.dry (env : Environment) : Bool := orDefault env.dryRun "false".toList = "true".toList

inductive Event where
  | inspected (image output : Str)
  | wrote (line : Str)
  | complained (line : Str)
  | failedWrite
deriving DecidableEq

structure World where
  dockerfile : Option Str
  trace : List Event := []

-- What a command answers: whether it exits with 0, its output, and what a
-- write leaves in the file when it fails on the way.
structure Answer where
  ok : Bool
  output : Str := []
  left : Option Str := none

def World.note (world : World) (event : Event) : World := { world with trace := world.trace ++ [event] }

-- awk '/^Digest:/ {print $2; exit}'
def isBlank (c : Char) : Bool := c = ' ' || c = '\t'

def secondField (line : Str) : Str := ((line.splitOnP isBlank).filter (fun field => field ≠ []))[1]?.getD []

def awkDigest (output : Str) : Str :=
  match (output.splitOn '\n').find? (fun line => "Digest:".toList.isPrefixOf line) with
  | none => []
  | some line => secondField line

def uvStart : Str := "ARG UV_BASE_IMAGE=".toList

def pythonStart : Str := "ARG PYTHON_RUNTIME_IMAGE=".toList

def newArg (start tag digest : Str) : Str := start ++ tag ++ '@' :: digest

-- What read_text makes of the line ends.
def universalNewlines : Str → Str
  | [] => []
  | [c] => [if c = '\r' then '\n' else c]
  | c :: next :: rest =>
      if c = '\r' then
        if next = '\n' then '\n' :: universalNewlines rest else '\n' :: universalNewlines (next :: rest)
      else c :: universalNewlines (next :: rest)

-- re.subn with ^start.*$, a count of one and MULTILINE.
def subn (start replacement content : Str) : Str × Nat :=
  match replaceLine (fun line => start.isPrefixOf line) replacement (content.splitOn '\n') with
  | some lines => (join ['\n'] lines, 1)
  | none => (content, 0)

section Script

-- How re reads a replacement; none where it raises an error.
variable (expand : Str → Option Str)

def rewrite (uvArg pythonArg content : Str) : Option Str := do
  let newUv ← expand uvArg
  let newPython ← expand pythonArg
  let (withUv, uvCount) := subn uvStart newUv content
  let (withBoth, pythonCount) := subn pythonStart newPython withUv
  if uvCount ≠ 1 ∨ pythonCount ≠ 1 then none else some withBoth

-- [[ -f "${DOCKERFILE_PATH}" ]]
def testFile : Script World Answer Bool := fun world answers => ⟨.value world.dockerfile.isSome, world, answers⟩

def complain (line : Str) : Script World Answer Unit :=
  fun world answers => ⟨.value (), world.note (.complained line), answers⟩

def refuse (line : Str) : Script World Answer Unit := do
  complain line
  exit 1

def available : Script World Answer Bool := act (fun world answer => (world, answer.ok))

def echo (line : Str) : Script World Answer Unit := do
  let ok ← act (fun world answer => (if answer.ok then world.note (.wrote line) else world, answer.ok))
  if ok then pure () else exit 1

-- A failing docker shows in an empty digest only: a command substitution
-- clears `set -e`.
def resolveDigest (image : Str) : Script World Answer Str := do
  let output ← act (fun world answer => (world.note (.inspected image answer.output), answer.output))
  if awkDigest output = [] then do
    complain ("Failed to resolve digest for ".toList ++ image)
    exit 1
  else pure (awkDigest output)

-- What python says of its failure on stderr is not followed.
def python (uvArg pythonArg : Str) : Script World Answer Unit := do
  let ok ← act (fun world answer =>
    match world.dockerfile.bind (fun content => rewrite expand uvArg pythonArg (universalNewlines content)), answer.ok, answer.left with
    | some edited, true, _ => ({ world with dockerfile := some edited }, true)
    | some _, false, some left => ({ world with dockerfile := some left, trace := world.trace ++ [.failedWrite] }, false)
    | _, _, _ => (world, false))
  if ok then pure () else exit 1

def announce (uvArg pythonArg : Str) : Script World Answer Unit := do
  echo uvArg
  echo pythonArg
  exit 0

def replaceArgs (path uvArg pythonArg : Str) : Script World Answer Unit := do
  python expand uvArg pythonArg
  echo ("Updated ".toList ++ path)
  echo ("  ".toList ++ uvArg)
  echo ("  ".toList ++ pythonArg)

def pin (env : Environment) : Script World Answer Unit := do
  let uvDigest ← resolveDigest env.uvTag
  let pythonDigest ← resolveDigest env.pythonTag
  let newUvArg := newArg uvStart env.uvTag uvDigest
  let newPythonArg := newArg pythonStart env.pythonTag pythonDigest
  if env.dry = true then announce newUvArg newPythonArg else replaceArgs expand env.path newUvArg newPythonArg

def refresh (env : Environment) : Script World Answer Unit := do
  let present ← testFile
  if present = false then refuse ("Dockerfile not found: ".toList ++ env.path)
  else do
    let docker ← available
    if docker = false then refuse "docker is required to refresh base image digests.".toList
    else do
      let buildx ← available
      if buildx = false then refuse "docker buildx is required to refresh base image digests.".toList
      else pin expand env

end Script

section Outcomes

variable (expand : Str → Option Str) (env : Environment) (content : Str)

def Resolved (trace : List Event) (image digest : Str) : Prop :=
  digest ≠ [] ∧ ∃ output, .inspected image output ∈ trace ∧ awkDigest output = digest

def Kept (world : World) : Prop := world.dockerfile = some content

def Rewritten (world : World) : Prop :=
  ∃ uvDigest pythonDigest, Resolved world.trace env.uvTag uvDigest ∧ Resolved world.trace env.pythonTag pythonDigest ∧
    ∃ edited, world.dockerfile = some edited ∧
      rewrite expand (newArg uvStart env.uvTag uvDigest) (newArg pythonStart env.pythonTag pythonDigest)
        (universalNewlines content) = some edited

def Announced (world : World) : Prop :=
  ∃ uvDigest pythonDigest, Resolved world.trace env.uvTag uvDigest ∧ Resolved world.trace env.pythonTag pythonDigest ∧
    .wrote (newArg uvStart env.uvTag uvDigest) ∈ world.trace ∧
    .wrote (newArg pythonStart env.pythonTag pythonDigest) ∈ world.trace

def Damaged (world : World) : Prop := .failedWrite ∈ world.trace

def Safe (world : World) : Prop :=
  Kept content world ∨ (env.dry = false ∧ (Rewritten expand env content world ∨ Damaged world))

def Exits (code : Nat) (world : World) : Prop :=
  Safe expand env content world ∧ (code = 0 → env.dry = true ∧ Kept content world ∧ Announced env world)

theorem resolved_note (world : World) (event : Event) (image digest : Str) (resolved : Resolved world.trace image digest) :
    Resolved (world.note event).trace image digest := by
  obtain ⟨nonempty, output, inspected, found⟩ := resolved
  exact ⟨nonempty, output, List.mem_append_left _ inspected, found⟩

theorem rewritten_note (world : World) (event : Event) (rewritten : Rewritten expand env content world) :
    Rewritten expand env content (world.note event) := by
  obtain ⟨uvDigest, pythonDigest, uv, python, edited, holds, made⟩ := rewritten
  exact ⟨uvDigest, pythonDigest, resolved_note world event _ _ uv, resolved_note world event _ _ python, edited, holds, made⟩

theorem failure_exits (world : World) (safe : Safe expand env content world) : Exits expand env content 1 world :=
  ⟨safe, fun zero => absurd zero (by decide)⟩

theorem ensures_refuse (line : Str) (post : Unit → World → Prop) :
    Ensures (Kept content) (refuse line) post (Exits expand env content) (Safe expand env content) := by
  intro world answers kept
  exact failure_exits expand env content _ (.inl kept)

theorem ensures_resolve (image : Str) (held : World → Prop) (keeps : ∀ world, held world → Kept content world)
    (noted : ∀ world event, held world → held (world.note event)) :
    Ensures held (resolveDigest image) (fun digest world => held world ∧ Resolved world.trace image digest)
      (Exits expand env content) (Safe expand env content) := by
  refine ensures_bind _ _ (fun output world => held world ∧ .inspected image output ∈ world.trace) _ ?_ ?_
  · refine ensures_act _ _ (fun world before => .inl (keeps world before)) ?_
    intro world answer before
    exact ⟨noted world _ before, List.mem_append_right _ (List.mem_singleton_self _)⟩
  · intro output
    refine ensures_if _ _ _ _ ?_ ?_
    · intro _ world answers before
      exact failure_exits expand env content _ (.inl (keeps _ (noted world _ before.1)))
    · intro nonempty
      exact ensures_result _ _ (fun world before => ⟨before.1, nonempty, output, before.2, rfl⟩)

theorem ensures_echo (line : Str) (held : World → Prop) (safe : ∀ world, held world → Safe expand env content world)
    (noted : ∀ world event, held world → held (world.note event)) :
    Ensures held (echo line) (fun _ world => held world ∧ .wrote line ∈ world.trace) (Exits expand env content)
      (Safe expand env content) := by
  refine ensures_bind _ _ (fun ok world => held world ∧ (ok = true → .wrote line ∈ world.trace)) _ ?_ ?_
  · refine ensures_act _ _ (fun world before => safe world before) ?_
    intro world answer before
    by_cases ok : answer.ok = true
    · simp only [ok, if_true]
      exact ⟨noted world _ before, fun _ => List.mem_append_right _ (List.mem_singleton_self _)⟩
    · rw [if_neg ok]
      exact ⟨before, fun taken => absurd taken ok⟩
  · intro ok
    refine ensures_if _ _ _ _ ?_ ?_
    · intro done
      exact ensures_result _ _ (fun world before => ⟨before.1, before.2 done⟩)
    · intro _ world answers before
      exact failure_exits expand env content world (safe world before.1)

structure Ready (uvDigest pythonDigest : Str) (world : World) : Prop where
  kept : Kept content world
  uv : Resolved world.trace env.uvTag uvDigest
  python : Resolved world.trace env.pythonTag pythonDigest

theorem ready_note (uvDigest pythonDigest : Str) (world : World) (event : Event)
    (ready : Ready env content uvDigest pythonDigest world) : Ready env content uvDigest pythonDigest (world.note event) :=
  ⟨ready.kept, resolved_note world event _ _ ready.uv, resolved_note world event _ _ ready.python⟩

theorem ensures_announce (uvDigest pythonDigest : Str) (dry : env.dry = true) (post : Unit → World → Prop) :
    Ensures (Ready env content uvDigest pythonDigest)
      (announce (newArg uvStart env.uvTag uvDigest) (newArg pythonStart env.pythonTag pythonDigest)) post
      (Exits expand env content) (Safe expand env content) := by
  have safe (world : World) (ready : Ready env content uvDigest pythonDigest world) : Safe expand env content world :=
    .inl ready.kept
  refine ensures_bind _ _ (fun _ world => Ready env content uvDigest pythonDigest world ∧
    .wrote (newArg uvStart env.uvTag uvDigest) ∈ world.trace) _ ?_ ?_
  · exact ensures_echo expand env content _ _ safe (ready_note env content uvDigest pythonDigest)
  · intro _
    refine ensures_bind _ _ (fun _ world => (Ready env content uvDigest pythonDigest world ∧
      .wrote (newArg uvStart env.uvTag uvDigest) ∈ world.trace) ∧
      .wrote (newArg pythonStart env.pythonTag pythonDigest) ∈ world.trace) _ ?_ ?_
    · refine ensures_echo expand env content _ _ (fun world before => safe world before.1) ?_
      intro world event before
      exact ⟨ready_note env content uvDigest pythonDigest world event before.1, List.mem_append_left _ before.2⟩
    · intro _
      refine ensures_exit _ 0 ?_
      rintro world ⟨⟨ready, uv⟩, python⟩
      exact ⟨.inl ready.kept, fun _ => ⟨dry, ready.kept, uvDigest, pythonDigest, ready.uv, ready.python, uv, python⟩⟩

theorem ensures_python (uvDigest pythonDigest : Str) (wet : env.dry = false) :
    Ensures (Ready env content uvDigest pythonDigest)
      (python expand (newArg uvStart env.uvTag uvDigest) (newArg pythonStart env.pythonTag pythonDigest))
      (fun _ => Rewritten expand env content) (Exits expand env content) (Safe expand env content) := by
  refine ensures_bind _ _ (fun ok world => Safe expand env content world ∧ (ok = true → Rewritten expand env content world)) _ ?_ ?_
  · refine ensures_act _ _ (fun world ready => .inl ready.kept) ?_
    intro world answer ready
    have file : world.dockerfile = some content := ready.kept
    have unchanged : Safe expand env content world ∧ (false = true → Rewritten expand env content world) :=
      ⟨.inl ready.kept, fun taken => absurd taken Bool.false_ne_true⟩
    simp only [file, Option.bind_some]
    cases made : rewrite expand (newArg uvStart env.uvTag uvDigest) (newArg pythonStart env.pythonTag pythonDigest)
        (universalNewlines content) with
    | none => exact unchanged
    | some edited =>
        cases answer.ok with
        | true =>
            have rewritten : Rewritten expand env content { world with dockerfile := some edited } :=
              ⟨uvDigest, pythonDigest, ready.uv, ready.python, edited, rfl, made⟩
            exact ⟨.inr ⟨wet, .inl rewritten⟩, fun _ => rewritten⟩
        | false =>
            cases answer.left with
            | none => exact unchanged
            | some left =>
                exact ⟨.inr ⟨wet, .inr (List.mem_append_right _ (List.mem_singleton_self _))⟩,
                  fun taken => absurd taken Bool.false_ne_true⟩
  · intro ok
    refine ensures_if _ _ _ _ ?_ ?_
    · intro done
      exact ensures_result _ _ (fun world before => before.2 done)
    · intro _ world answers before
      exact failure_exits expand env content world before.1

theorem ensures_replace (uvDigest pythonDigest : Str) (wet : env.dry = false) :
    Ensures (Ready env content uvDigest pythonDigest)
      (replaceArgs expand env.path (newArg uvStart env.uvTag uvDigest) (newArg pythonStart env.pythonTag pythonDigest))
      (fun _ => Rewritten expand env content) (Exits expand env content) (Safe expand env content) := by
  have say (line : Str) : Ensures (Rewritten expand env content) (echo line) (fun _ => Rewritten expand env content)
      (Exits expand env content) (Safe expand env content) := by
    refine ensures_weaken _ _ _ (ensures_echo expand env content line _ ?_ (rewritten_note expand env content)) ?_
    · exact fun world rewritten => .inr ⟨wet, .inl rewritten⟩
    · exact fun _ world before => before.1
  refine ensures_bind _ _ (fun _ => Rewritten expand env content) _ (ensures_python expand env content uvDigest pythonDigest wet) ?_
  intro _
  refine ensures_bind _ _ (fun _ => Rewritten expand env content) _ (say _) ?_
  intro _
  refine ensures_bind _ _ (fun _ => Rewritten expand env content) _ (say _) ?_
  intro _
  exact say _

theorem ensures_pin :
    Ensures (Kept content) (pin expand env) (fun _ world => env.dry = false ∧ Rewritten expand env content world)
      (Exits expand env content) (Safe expand env content) := by
  refine ensures_bind _ _ (fun uvDigest world => Kept content world ∧ Resolved world.trace env.uvTag uvDigest) _
    (ensures_resolve expand env content env.uvTag (Kept content) (fun _ kept => kept) (fun _ _ kept => kept)) ?_
  intro uvDigest
  refine ensures_bind _ _ (fun pythonDigest => Ready env content uvDigest pythonDigest) _ ?_ ?_
  · refine ensures_weaken _ _ _ (ensures_resolve expand env content env.pythonTag _ (fun _ before => before.1) ?_) ?_
    · intro world event before
      exact ⟨before.1, resolved_note world event _ _ before.2⟩
    · rintro pythonDigest world ⟨⟨kept, uv⟩, python⟩
      exact ⟨kept, uv, python⟩
  · intro pythonDigest
    refine ensures_if _ _ _ _ ?_ ?_
    · intro dry
      exact ensures_announce expand env content uvDigest pythonDigest dry _
    · intro wet
      have off : env.dry = false := by simpa using wet
      refine ensures_weaken _ _ _ (ensures_replace expand env content uvDigest pythonDigest off) ?_
      exact fun _ world rewritten => ⟨off, rewritten⟩

theorem ensures_refresh :
    Ensures (Kept content) (refresh expand env) (fun _ world => env.dry = false ∧ Rewritten expand env content world)
      (Exits expand env content) (Safe expand env content) := by
  have ask : Ensures (Kept content) available (fun _ => Kept content) (Exits expand env content) (Safe expand env content) :=
    ensures_act _ _ (fun _ kept => .inl kept) (fun _ _ kept => kept)
  refine ensures_bind _ _ (fun _ => Kept content) _ (fun world answers kept => kept) ?_
  intro present
  refine ensures_if _ _ _ _ (fun _ => ensures_refuse expand env content _ _) (fun _ => ?_)
  refine ensures_bind _ _ (fun _ => Kept content) _ ask ?_
  intro docker
  refine ensures_if _ _ _ _ (fun _ => ensures_refuse expand env content _ _) (fun _ => ?_)
  refine ensures_bind _ _ (fun _ => Kept content) _ ask ?_
  intro buildx
  exact ensures_if _ _ _ _ (fun _ => ensures_refuse expand env content _ _) (fun _ => ensures_pin expand env content)

theorem refresh_all_or_nothing (answers : List Answer) :
    (Safe expand env content (refresh expand env ⟨some content, []⟩ answers).world) ∧
    ((refresh expand env ⟨some content, []⟩ answers).ending.exitCode = some 0 →
      (env.dry = true ∧ Kept content (refresh expand env ⟨some content, []⟩ answers).world ∧
        Announced env (refresh expand env ⟨some content, []⟩ answers).world) ∨
      (env.dry = false ∧ Rewritten expand env content (refresh expand env ⟨some content, []⟩ answers).world)) := by
  have done := ensures_refresh expand env content ⟨some content, []⟩ answers rfl
  unfold Ends at done
  cases ending : (refresh expand env ⟨some content, []⟩ answers).ending with
  | value result =>
      rw [ending] at done
      exact ⟨.inr ⟨done.1, .inl done.2⟩, fun _ => .inr done⟩
  | exited code =>
      rw [ending] at done
      exact ⟨done.1, fun zero => .inl (done.2 (Option.some.inj zero))⟩
  | killed =>
      rw [ending] at done
      exact ⟨done, fun zero => absurd zero (by simp [Ending.exitCode])⟩

end Outcomes

def registryAnswers : List Answer :=
  [⟨true, [], none⟩, ⟨true, [], none⟩, ⟨true, "Name: uv\nDigest: sha256:1\n".toList, none⟩,
    ⟨true, "Digest: sha256:2\n".toList, none⟩, ⟨true, [], none⟩, ⟨true, [], none⟩, ⟨true, [], none⟩, ⟨true, [], none⟩]

theorem refresh_all_or_nothing_registry :
    (({} : Environment).dry = true ∧ Kept "ARG UV_BASE_IMAGE=a\nARG PYTHON_RUNTIME_IMAGE=b\n".toList
        (refresh some {} ⟨some "ARG UV_BASE_IMAGE=a\nARG PYTHON_RUNTIME_IMAGE=b\n".toList, []⟩ registryAnswers).world ∧
      Announced {} (refresh some {} ⟨some "ARG UV_BASE_IMAGE=a\nARG PYTHON_RUNTIME_IMAGE=b\n".toList, []⟩ registryAnswers).world) ∨
    (({} : Environment).dry = false ∧ Rewritten some {} "ARG UV_BASE_IMAGE=a\nARG PYTHON_RUNTIME_IMAGE=b\n".toList
      (refresh some {} ⟨some "ARG UV_BASE_IMAGE=a\nARG PYTHON_RUNTIME_IMAGE=b\n".toList, []⟩ registryAnswers).world) :=
  (refresh_all_or_nothing some {} "ARG UV_BASE_IMAGE=a\nARG PYTHON_RUNTIME_IMAGE=b\n".toList registryAnswers).2
    (by decide +kernel)

-- An argument as the script writes it: one line that begins as it should,
-- with nothing in it that re would read as an escape.
structure Arg (start : Str) where
  text : Str
  begins : start.isPrefixOf text = true
  oneLine : '\n' ∉ text
  unescaped : '\\' ∉ text
  noReturn : '\r' ∉ text

structure Pins where
  uv : Arg uvStart
  python : Arg pythonStart

def meant (start line : Str) : Bool := start.isPrefixOf line

def Pins.edit (pins : Pins) (lines : List Str) : Option (List Str) :=
  (replaceLine (meant uvStart) pins.uv.text lines).bind (replaceLine (meant pythonStart) pins.python.text)

theorem meant_beginning (start line : Str) (hit : meant start line = true) : start <+: line := List.isPrefixOf_iff_prefix.mp hit

theorem starts_apart (line : Str) (uv : meant uvStart line = true) (python : meant pythonStart line = true) : False := by
  have neither : ¬ uvStart <+: pythonStart ∧ ¬ pythonStart <+: uvStart := by decide
  cases List.prefix_or_prefix_of_prefix (meant_beginning _ _ uv) (meant_beginning _ _ python) with
  | inl short => exact neither.1 short
  | inr short => exact neither.2 short

theorem uv_not_python (line : Str) (uv : meant uvStart line = true) : meant pythonStart line = false := by
  rw [← Bool.not_eq_true]
  exact starts_apart line uv

theorem python_not_uv (line : Str) (python : meant pythonStart line = true) : meant uvStart line = false := by
  rw [← Bool.not_eq_true]
  exact fun uv => starts_apart line uv python

theorem edit_again (first second : Pins) (lines : List Str) : (first.edit lines).bind second.edit = second.edit lines := by
  have swapped (edited : List Str) := replace_line_swap (meant pythonStart) (meant uvStart) first.python.text second.uv.text
    python_not_uv (python_not_uv _ first.python.begins) (uv_not_python _ second.uv.begins) edited
  have uvAgain := replace_line_again (meant uvStart) first.uv.text second.uv.text first.uv.begins lines
  have pythonAgain (edited : List Str) :=
    replace_line_again (meant pythonStart) first.python.text second.python.text first.python.begins edited
  calc (first.edit lines).bind second.edit
      = (replaceLine (meant uvStart) first.uv.text lines).bind (fun edited =>
          ((replaceLine (meant pythonStart) first.python.text edited).bind (replaceLine (meant uvStart) second.uv.text)).bind
            (replaceLine (meant pythonStart) second.python.text)) := by
        rw [Pins.edit, Option.bind_assoc]
        simp only [Option.bind_assoc]
        rfl
    _ = ((replaceLine (meant uvStart) first.uv.text lines).bind (replaceLine (meant uvStart) second.uv.text)).bind
          (fun edited => (replaceLine (meant pythonStart) first.python.text edited).bind
            (replaceLine (meant pythonStart) second.python.text)) := by
        simp only [swapped, Option.bind_assoc]
    _ = second.edit lines := by
        simp only [uvAgain, pythonAgain]
        rfl

theorem edit_iff (pins : Pins) (lines edited : List Str) :
    pins.edit lines = some edited ↔
      ∃ uvIndex pythonIndex, lines.findIdx? (meant uvStart) = some uvIndex ∧
        lines.findIdx? (meant pythonStart) = some pythonIndex ∧
        edited = (lines.set uvIndex pins.uv.text).set pythonIndex pins.python.text := by
  have found (withUv : List Str) (edits : replaceLine (meant uvStart) pins.uv.text lines = some withUv) :
      withUv.findIdx? (meant pythonStart) = lines.findIdx? (meant pythonStart) :=
    replace_line_find _ _ _ uv_not_python (uv_not_python _ pins.uv.begins) lines withUv edits
  rw [Pins.edit, Option.bind_eq_some_iff]
  constructor
  · rintro ⟨withUv, first, second⟩
    have unmoved := found withUv first
    rw [replace_line_set] at first second
    obtain ⟨uvIndex, uvFound, rfl⟩ := Option.map_eq_some_iff.mp first
    obtain ⟨pythonIndex, pythonFound, rfl⟩ := Option.map_eq_some_iff.mp second
    exact ⟨uvIndex, pythonIndex, uvFound, unmoved ▸ pythonFound, rfl⟩
  · rintro ⟨uvIndex, pythonIndex, uvFound, pythonFound, rfl⟩
    have first : replaceLine (meant uvStart) pins.uv.text lines = some (lines.set uvIndex pins.uv.text) := by
      rw [replace_line_set, uvFound]
      rfl
    refine ⟨_, first, ?_⟩
    rw [replace_line_set, found _ first, pythonFound]
    rfl

theorem universal_newlines_id (text : Str) (free : '\r' ∉ text) : universalNewlines text = text := by
  fun_induction universalNewlines text with
  | case1 => rfl
  | case2 c => simp at free; simp [Ne.symm free]
  | case3 c => simp at free
  | case4 c => simp at free
  | case5 c next rest other ih =>
      rw [ih (fun member => free (List.mem_cons_of_mem _ member))]

theorem universal_newlines_free (text : Str) : '\r' ∉ universalNewlines text := by
  fun_induction universalNewlines text with
  | case1 => exact List.not_mem_nil
  | case2 c => by_cases same : c = '\r' <;> simp [same, Ne.symm]
  | case3 rest ih => simpa using ih
  | case4 next rest other ih => simpa using ih
  | case5 c next rest other ih => simpa [Ne.symm other] using ih

theorem mem_join_part (separator : Str) (parts : List Str) (part : Str) (member : part ∈ parts) (c : Char) (inside : c ∈ part) :
    c ∈ join separator parts := by
  induction parts with
  | nil => exact absurd member List.not_mem_nil
  | cons first rest ih =>
      cases rest with
      | nil =>
          rw [join_single, ← List.mem_singleton.mp member]
          exact inside
      | cons second others =>
          rw [join_cons, List.mem_append, List.mem_append]
          cases List.mem_cons.mp member with
          | inl same => exact .inl (.inl (same ▸ inside))
          | inr later => exact .inr (ih later)

theorem split_part_mem (separator : Char) (text part : Str) (member : part ∈ text.splitOn separator) (c : Char)
    (inside : c ∈ part) : c ∈ text := by
  have whole : join [separator] (text.splitOn separator) = text := List.intercalate_splitOn separator
  rw [← whole]
  exact mem_join_part [separator] _ part member c inside

theorem edit_no_return (pins : Pins) (lines edited : List Str) (free : ∀ line ∈ lines, '\r' ∉ line)
    (edits : pins.edit lines = some edited) : ∀ line ∈ edited, '\r' ∉ line := by
  obtain ⟨withUv, first, second⟩ := Option.bind_eq_some_iff.mp edits
  intro line member
  cases replace_line_mem _ _ _ _ second line member with
  | inl same => exact same ▸ pins.python.noReturn
  | inr kept =>
      cases replace_line_mem _ _ _ _ first line kept with
      | inl same => exact same ▸ pins.uv.noReturn
      | inr old => exact free line old

section Series

variable (expand : Str → Option Str) (literal : ∀ text, '\\' ∉ text → expand text = some text)

def refreshAll (runs : List Pins) (content : Str) : Option Str :=
  runs.foldlM (fun content pins => rewrite expand pins.uv.text pins.python.text (universalNewlines content)) content

theorem subn_found (start new content : Str) (lines : List Str)
    (edits : replaceLine (meant start) new (content.splitOn '\n') = some lines) :
    subn start new content = (join ['\n'] lines, 1) := by
  unfold subn
  rw [show replaceLine (fun line => start.isPrefixOf line) new (content.splitOn '\n') = some lines from edits]

theorem subn_missing (start new content : Str) (missing : replaceLine (meant start) new (content.splitOn '\n') = none) :
    subn start new content = (content, 0) := by
  unfold subn
  rw [show replaceLine (fun line => start.isPrefixOf line) new (content.splitOn '\n') = none from missing]

theorem split_lines (lines : List Str) (nonempty : lines ≠ []) (free : ∀ line ∈ lines, '\n' ∉ line) :
    (join ['\n'] lines).splitOn '\n' = lines :=
  List.splitOn_intercalate '\n' free nonempty

theorem replaced_lines (start : Str) (arg : Arg start) (content : Str) (lines : List Str)
    (edits : replaceLine (meant start) arg.text (content.splitOn '\n') = some lines) :
    (join ['\n'] lines).splitOn '\n' = lines := by
  have whole : lines ≠ [] := by
    rintro rfl
    obtain ⟨found, empty⟩ := (replace_line_some _ _ _ _).mp edits
    simp at empty
  apply split_lines lines whole
  intro line member
  cases replace_line_mem _ _ _ _ edits line member with
  | inl same => exact same ▸ arg.oneLine
  | inr kept => exact split_part_free '\n' content line kept

theorem edit_lines (pins : Pins) (content : Str) (lines : List Str) (edits : pins.edit (content.splitOn '\n') = some lines) :
    (join ['\n'] lines).splitOn '\n' = lines := by
  obtain ⟨withUv, first, second⟩ := Option.bind_eq_some_iff.mp edits
  have uvLines := replaced_lines uvStart pins.uv content withUv first
  rw [← uvLines] at second
  exact replaced_lines pythonStart pins.python _ lines second

include literal

theorem rewrite_edits (pins : Pins) (content : Str) :
    rewrite expand pins.uv.text pins.python.text content = (pins.edit (content.splitOn '\n')).map (join ['\n']) := by
  have read : rewrite expand pins.uv.text pins.python.text content =
      if (subn uvStart pins.uv.text content).2 ≠ 1 ∨
          (subn pythonStart pins.python.text (subn uvStart pins.uv.text content).1).2 ≠ 1 then none
      else some (subn pythonStart pins.python.text (subn uvStart pins.uv.text content).1).1 := by
    rw [rewrite, literal _ pins.uv.unescaped, literal _ pins.python.unescaped]
    rfl
  cases first : replaceLine (meant uvStart) pins.uv.text (content.splitOn '\n') with
  | none => rw [read, subn_missing _ _ _ first, if_pos (.inl Nat.zero_ne_one), Pins.edit, first, Option.bind_none, Option.map_none]
  | some withUv =>
      have lines := replaced_lines uvStart pins.uv content withUv first
      rw [read, subn_found _ _ _ _ first, Pins.edit, first, Option.bind_some]
      cases second : replaceLine (meant pythonStart) pins.python.text withUv with
      | none =>
          rw [subn_missing pythonStart _ _ (lines.symm ▸ second), if_pos (.inr Nat.zero_ne_one), Option.map_none]
      | some edited =>
          rw [subn_found pythonStart _ _ edited (lines.symm ▸ second), if_neg (by simp), Option.map_some]

theorem rewrite_no_return (pins : Pins) (content edited : Str) (free : '\r' ∉ content)
    (made : rewrite expand pins.uv.text pins.python.text content = some edited) : '\r' ∉ edited := by
  rw [rewrite_edits expand literal] at made
  obtain ⟨lines, edits, rfl⟩ := Option.map_eq_some_iff.mp made
  have oldFree : ∀ line ∈ content.splitOn '\n', '\r' ∉ line := by
    intro line member inside
    exact free (split_part_mem '\n' content line member '\r' inside)
  intro member
  cases mem_join _ _ _ member with
  | inl newline => simp at newline
  | inr found =>
      obtain ⟨line, listed, inside⟩ := found
      exact edit_no_return pins _ lines oldFree edits line listed inside

theorem refresh_once (pins : Pins) (content : Str) :
    refreshAll expand [pins] content = (pins.edit ((universalNewlines content).splitOn '\n')).map (join ['\n']) := by
  rw [← rewrite_edits expand literal]
  simp [refreshAll]

theorem refresh_twice (first second : Pins) (content : Str) :
    refreshAll expand [first, second] content = refreshAll expand [second] content := by
  have step : refreshAll expand [first, second] content =
      (rewrite expand first.uv.text first.python.text (universalNewlines content)).bind (refreshAll expand [second]) := rfl
  have again := edit_again first second ((universalNewlines content).splitOn '\n')
  rw [step, rewrite_edits expand literal, refresh_once expand literal]
  cases edits : first.edit ((universalNewlines content).splitOn '\n') with
  | none =>
      rw [edits, Option.bind_none] at again
      rw [← again]
      rfl
  | some lines =>
      rw [edits, Option.bind_some] at again
      have free : '\r' ∉ join ['\n'] lines := by
        apply rewrite_no_return expand literal first (universalNewlines content) _ (universal_newlines_free content)
        rw [rewrite_edits expand literal, edits]
        rfl
      rw [Option.map_some, Option.bind_some, refresh_once expand literal, universal_newlines_id _ free,
        edit_lines first _ lines edits, again]

theorem refresh_series (earlier : List Pins) (last : Pins) (content : Str) :
    refreshAll expand (earlier ++ [last]) content = refreshAll expand [last] content ∧
    ∀ edited, refreshAll expand [last] content = some edited ↔
      ∃ uvIndex pythonIndex, ((universalNewlines content).splitOn '\n').findIdx? (meant uvStart) = some uvIndex ∧
        ((universalNewlines content).splitOn '\n').findIdx? (meant pythonStart) = some pythonIndex ∧
        edited = join ['\n']
          ((((universalNewlines content).splitOn '\n').set uvIndex last.uv.text).set pythonIndex last.python.text) := by
  constructor
  · induction earlier generalizing content with
    | nil => rfl
    | cons first rest ih =>
        have twice := refresh_twice expand literal first last content
        simp only [refreshAll, List.cons_append, List.foldlM_cons] at ih twice ⊢
        cases made : rewrite expand first.uv.text first.python.text (universalNewlines content) with
        | none =>
            rw [made] at twice
            exact twice
        | some edited =>
            rw [made] at twice
            exact (ih edited).trans twice
  · intro edited
    rw [refresh_once expand literal, Option.map_eq_some_iff]
    constructor
    · rintro ⟨lines, edits, rfl⟩
      obtain ⟨uvIndex, pythonIndex, uvFound, pythonFound, rfl⟩ := (edit_iff last _ lines).mp edits
      exact ⟨uvIndex, pythonIndex, uvFound, pythonFound, rfl⟩
    · rintro ⟨uvIndex, pythonIndex, uvFound, pythonFound, rfl⟩
      exact ⟨_, (edit_iff last _ _).mpr ⟨uvIndex, pythonIndex, uvFound, pythonFound, rfl⟩, rfl⟩

end Series

def pinned : Pins where
  uv := ⟨"ARG UV_BASE_IMAGE=uv@sha256:1".toList, by decide, by decide, by decide, by decide⟩
  python := ⟨"ARG PYTHON_RUNTIME_IMAGE=py@sha256:2".toList, by decide, by decide, by decide, by decide⟩

theorem refresh_series_pinned :
    refreshAll some [pinned, pinned] "ARG UV_BASE_IMAGE=a\r\nARG PYTHON_RUNTIME_IMAGE=b\r\n".toList =
      refreshAll some [pinned] "ARG UV_BASE_IMAGE=a\r\nARG PYTHON_RUNTIME_IMAGE=b\r\n".toList :=
  (refresh_series some (fun _ _ => rfl) [pinned] pinned
    "ARG UV_BASE_IMAGE=a\r\nARG PYTHON_RUNTIME_IMAGE=b\r\n".toList).1

end Chassis.BaseDigests
