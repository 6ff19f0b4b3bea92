import Chassis.Dict
import Chassis.Layers
import Chassis.SettingsFields

set_option autoImplicit false

namespace Chassis.Containers

open Chassis.Configuration (Environment)
open Layers Text

inductive ObjectKind where
  | configMap
  | secret
deriving DecidableEq

structure ObjectRef where
  kind : ObjectKind
  name : Str
  start : Str := []
  optional : Bool := false
deriving DecidableEq

structure SecretVariable where
  name : Str
  secret : Str
  key : Str
  optional : Bool := false
deriving DecidableEq

structure Container where
  envFrom : List ObjectRef
  env : List SecretVariable
deriving DecidableEq

structure Cluster where
  configMaps : Str → Option (Dict Str Str)
  secrets : Str → Option (Dict Str Str)

def Cluster.object (cluster : Cluster) : ObjectKind → Str → Option (Dict Str Str)
  | .configMap => cluster.configMaps
  | .secret => cluster.secrets

section Start

variable (cluster : Cluster) (image : Environment)

-- A missing object that is not optional keeps the container from starting.
def ObjectRef.layer (ref : ObjectRef) : Option Environment :=
  match cluster.object ref.kind ref.name with
  | some data =>
      some (fun name => if ref.start.isPrefixOf name then data.get (name.drop ref.start.length) else none)
  | none => if ref.optional then some (fun _ => none) else none

def SecretVariable.layer (item : SecretVariable) : Option Environment :=
  match (cluster.secrets item.secret).bind (fun data => data.get item.key) with
  | some text => some (fun name => if name = item.name then some text else none)
  | none => if item.optional then some (fun _ => none) else none

def ObjectRef.names (ref : ObjectRef) : List Str :=
  match cluster.object ref.kind ref.name with
  | some data => data.keys.map (fun key => ref.start ++ key)
  | none => []

def Container.names (container : Container) : List Str :=
  container.envFrom.flatMap (ObjectRef.names cluster) ++ container.env.map SecretVariable.name

def passes (environment : Environment) (name : Str) : Bool := (environment name).all (fun text => nul ∉ text)

-- The variables of the image, then envFrom in its order, then env. No process
-- starts with a NUL in a variable.
def Container.environment (container : Container) : Option Environment := do
  let objects ← container.envFrom.mapM (ObjectRef.layer cluster)
  let items ← container.env.mapM (SecretVariable.layer cluster)
  let environment := stack image (objects ++ items)
  if (container.names cluster).all (passes environment) then some environment else none

theorem environment_some_iff (container : Container) (environment : Environment) :
    container.environment cluster image = some environment ↔
      ∃ objects items, container.envFrom.mapM (ObjectRef.layer cluster) = some objects ∧
        container.env.mapM (SecretVariable.layer cluster) = some items ∧ environment = stack image (objects ++ items) ∧
        (container.names cluster).all (passes environment) = true := by
  unfold Container.environment
  cases container.envFrom.mapM (ObjectRef.layer cluster) with
  | none => simp
  | some objects =>
      cases container.env.mapM (SecretVariable.layer cluster) with
      | none => simp
      | some items =>
          by_cases started : (container.names cluster).all (passes (stack image (objects ++ items))) = true
          · simp only [Option.bind_eq_bind, Option.bind_some, if_pos started, Option.some.injEq, exists_and_left,
              exists_eq_left']
            exact ⟨fun same => ⟨same.symm, same ▸ started⟩, fun both => both.1.symm⟩
          · simp only [Option.bind_eq_bind, Option.bind_some, if_neg started, Option.some.injEq, exists_and_left,
              exists_eq_left']
            refine ⟨fun same => (by cases same), fun both => absurd (both.1 ▸ both.2) started⟩

theorem map_m_append_some {α β : Type} (f : α → Option β) (first second : List α) (results : List β)
    (mapped : (first ++ second).mapM f = some results) :
    ∃ one other, first.mapM f = some one ∧ second.mapM f = some other ∧ results = one ++ other := by
  rw [List.mapM_append] at mapped
  obtain ⟨one, before, mapped⟩ := Option.bind_eq_some_iff.mp mapped
  obtain ⟨other, after, built⟩ := Option.bind_eq_some_iff.mp mapped
  exact ⟨one, other, before, after, (Option.some.inj built).symm⟩

theorem mapped_mem {α β : Type} (f : α → Option β) (values : List α) (results : List β) (mapped : values.mapM f = some results) :
    ∀ result ∈ results, ∃ value ∈ values, f value = some result := by
  induction values generalizing results with
  | nil =>
      cases mapped
      exact fun result member => absurd member List.not_mem_nil
  | cons value rest ih =>
      rw [List.mapM_cons] at mapped
      obtain ⟨first, one, mapped⟩ := Option.bind_eq_some_iff.mp mapped
      obtain ⟨later, others, built⟩ := Option.bind_eq_some_iff.mp mapped
      cases built
      refine List.forall_mem_cons.mpr ⟨⟨value, List.mem_cons_self, one⟩, ?_⟩
      intro result member
      obtain ⟨source, listed, given⟩ := ih later others result member
      exact ⟨source, List.mem_cons_of_mem value listed, given⟩

theorem item_layer_other (item : SecretVariable) (layer : Environment) (name : Str)
    (given : item.layer cluster = some layer) (other : name ≠ item.name) : layer name = none := by
  unfold SecretVariable.layer at given
  cases found : (cluster.secrets item.secret).bind (fun data => data.get item.key) with
  | some text =>
      rw [found] at given
      cases given
      exact if_neg other
  | none =>
      rw [found] at given
      dsimp only at given
      by_cases optional : item.optional = true
      · rw [if_pos optional] at given
        cases given
        rfl
      · rw [if_neg optional] at given
        cases given

theorem items_silent (items : List SecretVariable) (layers : List Environment) (name : Str)
    (given : items.mapM (SecretVariable.layer cluster) = some layers) (others : ∀ item ∈ items, name ≠ item.name) :
    Silent layers name := by
  intro layer member
  obtain ⟨item, listed, layered⟩ := mapped_mem _ items layers given layer member
  exact item_layer_other cluster item layer name layered (others item listed)

structure Clean : Prop where
  ofImage : ∀ name text, image name = some text → nul ∉ text
  ofObjects : ∀ kind name data, cluster.object kind name = some data → ∀ key text, data.get key = some text → nul ∉ text

end Start

end Chassis.Containers
