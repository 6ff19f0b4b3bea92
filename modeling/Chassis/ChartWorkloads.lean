import Chassis.ConfigMap
import Chassis.ContainerEnvironment

set_option autoImplicit false

namespace Chassis.Chart

open Chassis.Configuration (Environment)
open Containers Helm

-- and <left> <right>: the first of them that is empty, else the last.
def both (left right : Except TemplateError Value) : Except TemplateError Value := do
  let first ← left
  if first.isEmpty then .ok first else right

-- or <left> <right>
def either (left right : Except TemplateError Value) : Except TemplateError Value := do
  let first ← left
  if first.isEmpty then right else .ok first

-- What {{- if <condition> }} puts into a list.
def ifSet {α : Type} (condition : Except TemplateError Value) (body : Except TemplateError (List α)) :
    Except TemplateError (List α) := do
  let value ← condition
  if value.isEmpty then .ok [] else body

section Templates

variable (version : Str) (values : Value) (fullname : Str)

-- {{ .Values.<path> }}
def printed (path : String) : Except TemplateError Str := (values.at path).map Helm.print

-- {{ .Values.<path> | default "<fallback>" }}
def printedOr (path fallback : String) : Except TemplateError Str :=
  (values.at path).map (fun given => Helm.print (if given.isEmpty then texted fallback else given))

-- and (eq (.Values.database.backend | default "postgres") "<backend>") .Values.<path>
def onBackend (backend path : String) : Except TemplateError Value :=
  both ((Expr.eq databaseBackend (.literal (texted backend))).eval version values) (values.at path)

-- The key of the Secret is the variable's own name unless the values name one.
def secretItem (name secretPath keyPath : String) (optional : Bool) : Except TemplateError SecretVariable := do
  let secret ← printed values secretPath
  let key ← printedOr values keyPath name
  .ok ⟨name.toList, secret, key, optional⟩

def postgresItems : Except TemplateError (List SecretVariable) :=
  ifSet (onBackend version values "postgres" "database.postgres.existingSecret") do
    let password ← secretItem values "APP_DATABASE_POSTGRES_PASSWORD" "database.postgres.existingSecret"
      "database.postgres.existingSecretPasswordKey" false
    .ok [password]

def customItems : Except TemplateError (List SecretVariable) :=
  ifSet (onBackend version values "custom" "database.existingSecret") do
    let url ← secretItem values "APP_DATABASE_URL" "database.existingSecret" "database.existingSecretUrlKey" false
    let alembicUrl ← secretItem values "APP_ALEMBIC_DATABASE_URL" "database.existingSecret"
      "database.existingSecretAlembicUrlKey" true
    .ok [url, alembicUrl]

def redisItems : Except TemplateError (List SecretVariable) :=
  ifSet (values.at "redis.existingSecret") do
    let password ← secretItem values "APP_REDIS_PASSWORD" "redis.existingSecret" "redis.existingSecretPasswordKey" false
    .ok [password]

-- and .Values.auth.enabled .Values.auth.existingSecret
def authSecret : Except TemplateError Value := both (values.at "auth.enabled") (values.at "auth.existingSecret")

def authItems : Except TemplateError (List SecretVariable) :=
  ifSet (authSecret values) do
    let secret ← secretItem values "APP_AUTH_JWT_SECRET" "auth.existingSecret" "auth.existingSecretJwtSecretKey" true
    let publicKey ← secretItem values "APP_AUTH_JWT_PUBLIC_KEY" "auth.existingSecret"
      "auth.existingSecretJwtPublicKeyKey" true
    .ok [secret, publicKey]

-- $hasExistingSecretEnv
def hasExistingSecretEnv : Except TemplateError Value :=
  either (onBackend version values "postgres" "database.postgres.existingSecret") <|
  either (onBackend version values "custom" "database.existingSecret") <|
  either (values.at "redis.existingSecret") (authSecret values)

-- The ConfigMap of the release, its Secret and the one of the operator.
def releaseObjects : Except TemplateError (List ObjectRef) := do
  let created ← ifSet (values.at "secret.create") (.ok [{ kind := .secret, name := fullname }])
  let existing ← ifSet (values.at "existingSecret") do
    let name ← printed values "existingSecret"
    .ok [{ kind := .secret, name := name }]
  .ok ({ kind := .configMap, name := fullname } :: created ++ existing)

inductive ReleaseError where
  | template (error : TemplateError)
  | manifest
deriving DecidableEq

def optionalOf : Value → Option Bool
  | .null => some false
  | .bool value => some value
  | _ => none

def prefixOf : Value → Option Str
  | .null => some []
  | .text contents => some contents
  | _ => none

def memberOf (name : String) (members : List (Str × Value)) : Value := (members.lookup name.toList).getD .null

def referenceOf (kind : ObjectKind) (start : Value) (reference : List (Str × Value)) : Option ObjectRef := do
  let start ← prefixOf start
  let optional ← optionalOf (memberOf "optional" reference)
  match memberOf "name" reference with
  | .text name => some ⟨kind, name, start, optional⟩
  | _ => none

-- An item of envFrom as the manifest has it: one reference of the two kinds.
def objectOf : Value → Option ObjectRef
  | .map members =>
      match memberOf "configMapRef" members, memberOf "secretRef" members with
      | .map reference, .null => referenceOf .configMap (memberOf "prefix" members) reference
      | .null, .map reference => referenceOf .secret (memberOf "prefix" members) reference
      | _, _ => none
  | _ => none

-- {{- with .Values.extraEnvFrom }}{{- toYaml . }}
def extraObjects : Except ReleaseError (List ObjectRef) := do
  let extra ← (values.at "extraEnvFrom").mapError .template
  if extra.isEmpty then .ok []
  else
    match extra with
    | .list items =>
        match items.mapM objectOf with
        | some objects => .ok objects
        | none => .error .manifest
    | _ => .error .manifest

-- The env of the application's container.
def podItems : Except TemplateError (List SecretVariable) :=
  ifSet (hasExistingSecretEnv version values) do
    let postgres ← postgresItems version values
    let custom ← customItems version values
    let redis ← redisItems values
    let auth ← authItems values
    .ok (postgres ++ custom ++ redis ++ auth)

-- The application's container of fastapi-chassis.podSpec.
def podContainer : Except ReleaseError Container := do
  let objects ← (releaseObjects values fullname).mapError .template
  let extra ← extraObjects values
  let items ← (podItems version values).mapError .template
  .ok ⟨objects ++ extra, items⟩

-- The container of the migration Job, where there is one. It has an env: for
-- each of two backends.
def migrateContainer : Except ReleaseError (Option Container) := do
  let enabled ← (values.at "migrations.enabled").mapError .template
  if enabled.isEmpty then .ok none
  else
    let objects ← (releaseObjects values fullname).mapError .template
    let postgres ← (postgresItems version values).mapError .template
    let custom ← (customItems version values).mapError .template
    .ok (some ⟨objects, postgres ++ custom⟩)

theorem if_set_empty {α : Type} (condition : Except TemplateError Value) (body : Except TemplateError (List α)) (value : Value)
    (given : condition = .ok value) (empty : value.isEmpty = true) : ifSet condition body = .ok [] := by
  rw [ifSet, given]
  exact if_pos empty

theorem if_set_cases {α : Type} (condition : Except TemplateError Value) (body : Except TemplateError (List α)) (items : List α)
    (rendered : ifSet condition body = .ok items) :
    items = [] ∨ (body = .ok items ∧ ∃ value, condition = .ok value ∧ value.isEmpty = false) := by
  obtain ⟨value, given, chosen⟩ := bind_ok _ _ _ rendered
  by_cases empty : value.isEmpty = true
  · rw [if_pos empty] at chosen
    cases chosen
    exact .inl rfl
  · rw [if_neg empty] at chosen
    exact .inr ⟨chosen, value, given, Bool.eq_false_iff.mpr empty⟩

theorem either_empty (left right : Except TemplateError Value) (value : Value) (given : either left right = .ok value)
    (empty : value.isEmpty = true) :
    (∃ first, left = .ok first ∧ first.isEmpty = true) ∧ ∃ second, right = .ok second ∧ second.isEmpty = true := by
  obtain ⟨first, before, chosen⟩ := bind_ok _ _ _ given
  by_cases unset : first.isEmpty = true
  · rw [if_pos unset] at chosen
    exact ⟨⟨first, before, unset⟩, value, chosen, empty⟩
  · rw [if_neg unset] at chosen
    cases chosen
    exact absurd empty unset

theorem pod_items_parts (items : List SecretVariable) (rendered : podItems version values = .ok items) :
    ∃ postgres custom redis auth, postgresItems version values = .ok postgres ∧ customItems version values = .ok custom ∧
      redisItems values = .ok redis ∧ authItems values = .ok auth ∧ items = postgres ++ custom ++ redis ++ auth := by
  obtain ⟨value, given, chosen⟩ := bind_ok _ _ _ rendered
  by_cases empty : value.isEmpty = true
  · rw [if_pos empty] at chosen
    cases chosen
    obtain ⟨⟨first, postgres, noPostgres⟩, rest, given, empty⟩ := either_empty _ _ value given empty
    obtain ⟨⟨second, custom, noCustom⟩, rest, given, empty⟩ := either_empty _ _ rest given empty
    obtain ⟨⟨third, redis, noRedis⟩, fourth, auth, noAuth⟩ := either_empty _ _ rest given empty
    exact ⟨[], [], [], [], if_set_empty _ _ first postgres noPostgres, if_set_empty _ _ second custom noCustom,
      if_set_empty _ _ third redis noRedis, if_set_empty _ _ fourth auth noAuth, rfl⟩
  · rw [if_neg empty] at chosen
    obtain ⟨postgres, ofPostgres, chosen⟩ := bind_ok _ _ _ chosen
    obtain ⟨custom, ofCustom, chosen⟩ := bind_ok _ _ _ chosen
    obtain ⟨redis, ofRedis, chosen⟩ := bind_ok _ _ _ chosen
    obtain ⟨auth, ofAuth, built⟩ := bind_ok _ _ _ chosen
    cases built
    exact ⟨postgres, custom, redis, auth, ofPostgres, ofCustom, ofRedis, ofAuth, rfl⟩

theorem secret_item_name (name secretPath keyPath : String) (optional : Bool) (item : SecretVariable)
    (rendered : secretItem values name secretPath keyPath optional = .ok item) : item.name = name.toList := by
  obtain ⟨secret, _, rendered⟩ := bind_ok _ _ _ rendered
  obtain ⟨key, _, built⟩ := bind_ok _ _ _ rendered
  cases built
  rfl

end Templates

end Chassis.Chart
