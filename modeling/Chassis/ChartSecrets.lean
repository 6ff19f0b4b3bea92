import Chassis.ChartSettings
import Chassis.ChartWorkloads
import Chassis.HelmPaths

set_option autoImplicit false

namespace Chassis.Chart

open Containers Helm

-- not <value>
def negated (given : Except TemplateError Value) : Except TemplateError Value :=
  given.map (fun value => .bool value.isEmpty)

-- {{- if and <first> .Values.<given> (not .Values.<existing>) }} around lines
-- of the Secret.
structure SecretBlock where
  first : Option Expr
  given : String
  existing : String
  lines : List (String × Pipeline)

def postgresPassword : SecretBlock where
  first := some (.eq databaseBackend (.literal (texted "postgres")))
  given := "database.postgres.password"
  existing := "database.postgres.existingSecret"
  lines := [("APP_DATABASE_POSTGRES_PASSWORD", value "database.postgres.password")]

def customUrls : SecretBlock where
  first := some (.eq databaseBackend (.literal (texted "custom")))
  given := "database.url"
  existing := "database.existingSecret"
  lines :=
    [("APP_DATABASE_URL", value "database.url"),
      ("APP_ALEMBIC_DATABASE_URL", { path := "database.alembicUrl", fallback := some (.values "database.url") })]

def redisPassword : SecretBlock where
  first := none
  given := "redis.password"
  existing := "redis.existingSecret"
  lines := [("APP_REDIS_PASSWORD", value "redis.password")]

def jwtSecret : SecretBlock where
  first := some (.values "auth.enabled")
  given := "auth.jwtSecret"
  existing := "auth.existingSecret"
  lines := [("APP_AUTH_JWT_SECRET", value "auth.jwtSecret")]

def jwtPublicKey : SecretBlock where
  first := some (.values "auth.enabled")
  given := "auth.jwtPublicKey"
  existing := "auth.existingSecret"
  lines := [("APP_AUTH_JWT_PUBLIC_KEY", value "auth.jwtPublicKey")]

def secretBlocks : List SecretBlock := [postgresPassword, customUrls, redisPassword, jwtSecret, jwtPublicKey]

section Render

variable (sprig : Sprig) (version : Str) (values : Value)

def SecretBlock.condition (block : SecretBlock) : Except TemplateError Value :=
  let unset := both (values.at block.given) (negated (values.at block.existing))
  match block.first with
  | none => unset
  | some expression => both (expression.eval version values) unset

def secretLine (name : String) (pipeline : Pipeline) : Except TemplateError (Str × Str) :=
  (pipeline.render sprig version values).map (fun scalar => (name.toList, scalar))

def SecretBlock.render (block : SecretBlock) : Except TemplateError (List (Str × Str)) :=
  ifSet (block.condition version values) (block.lines.mapM (fun line => secretLine sprig version values line.1 line.2))

-- {{- with .Values.extraSecretEnv }}{{- range $key, $value := . }}
def extraSecretLines : Except TemplateError (List (Str × Str)) := do
  let extra ← values.at "extraSecretEnv"
  if extra.isEmpty then .ok [] else rangeLines sprig.printing extra

def secretData : Except TemplateError (List (Str × Str)) :=
  ifSet (values.at "secret.create") do
    let blocks ← secretBlocks.mapM (SecretBlock.render sprig version values)
    let extra ← extraSecretLines sprig values
    .ok (blocks.flatten ++ extra)

end Render

def SecretBlock.firstPaths (block : SecretBlock) : List String :=
  match block.first with
  | none => []
  | some expression => expression.paths

def SecretBlock.paths (block : SecretBlock) : List String :=
  block.firstPaths ++ block.given :: block.existing :: block.lines.flatMap (fun line => line.2.paths)

def inlineSecrets : List (String × String) :=
  [("database.postgres.password", "database.postgres.existingSecret"), ("database.url", "database.existingSecret"),
    ("database.alembicUrl", "database.existingSecret"), ("redis.password", "redis.existingSecret"),
    ("auth.jwtSecret", "auth.existingSecret"), ("auth.jwtPublicKey", "auth.existingSecret")]

-- What the containers read of the values.
def containerPaths : List String :=
  ["migrations.enabled", "secret.create", "existingSecret", "extraEnvFrom", "database.backend", "database.postgres.existingSecret",
    "database.postgres.existingSecretPasswordKey", "database.existingSecret", "database.existingSecretUrlKey",
    "database.existingSecretAlembicUrlKey", "redis.existingSecret", "redis.existingSecretPasswordKey", "auth.enabled",
    "auth.existingSecret", "auth.existingSecretJwtSecretKey", "auth.existingSecretJwtPublicKeyKey"]

theorem secrets_unread : inlineSecrets.all (fun secret => configMap.paths.all (apart secret.1)) = true ∧
    inlineSecrets.all (fun secret => containerPaths.all (apart secret.1)) = true := by
  rw [apart_bytewise]
  decide +kernel

section Agreement

variable (sprig : Sprig) (version fullname : Str) (one other : Value)

theorem containers_agree (agree : AgreeAt containerPaths one other) :
    podContainer version one fullname = podContainer version other fullname ∧
      migrateContainer version one fullname = migrateContainer version other fullname := by
  simp only [AgreeAt, containerPaths, List.forall_mem_cons] at agree
  constructor <;>
    simp only [podContainer, migrateContainer, releaseObjects, extraObjects, podItems, hasExistingSecretEnv, postgresItems,
      customItems, redisItems, authItems, authSecret, secretItem, printed, printedOr, onBackend, Expr.eval, databaseBackend,
      agree]

theorem lines_agree (lines : List (String × Pipeline)) (agree : AgreeAt (lines.flatMap (fun line => line.2.paths)) one other) :
    lines.mapM (fun line => secretLine sprig version one line.1 line.2) =
      lines.mapM (fun line => secretLine sprig version other line.1 line.2) := by
  apply map_m_congr
  intro line member
  have own : AgreeAt line.2.paths one other := fun path read => agree path (List.mem_flatMap.mpr ⟨line, member, read⟩)
  rw [secretLine, secretLine, Pipeline.render, Pipeline.render, choose_agree version one other line.2 own]

theorem block_agree (block : SecretBlock) (agree : AgreeAt block.paths one other) :
    block.render sprig version one = block.render sprig version other := by
  obtain ⟨ofFirst, rest⟩ := agree_append _ _ one other agree
  obtain ⟨given, rest⟩ := List.forall_mem_cons.mp rest
  obtain ⟨existing, ofLines⟩ := List.forall_mem_cons.mp rest
  have condition : block.condition version one = block.condition version other := by
    unfold SecretBlock.condition SecretBlock.firstPaths at *
    rw [given, existing]
    cases first : block.first with
    | none => rfl
    | some expression =>
        rw [first] at ofFirst
        dsimp only
        rw [eval_agree version one other expression ofFirst]
  rw [SecretBlock.render, SecretBlock.render, condition, lines_agree sprig version one other block.lines ofLines]

end Agreement

section Confined

variable (sprig : Sprig) (version fullname : Str) (values : Value)

theorem block_guarded (block : SecretBlock) (given existing : Value) (known : values.at block.given = .ok given)
    (named : values.at block.existing = .ok existing) (nonempty : existing.isEmpty = false) :
    block.render sprig version values =
      match block.first with
      | none => .ok []
      | some expression => (expression.eval version values).map (fun _ => []) := by
  have unset : ∃ refused, both (values.at block.given) (negated (values.at block.existing)) = .ok refused ∧ refused.isEmpty = true := by
    rw [known, named]
    by_cases empty : given.isEmpty = true
    · exact ⟨given, if_pos empty, empty⟩
    · refine ⟨.bool existing.isEmpty, if_neg empty, ?_⟩
      rw [nonempty]
      rfl
  obtain ⟨refused, denied, empty⟩ := unset
  cases first : block.first with
  | none =>
      have condition : block.condition version values = .ok refused := by
        rw [SecretBlock.condition, first]
        exact denied
      exact if_set_empty _ _ refused condition empty
  | some expression =>
      cases evaluated : expression.eval version values with
      | error raised =>
          rw [SecretBlock.render, SecretBlock.condition, first]
          dsimp only
          rw [evaluated]
          rfl
      | ok value =>
          by_cases off : value.isEmpty = true
          · have condition : block.condition version values = .ok value := by
              rw [SecretBlock.condition, first]
              dsimp only
              rw [evaluated]
              exact if_pos off
            dsimp only
            rw [evaluated]
            exact if_set_empty _ _ value condition off
          · have condition : block.condition version values = .ok refused := by
              rw [SecretBlock.condition, first]
              dsimp only
              rw [evaluated]
              exact (if_neg off).trans denied
            dsimp only
            rw [evaluated]
            exact if_set_empty _ _ refused condition empty

def covered (secret : String × String) (block : SecretBlock) : Bool :=
  block.paths.all (apart secret.1) ||
    (block.existing == secret.2 && block.firstPaths.all (apart secret.1) && apart secret.1 block.existing &&
      beside block.existing block.given)

theorem blocks_covered : inlineSecrets.all (fun secret =>
    secretBlocks.all (covered secret) && apart secret.1 "secret.create" && apart secret.1 "extraSecretEnv") = true := by
  unfold covered
  rw [apart_bytewise]
  decide +kernel

theorem block_confined (secret : String × String) (block : SecretBlock) (cover : covered secret block = true) (new existing : Value)
    (named : values.at secret.2 = .ok existing) (nonempty : existing.isEmpty = false) :
    block.render sprig version (values.set secret.1 new) = block.render sprig version values := by
  have agree (paths : List String) (unread : paths.all (apart secret.1) = true) : AgreeAt paths (values.set secret.1 new) values :=
    fun path listed => at_set values new secret.1 path (List.all_eq_true.mp unread path listed)
  cases Bool.or_eq_true_iff.mp cover with
  | inl unread => exact block_agree sprig version _ _ block (agree _ unread)
  | inr guarded =>
      simp only [Bool.and_eq_true, beq_iff_eq] at guarded
      obtain ⟨⟨⟨same, ofFirst⟩, away⟩, siblings⟩ := guarded
      have kept := at_set values new secret.1 block.existing away
      have named : values.at block.existing = .ok existing := same ▸ named
      obtain ⟨before, known⟩ := at_beside values existing block.existing block.given siblings named
      obtain ⟨after, replaced⟩ := at_beside (values.set secret.1 new) existing block.existing block.given siblings (kept.trans named)
      rw [block_guarded sprig version values block before existing known named nonempty,
        block_guarded sprig version _ block after existing replaced (kept.trans named) nonempty]
      have firstAgree := agree _ ofFirst
      unfold SecretBlock.firstPaths at firstAgree
      cases first : block.first with
      | none => rfl
      | some expression =>
          rw [first] at firstAgree
          dsimp only
          rw [eval_agree version _ values expression firstAgree]

theorem secrets_confined (secret : String × String) (listed : secret ∈ inlineSecrets) (new : Value) :
    configMap.render sprig version (values.set secret.1 new) = configMap.render sprig version values ∧
    podContainer version (values.set secret.1 new) fullname = podContainer version values fullname ∧
    migrateContainer version (values.set secret.1 new) fullname = migrateContainer version values fullname ∧
    ∀ existing, values.at secret.2 = .ok existing → existing.isEmpty = false →
      secretData sprig version (values.set secret.1 new) = secretData sprig version values := by
  have agree (paths : List String) (unread : paths.all (apart secret.1) = true) : AgreeAt paths (values.set secret.1 new) values :=
    fun path member => at_set values new secret.1 path (List.all_eq_true.mp unread path member)
  obtain ⟨ofConfigMap, ofContainers⟩ := secrets_unread
  have configMapAgree := agree _ (List.all_eq_true.mp ofConfigMap secret listed)
  obtain ⟨pod, job⟩ := containers_agree version fullname _ values (agree _ (List.all_eq_true.mp ofContainers secret listed))
  refine ⟨render_agree sprig version _ values configMap configMapAgree, pod, job, ?_⟩
  intro existing named nonempty
  have cover := List.all_eq_true.mp blocks_covered secret listed
  simp only [Bool.and_eq_true] at cover
  obtain ⟨⟨each, created⟩, extra⟩ := cover
  have blocks : secretBlocks.mapM (SecretBlock.render sprig version (values.set secret.1 new)) =
      secretBlocks.mapM (SecretBlock.render sprig version values) := by
    apply map_m_congr
    intro block member
    exact block_confined sprig version values secret block (List.all_eq_true.mp each block member) new existing named nonempty
  rw [secretData, secretData, extraSecretLines, extraSecretLines, blocks, at_set values new _ _ created, at_set values new _ _ extra]

end Confined

def vaultValues : Value :=
  tree
    [("secret", tree [("create", .bool true)]), ("extraSecretEnv", tree [("APP_EXTRA", texted "1")]),
      ("database", tree [("backend", texted "sqlite"), ("postgres", tree [])]),
      ("redis", tree [("password", texted "old"), ("existingSecret", texted "vault")]),
      ("auth", tree [("enabled", .bool false)])]

theorem secrets_confined_redis :
    secretData sprig appVersion (vaultValues.set "redis.password" (texted "new")) = secretData sprig appVersion vaultValues ∧
      secretData sprig appVersion vaultValues = .ok [("APP_EXTRA".toList, "\"1\"".toList)] :=
  ⟨(secrets_confined sprig appVersion [] vaultValues ("redis.password", "redis.existingSecret") (by simp [inlineSecrets])
      (texted "new")).2.2.2 (texted "vault") rfl rfl, by rfl⟩

end Chassis.Chart
