import Chassis.ChartSecrets

set_option autoImplicit false

namespace Chassis.Chart

open Chassis.Configuration Containers Helm Layers

theorem both_nonempty (left right : Except TemplateError Value) (value : Value) (given : both left right = .ok value)
    (nonempty : value.isEmpty = false) : right = .ok value := by
  obtain ⟨first, before, chosen⟩ := bind_ok _ _ _ given
  by_cases empty : first.isEmpty = true
  · rw [if_pos empty] at chosen
    cases chosen
    exact absurd empty (Bool.eq_false_iff.mp nonempty)
  · rw [if_neg empty] at chosen
    exact chosen

theorem map_m_reaches {ε α β : Type} (f : α → Except ε β) (items : List α) (results : List β) (mapped : items.mapM f = .ok results)
    (item : α) (member : item ∈ items) : ∃ result ∈ results, f item = .ok result := by
  induction items generalizing results with
  | nil => cases member
  | cons first rest ih =>
      rw [List.mapM_cons] at mapped
      obtain ⟨one, here, mapped⟩ := bind_ok _ _ _ mapped
      obtain ⟨others, later, built⟩ := bind_ok _ _ _ mapped
      cases built
      cases List.mem_cons.mp member with
      | inl same => exact ⟨one, List.mem_cons_self, same ▸ here⟩
      | inr inRest =>
          obtain ⟨result, found, reached⟩ := ih others later inRest
          exact ⟨result, List.mem_cons_of_mem one found, reached⟩

section Lines

variable (sprig : Sprig) (version : Str) (values : Value)

theorem secret_line_names (lines : List (String × Pipeline)) (rendered : List (Str × Str))
    (mapped : lines.mapM (fun line => secretLine sprig version values line.1 line.2) = .ok rendered) :
    rendered.map Prod.fst = lines.map (fun line => line.1.toList) := by
  induction lines generalizing rendered with
  | nil =>
      cases mapped
      rfl
  | cons line rest ih =>
      rw [List.mapM_cons] at mapped
      obtain ⟨own, here, mapped⟩ := bind_ok _ _ _ mapped
      obtain ⟨others, later, built⟩ := bind_ok _ _ _ mapped
      cases built
      obtain ⟨scalar, _, named⟩ := JsonText.map_ok _ _ _ here
      rw [List.map_cons, List.map_cons, ih others later, ← named]

def SecretBlock.names (block : SecretBlock) : List Str := block.lines.map (fun line => line.1.toList)

theorem block_names (block : SecretBlock) (lines : List (Str × Str)) (rendered : block.render sprig version values = .ok lines) :
    (lines.map Prod.fst).Sublist block.names := by
  cases if_set_cases _ _ lines rendered with
  | inl none => simp [none]
  | inr some => rw [secret_line_names sprig version values block.lines lines some.1, SecretBlock.names]

theorem blocks_names (blocks : List SecretBlock) (lines : List (List (Str × Str)))
    (rendered : blocks.mapM (SecretBlock.render sprig version values) = .ok lines) :
    (lines.flatten.map Prod.fst).Sublist (blocks.flatMap SecretBlock.names) := by
  induction blocks generalizing lines with
  | nil =>
      cases rendered
      exact List.Sublist.refl _
  | cons block rest ih =>
      rw [List.mapM_cons] at rendered
      obtain ⟨own, here, rendered⟩ := bind_ok _ _ _ rendered
      obtain ⟨others, later, built⟩ := bind_ok _ _ _ rendered
      cases built
      rw [List.flatten_cons, List.map_append, List.flatMap_cons]
      exact (block_names sprig version values block own here).append (ih others later)

theorem names_distinct : (secretBlocks.flatMap SecretBlock.names).Nodup := by
  decide

theorem lines_plain : secretBlocks.all (fun block => block.lines.all (fun line => line.2.conversion = .plain)) = true := by
  decide

theorem secret_line_rendered (block : SecretBlock) (listed : block ∈ secretBlocks) (line : String × Pipeline)
    (member : line ∈ block.lines) (created on : Value) (contents : Str) (lines : List (Str × Str))
    (create : values.at "secret.create" = .ok created) (asked : created.isEmpty = false)
    (condition : block.condition version values = .ok on) (holds : on.isEmpty = false)
    (chosen : line.2.choose version values = .ok (.text contents)) (rendered : secretData sprig version values = .ok lines) :
    ∃ blocks extra, lines = blocks ++ extra ∧ extraSecretLines sprig values = .ok extra ∧
      (blocks.map Prod.fst).Sublist (secretBlocks.flatMap SecretBlock.names) ∧
      (line.1.toList, goQuote sprig.printing contents) ∈ blocks := by
  obtain ⟨value, again, rendered⟩ := bind_ok _ _ _ rendered
  cases create.symm.trans again
  rw [if_neg (Bool.eq_false_iff.mp asked)] at rendered
  obtain ⟨blocks, ofBlocks, rendered⟩ := bind_ok _ _ _ rendered
  obtain ⟨extra, ofExtra, built⟩ := bind_ok _ _ _ rendered
  cases built
  refine ⟨blocks.flatten, extra, rfl, ofExtra, blocks_names sprig version values secretBlocks blocks ofBlocks, ?_⟩
  obtain ⟨own, inBlocks, ofBlock⟩ := map_m_reaches _ _ blocks ofBlocks block listed
  refine List.mem_flatten.mpr ⟨own, inBlocks, ?_⟩
  rw [SecretBlock.render, ifSet, condition] at ofBlock
  have ofLines := (if_neg (Bool.eq_false_iff.mp holds)).symm.trans ofBlock
  obtain ⟨written, inOwn, ofLine⟩ := map_m_reaches _ _ own ofLines line member
  obtain ⟨scalar, quoted, named⟩ := JsonText.map_ok _ _ _ ofLine
  obtain ⟨given, again, same⟩ := JsonText.map_ok _ _ _ quoted
  cases chosen.symm.trans again
  have plain : line.2.conversion = .plain := by
    have each := List.all_eq_true.mp (List.all_eq_true.mp lines_plain block listed) line member
    exact of_decide_eq_true each
  rw [plain] at same
  rw [← named, ← same] at inOwn
  exact inOwn

end Lines

def itemSecrets : List (Str × String) :=
  [("APP_DATABASE_POSTGRES_PASSWORD".toList, "database.postgres.existingSecret"),
    ("APP_DATABASE_URL".toList, "database.existingSecret"), ("APP_ALEMBIC_DATABASE_URL".toList, "database.existingSecret"),
    ("APP_REDIS_PASSWORD".toList, "redis.existingSecret"), ("APP_AUTH_JWT_SECRET".toList, "auth.existingSecret"),
    ("APP_AUTH_JWT_PUBLIC_KEY".toList, "auth.existingSecret")]

theorem lines_items : secretBlocks.all (fun block => block.lines.all (fun line =>
    itemSecrets.all (fun item => item.1 != line.1.toList || item.2 == block.existing))) = true := by
  decide

section Items

variable (version : Str) (values : Value)

def Named (item : SecretVariable) : Prop :=
  ∃ existing value, (item.name, existing) ∈ itemSecrets ∧ values.at existing = .ok value ∧ value.isEmpty = false

theorem secret_item_named (name secretPath keyPath : String) (optional : Bool) (item : SecretVariable) (value : Value)
    (rendered : secretItem values name secretPath keyPath optional = .ok item)
    (known : (name.toList, secretPath) ∈ itemSecrets) (given : values.at secretPath = .ok value)
    (nonempty : value.isEmpty = false) : Named values item :=
  ⟨secretPath, value, (secret_item_name values name secretPath keyPath optional item rendered).symm ▸ known, given, nonempty⟩

theorem postgres_items_given (items : List SecretVariable) (rendered : postgresItems version values = .ok items) :
    ∀ item ∈ items, Named values item := by
  cases if_set_cases _ _ items rendered with
  | inl none => simp [none]
  | inr some =>
      obtain ⟨body, value, condition, nonempty⟩ := some
      obtain ⟨password, first, built⟩ := bind_ok _ _ _ body
      cases built
      have given := both_nonempty _ _ value condition nonempty
      simpa using secret_item_named values _ _ _ _ password value first (by simp [itemSecrets]) given nonempty

theorem custom_items_given (items : List SecretVariable) (rendered : customItems version values = .ok items) :
    ∀ item ∈ items, Named values item := by
  cases if_set_cases _ _ items rendered with
  | inl none => simp [none]
  | inr some =>
      obtain ⟨body, value, condition, nonempty⟩ := some
      obtain ⟨url, first, body⟩ := bind_ok _ _ _ body
      obtain ⟨alembicUrl, second, built⟩ := bind_ok _ _ _ body
      cases built
      have given := both_nonempty _ _ value condition nonempty
      have one := secret_item_named values _ _ _ _ url value first (by simp [itemSecrets]) given nonempty
      have other := secret_item_named values _ _ _ _ alembicUrl value second (by simp [itemSecrets]) given nonempty
      simp [one, other]

theorem redis_items_given (items : List SecretVariable) (rendered : redisItems values = .ok items) :
    ∀ item ∈ items, Named values item := by
  cases if_set_cases _ _ items rendered with
  | inl none => simp [none]
  | inr some =>
      obtain ⟨body, value, given, nonempty⟩ := some
      obtain ⟨password, first, built⟩ := bind_ok _ _ _ body
      cases built
      simpa using secret_item_named values _ _ _ _ password value first (by simp [itemSecrets]) given nonempty

theorem auth_items_given (items : List SecretVariable) (rendered : authItems values = .ok items) :
    ∀ item ∈ items, Named values item := by
  cases if_set_cases _ _ items rendered with
  | inl none => simp [none]
  | inr some =>
      obtain ⟨body, value, condition, nonempty⟩ := some
      obtain ⟨secret, first, body⟩ := bind_ok _ _ _ body
      obtain ⟨publicKey, second, built⟩ := bind_ok _ _ _ body
      cases built
      have given := both_nonempty _ _ value condition nonempty
      have one := secret_item_named values _ _ _ _ secret value first (by simp [itemSecrets]) given nonempty
      have other := secret_item_named values _ _ _ _ publicKey value second (by simp [itemSecrets]) given nonempty
      simp [one, other]

theorem condition_unnamed (block : SecretBlock) (on : Value) (condition : block.condition version values = .ok on)
    (holds : on.isEmpty = false) : ∃ value, values.at block.existing = .ok value ∧ value.isEmpty = true := by
  have unset : both (values.at block.given) (negated (values.at block.existing)) = .ok on := by
    unfold SecretBlock.condition at condition
    cases first : block.first with
    | none =>
        rw [first] at condition
        exact condition
    | some expression =>
        rw [first] at condition
        exact both_nonempty _ _ on condition holds
  obtain ⟨value, given, same⟩ := JsonText.map_ok _ _ _ (both_nonempty _ _ on unset holds)
  refine ⟨value, given, ?_⟩
  rw [← same] at holds
  simpa [Value.isEmpty] using holds

theorem block_items_apart (block : SecretBlock) (listed : block ∈ secretBlocks) (line : String × Pipeline)
    (member : line ∈ block.lines) (on : Value) (condition : block.condition version values = .ok on)
    (holds : on.isEmpty = false) (item : SecretVariable) (named : Named values item) : line.1.toList ≠ item.name := by
  intro same
  obtain ⟨existing, value, known, given, nonempty⟩ := named
  have checked := List.all_eq_true.mp (List.all_eq_true.mp (List.all_eq_true.mp lines_items block listed) line member) _ known
  simp only [same, bne_self_eq_false, Bool.false_or, beq_iff_eq] at checked
  obtain ⟨other, again, empty⟩ := condition_unnamed version values block on condition holds
  rw [checked] at given
  cases given.symm.trans again
  exact absurd empty (Bool.eq_false_iff.mp nonempty)

end Items

section Delivery

variable (cluster : Cluster) (image : Environment) (fullname : Str)

theorem secret_over_config_map (items : List SecretVariable) (environment : Environment) (data : Dict Str Str) (name text : Str)
    (started : Container.environment cluster image
      ⟨[{ kind := .configMap, name := fullname }, { kind := .secret, name := fullname }], items⟩ = some environment)
    (installed : cluster.secrets fullname = some data) (given : data.get name = some text)
    (others : ∀ item ∈ items, name ≠ item.name) : environment name = some text := by
  obtain ⟨objects, layers, ofObjects, ofItems, stacked, _⟩ := (environment_some_iff cluster image _ environment).mp started
  obtain ⟨configMap, rest, _, ofSecret, rfl⟩ := map_m_append_some _ [_] [_] objects ofObjects
  have secret : ObjectRef.layer cluster { kind := .secret, name := fullname } = some (fun name => data.get name) := by
    rw [ObjectRef.layer, Cluster.object, installed]
    rfl
  rw [List.mapM_cons, secret] at ofSecret
  cases ofSecret
  rw [stacked, stack_append, stack_silent _ layers name (items_silent cluster items layers name ofItems others), stack_append]
  have top : stack (stack image configMap) [fun name => data.get name] name = some text := by
    rw [stack, List.foldl_cons, List.foldl_nil, above, given]
    rfl
  exact top

variable (sprig : Sprig) (version : Str) (values : Value)

structure OwnSecret : Prop where
  created : ∃ value, values.at "secret.create" = .ok value ∧ value.isEmpty = false
  noOther : ∃ value, values.at "existingSecret" = .ok value ∧ value.isEmpty = true
  noFurther : ∃ value, values.at "extraEnvFrom" = .ok value ∧ value.isEmpty = true

theorem own_objects (own : OwnSecret values) :
    releaseObjects values fullname =
        .ok [{ kind := .configMap, name := fullname }, { kind := .secret, name := fullname }] ∧
      extraObjects values = .ok [] := by
  obtain ⟨created, create, asked⟩ := own.created
  obtain ⟨other, noOther, empty⟩ := own.noOther
  obtain ⟨further, noFurther, none⟩ := own.noFurther
  have makes : ifSet (values.at "secret.create") (Except.ok [({ kind := .secret, name := fullname } : ObjectRef)]) =
      .ok [{ kind := .secret, name := fullname }] := by
    rw [ifSet, create]
    exact if_neg (Bool.eq_false_iff.mp asked)
  constructor
  · rw [releaseObjects, makes, if_set_empty _ _ other noOther empty]
    rfl
  · rw [extraObjects, noFurther]
    exact if_pos none

theorem workload_items (own : OwnSecret values) (container : Container)
    (workload : podContainer version values fullname = .ok container ∨ migrateContainer version values fullname = .ok (some container)) :
    ∃ items, container = ⟨[{ kind := .configMap, name := fullname }, { kind := .secret, name := fullname }], items⟩ ∧
      ∀ item ∈ items, Named values item := by
  obtain ⟨ofObjects, noExtra⟩ := own_objects fullname values own
  cases workload with
  | inl pod =>
      obtain ⟨objects, found, pod⟩ := bind_ok _ _ _ pod
      obtain ⟨extra, further, pod⟩ := bind_ok _ _ _ pod
      obtain ⟨items, rendered, built⟩ := bind_ok _ _ _ pod
      cases built
      cases ofObjects.symm.trans ((map_error_ok _ _ _).mp found)
      cases noExtra.symm.trans further
      obtain ⟨postgres, custom, redis, auth, ofPostgres, ofCustom, ofRedis, ofAuth, rfl⟩ :=
        pod_items_parts version values items ((map_error_ok _ _ _).mp rendered)
      refine ⟨_, rfl, ?_⟩
      intro item member
      simp only [List.mem_append] at member
      obtain ((inPostgres | inCustom) | inRedis) | inAuth := member
      · exact postgres_items_given version values postgres ofPostgres item inPostgres
      · exact custom_items_given version values custom ofCustom item inCustom
      · exact redis_items_given values redis ofRedis item inRedis
      · exact auth_items_given values auth ofAuth item inAuth
  | inr job =>
      obtain ⟨enabled, _, job⟩ := bind_ok _ _ _ job
      have on : ¬ enabled.isEmpty = true := by
        intro off
        rw [if_pos off] at job
        cases job
      rw [if_neg on] at job
      obtain ⟨objects, found, job⟩ := bind_ok _ _ _ job
      obtain ⟨postgres, ofPostgres, job⟩ := bind_ok _ _ _ job
      obtain ⟨custom, ofCustom, built⟩ := bind_ok _ _ _ job
      cases built
      cases ofObjects.symm.trans ((map_error_ok _ _ _).mp found)
      refine ⟨_, rfl, ?_⟩
      intro item member
      cases List.mem_append.mp member with
      | inl inPostgres => exact postgres_items_given version values postgres ((map_error_ok _ _ _).mp ofPostgres) item inPostgres
      | inr inCustom => exact custom_items_given version values custom ((map_error_ok _ _ _).mp ofCustom) item inCustom

theorem secret_delivered (own : OwnSecret values) (block : SecretBlock) (listed : block ∈ secretBlocks) (line : String × Pipeline)
    (member : line ∈ block.lines) (on : Value) (condition : block.condition version values = .ok on)
    (holds : on.isEmpty = false) (contents : Str) (chosen : line.2.choose version values = .ok (.text contents))
    (lines : List (Str × Str)) (rendered : secretData sprig version values = .ok lines)
    (sole : ∀ extra, extraSecretLines sprig values = .ok extra → line.1.toList ∉ extra.map Prod.fst)
    (installed : cluster.secrets fullname = some (manifestData lines)) (container : Container)
    (workload : podContainer version values fullname = .ok container ∨ migrateContainer version values fullname = .ok (some container))
    (environment : Environment) (started : container.environment cluster image = some environment) :
    environment line.1.toList = some contents := by
  obtain ⟨created, create, asked⟩ := own.created
  obtain ⟨blocks, extra, rfl, ofExtra, names, written⟩ := secret_line_rendered sprig version values block listed line member
    created on contents lines create asked condition holds chosen rendered
  have single : ((blocks ++ extra).map Prod.fst).count line.1.toList ≤ 1 := by
    rw [List.map_append, List.count_append, List.count_eq_zero.mpr (sole extra ofExtra), Nat.add_zero]
    exact le_trans (names.count_le _) (List.nodup_iff_count_le_one.mp names_distinct _)
  have given := manifest_single (blocks ++ extra) line.1.toList _ contents (List.mem_append_left extra written) single
    (read_go_quote sprig.printing contents)
  have apart (item : SecretVariable) (named : Named values item) : line.1.toList ≠ item.name :=
    block_items_apart version values block listed line member on condition holds item named
  obtain ⟨items, rfl, named⟩ := workload_items fullname version values own container workload
  exact secret_over_config_map cluster image fullname items environment _ _ contents started installed given
    (fun item inItems => apart item (named item inItems))

end Delivery

def quotedPassword : Str := "a\"b\\n: #".toList

def quotedValues : Value :=
  tree
    [("secret", tree [("create", .bool true)]), ("existingSecret", texted ""), ("extraEnvFrom", .list []),
      ("extraSecretEnv", tree []), ("database", tree [("backend", texted "sqlite"), ("postgres", tree [])]),
      ("redis", tree [("password", .text quotedPassword), ("existingSecret", texted "")]),
      ("auth", tree [("enabled", .bool false)])]

def quotedLines : List (Str × Str) := [("APP_REDIS_PASSWORD".toList, goQuote sprig.printing quotedPassword)]

def quotedCluster : Cluster where
  configMaps name := if name = "chassis".toList then some Dict.empty else none
  secrets name := if name = "chassis".toList then some (manifestData quotedLines) else none

def quotedContainer : Container :=
  ⟨[{ kind := .configMap, name := "chassis".toList }, { kind := .secret, name := "chassis".toList }], []⟩

def quotedEnvironment : Environment := (quotedContainer.environment quotedCluster (fun _ => none)).getD (fun _ => none)

theorem quoted_release : secretData sprig appVersion quotedValues = .ok quotedLines ∧
    podContainer appVersion quotedValues "chassis".toList = .ok quotedContainer ∧
    (quotedContainer.environment quotedCluster (fun _ => none)).isSome = true := by
  decide +kernel

theorem quoted_started : quotedContainer.environment quotedCluster (fun _ => none) = some quotedEnvironment :=
  (Option.getD_of_ne_none (Option.isSome_iff_ne_none.mp quoted_release.2.2) _).symm

theorem quoted_asked : redisPassword.condition appVersion quotedValues = .ok (.bool true) := by
  rfl

theorem quoted_installed : quotedCluster.secrets "chassis".toList = some (manifestData quotedLines) := by
  simp only [quotedCluster, if_true]

theorem quoted_own : OwnSecret quotedValues :=
  ⟨⟨.bool true, rfl, rfl⟩, ⟨texted "", rfl, rfl⟩, ⟨.list [], rfl, rfl⟩⟩

theorem secret_delivered_quoted :
    podContainer appVersion quotedValues "chassis".toList = .ok quotedContainer ∧
      quotedContainer.environment quotedCluster (fun _ => none) = some quotedEnvironment ∧
      quotedEnvironment "APP_REDIS_PASSWORD".toList = some quotedPassword := by
  obtain ⟨rendered, pod, _⟩ := quoted_release
  refine ⟨pod, quoted_started, ?_⟩
  have sole (extra : List (Str × Str)) (given : extraSecretLines sprig quotedValues = .ok extra) :
      "APP_REDIS_PASSWORD".toList ∉ extra.map Prod.fst := by
    have none : extraSecretLines sprig quotedValues = .ok [] := rfl
    cases given.symm.trans none
    exact List.not_mem_nil
  exact secret_delivered quotedCluster (fun _ => none) "chassis".toList sprig appVersion quotedValues quoted_own redisPassword
    (by simp [secretBlocks]) ("APP_REDIS_PASSWORD", value "redis.password") (by simp [redisPassword]) (.bool true) quoted_asked rfl
    quotedPassword rfl quotedLines rendered sole quoted_installed quotedContainer (.inl pod) quotedEnvironment
    quoted_started

end Chassis.Chart
