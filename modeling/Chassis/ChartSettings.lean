import Chassis.ChartValues
import Chassis.ClaimErrors

set_option autoImplicit false

namespace Chassis.Chart

open Chassis.Configuration Helm JsonText Text

def unread : List String := ["RUN_DB_MIGRATIONS", "UVICORN_WORKERS", "UVICORN_FORWARDED_ALLOW_IPS"]

theorem entries_wired : ∀ entry ∈ configMap.allEntries, entry.1 ∈ unread ∨
    ∃ field ∈ settingsFields, field.2.envName = entry.1.toList ∧ wired field.1 entry.2 = true := by
  -- Only names of one length are compared.
  have sized : ∀ entry ∈ configMap.allEntries, (∃ field ∈ settingsFields, field.2.envName.length = entry.1.toList.length ∧
      field.2.envName = entry.1.toList ∧ wired field.1 entry.2 = true) ∨ entry.1 ∈ unread := by
    unfold settingsFields free switch whole chosen listed rateLimitEnabled rateLimitRequests rateLimitWindowSeconds
      rateLimitKeyStrategy rateLimitStorageUrl rateLimitStorageBackend redisHost redisPort redisDb redisPassword
      rateLimitTrustProxyHeaders rateLimitProxyHeaders rateLimitTrustedProxies
    rw [Literals.to_list_bytewise]
    decide +kernel
  intro entry member
  cases sized entry member with
  | inl found =>
      obtain ⟨field, declared, _, named, wires⟩ := found
      exact .inr ⟨field, declared, named, wires⟩
  | inr other => exact .inl other

theorem field_wired (entry : String × Pipeline) (listed : entry ∈ configMap.allEntries) (field : AnyField)
    (declared : field ∈ settingsFields) (named : field.2.envName = entry.1.toList) : wired field.1 entry.2 = true := by
  cases entries_wired entry listed with
  | inl other =>
      have start : ∀ name ∈ unread, name.toList.head? ≠ some 'A' := by decide
      have head : entry.1.toList.head? = some 'A' := by
        rw [← named]
        rfl
      exact absurd head (start entry.1 other)
  | inr owned =>
      obtain ⟨owner, member, same, wires⟩ := owned
      have equal : owner = field :=
        List.inj_on_of_nodup_map names_distinct member declared (same.trans named.symm)
      exact equal ▸ wires

theorem entry_taken (sprig : Sprig) (parsing : Parsing) (version : Str) (values : Value) (lines : List (Str × Str))
    (rendered : configMap.render sprig version values = .ok lines) (name : String) (pipeline : Pipeline)
    (listed : (name, pipeline) ∈ configMap.entries version values) (kind : FieldKind) (x : kind.Value) :
    ∃ taken, pipeline.choose version values = .ok taken ∧
      (Reaches sprig parsing version values lines name pipeline kind x ↔
        ReadAs parsing kind (quote sprig.printing (convert sprig pipeline.conversion taken)) x) := by
  obtain ⟨scalar, written, line⟩ := Template.render_entry sprig version values configMap lines name pipeline rendered listed
  obtain ⟨taken, chosen, same⟩ := map_ok _ _ _ written
  refine ⟨taken, chosen, ?_⟩
  rw [same]
  constructor
  · rintro ⟨other, again, _, read⟩
    cases written.symm.trans again
    exact read
  · intro read
    exact ⟨scalar, written, line, read⟩

theorem helm_values_reach_settings_iff (sprig : Sprig) (parsing : Parsing) (version : Str) (values : Value)
    (lines : List (Str × Str)) (rendered : configMap.render sprig version values = .ok lines) (name : String)
    (pipeline : Pipeline) (listed : (name, pipeline) ∈ configMap.entries version values) (field : AnyField)
    (declared : field ∈ settingsFields) (named : field.2.envName = name.toList) (given : Value)
    (found : values.at pipeline.path = .ok given) (x : field.1.Value) (meant : meaning parsing field.1 given = some x) :
    Reaches sprig parsing version values lines name pipeline field.1 x ↔
      Carried sprig parsing version values pipeline field.1 given x := by
  have wires := field_wired (name, pipeline) (Template.entries_all version values configMap _ listed) field declared named
  obtain ⟨taken, chosen, reads⟩ := entry_taken sprig parsing version values lines rendered name pipeline listed field.1 x
  exact reads.trans
    (pipeline_reads_iff sprig parsing version values pipeline field.1 given x wires taken found meant chosen)

theorem entries_once : ∀ entry ∈ configMap.allEntries, configMap.most entry.1.toList ≤ 1 := by
  unfold configMap postgresLines sqliteLines authLines rateLimitLines cacheLines redisLines tracingLines corsLines
  simp only [Template.most, Template.allEntries]
  rw [Literals.to_list_bytewise]
  decide +kernel

def Unrepeated (printing : Printing) (values : Value) (name : Str) : Prop :=
  ∀ extra inside, values.at "extraEnv" = .ok extra → rangeLines printing extra = .ok inside → name ∉ inside.map Prod.fst

theorem entry_delivered (sprig : Sprig) (version : Str) (values : Value) (lines : List (Str × Str))
    (rendered : configMap.render sprig version values = .ok lines) (name : String) (pipeline : Pipeline)
    (listed : (name, pipeline) ∈ configMap.entries version values)
    (unrepeated : Unrepeated sprig.printing values name.toList) (scalar text : Str) (line : (name.toList, scalar) ∈ lines)
    (read : readScalar scalar = some text) : (manifestData lines).get name.toList = some text := by
  have unnamed : configMap.Unnamed values sprig.printing name.toList := by
    simpa [configMap, postgresLines, sqliteLines, authLines, rateLimitLines, cacheLines, redisLines, tracingLines,
      corsLines, Template.Unnamed, Unrepeated] using unrepeated
  have once := entries_once _ (Template.entries_all version values configMap _ listed)
  have single := (Template.render_count sprig version values configMap lines name.toList unnamed rendered).trans once
  exact manifest_single lines name.toList scalar text line single read

theorem carried_value_read (sprig : Sprig) (parsing : Parsing) (version : Str) (values : Value)
    (lines : List (Str × Str)) (rendered : configMap.render sprig version values = .ok lines) (name : String)
    (pipeline : Pipeline) (listed : (name, pipeline) ∈ configMap.entries version values) (field : AnyField)
    (declared : field ∈ settingsFields) (named : field.2.envName = name.toList) (given : Value)
    (found : values.at pipeline.path = .ok given) (x : field.1.Value) (meant : meaning parsing field.1 given = some x)
    (carried : Carried sprig parsing version values pipeline field.1 given x)
    (unrepeated : Unrepeated sprig.printing values name.toList) (environment : Environment)
    (delivered : ∀ text, (manifestData lines).get name.toList = some text → nul ∉ text →
      environment name.toList = some text) : field.2.read parsing environment = some x := by
  have wires := field_wired (name, pipeline) (Template.entries_all version values configMap _ listed) field declared named
  obtain ⟨taken, chosen, reads⟩ := entry_taken sprig parsing version values lines rendered name pipeline listed field.1 x
  obtain ⟨scalar, _, line, text, read, clean, parsed⟩ := reads.mpr
    ((pipeline_reads_iff sprig parsing version values pipeline field.1 given x wires taken found meant chosen).mpr carried)
  have data := entry_delivered sprig version values lines rendered name pipeline listed unrepeated scalar text line read
  rw [read_set field.2 parsing environment text (named ▸ delivered text data clean)]
  exact parsed

theorem unset_reads_default (sprig : Sprig) (parsing : Parsing) (version : Str) (values : Value) (lines : List (Str × Str))
    (rendered : configMap.render sprig version values = .ok lines) (name : String) (pipeline : Pipeline)
    (listed : (name, pipeline) ∈ configMap.entries version values) (field : AnyField) (declared : field ∈ settingsFields)
    (named : field.2.envName = name.toList) (unset : values.at pipeline.path = .ok .null) (other : Value)
    (fallback : pipeline.fallback = some (.literal other)) (whole : ∀ start, pipeline.conversion ≠ .printf start)
    (x : field.1.Value) :
    Reaches sprig parsing version values lines name pipeline field.1 x ↔ meaning parsing field.1 other = some x := by
  have wires := field_wired (name, pipeline) (Template.entries_all version values configMap _ listed) field declared named
  obtain ⟨fits, suitable⟩ := Bool.and_eq_true_iff.mp wires
  rw [fallback, Option.all_some] at suitable
  obtain ⟨taken, chosen, reads⟩ := entry_taken sprig parsing version values lines rendered name pipeline listed field.1 x
  cases choose_ok version values pipeline .null taken unset chosen with
  | inl kept => simp [fallback, Value.isEmpty] at kept
  | inr replaced =>
      obtain ⟨expression, same, _, evaluated⟩ := replaced
      cases fallback.symm.trans same
      cases evaluated
      exact reads.trans (literal_read sprig parsing pipeline.conversion field.1 x fits whole other suitable)

def tree (members : List (String × Value)) : Value := .map (members.map (fun member => (member.1.toList, member.2)))

-- values.yaml, as far as the ConfigMap of its own settings reads it.
def chartValues (rateLimit metrics : Value) : Value :=
  tree
    [("app", tree
        [("name", texted "FastAPI Chassis"), ("version", texted ""), ("debug", .bool false),
          ("port", .float ⟨8, 3, by decide⟩), ("logLevel", texted "INFO"), ("logFormat", texted "json"),
          ("requestTimeout", .float ⟨3, 1, by decide⟩), ("workers", .float ⟨1, 0, by decide⟩),
          ("forwardedAllowIps", texted "*"), ("healthCheckPath", texted "/healthcheck"),
          ("readinessCheckPath", texted "/ready"), ("readinessIncludeDetails", .bool false),
          ("docsEnabled", .bool false), ("redocEnabled", .bool false), ("openapiEnabled", .bool false)]),
      ("database", tree
        [("backend", texted "postgres"),
          ("postgres", tree
            [("host", texted "postgres"), ("port", .float ⟨5432, 0, by decide⟩), ("name", texted "fastapi_chassis"),
              ("user", texted "fastapi")]),
          ("poolSize", .float ⟨5, 0, by decide⟩), ("maxOverflow", .float ⟨1, 1, by decide⟩), ("poolPrePing", .bool true),
          ("connectTimeout", .float ⟨5, 0, by decide⟩), ("healthTimeout", .float ⟨2, 0, by decide⟩),
          ("runMigrations", .bool false)]),
      ("auth", tree [("enabled", .bool false)]), ("rateLimit", rateLimit), ("cache", tree [("enabled", .bool false)]),
      ("redis", tree [("host", texted "redis"), ("port", .float ⟨6379, 0, by decide⟩), ("db", .float ⟨0, 0, by decide⟩)]),
      ("metrics", metrics), ("tracing", tree [("enabled", .bool false)]),
      ("security", tree
        [("headersEnabled", .bool true), ("hstsEnabled", .bool true), ("hstsMaxAge", .float ⟨31536, 3, by decide⟩),
          ("maxRequestBodyBytes", .float ⟨524288, 1, by decide⟩), ("trustedHosts", texted "")]),
      ("cors", tree [("allowedOrigins", texted "[]"), ("allowCredentials", .bool false)]), ("extraEnv", tree [])]

-- strconv.IsPrint on ASCII.
def asciiPrintable (c : Char) : Bool := 0x20 ≤ c.toNat && c.toNat ≤ 0x7E

theorem ascii_breaks (c : Char) (printable : asciiPrintable c = true) : isBreak c = false := by
  simp only [asciiPrintable, Bool.and_eq_true, decide_eq_true_eq] at printable
  have newline : c ≠ '\n' := by
    intro same
    subst same
    exact absurd printable.1 (by decide)
  have carriage : c ≠ '\r' := by
    intro same
    subst same
    exact absurd printable.1 (by decide)
  simp only [isBreak, newline, carriage, decide_false, Bool.false_or, Bool.or_eq_false_iff, decide_eq_false_iff_not]
  omega

def sprig : Sprig where
  printing := ⟨asciiPrintable, ascii_breaks⟩
  castInt64 := fun text => Int64.ofInt ((plainInt text).getD 0)

def python : Parsing := pydantic Auth.cpython

def renderedLines (values : Value) : List (Str × Str) :=
  match configMap.render sprig appVersion values with
  | .ok lines => lines
  | .error _ => []

theorem rendered_lines (values : Value) (renders : (configMap.render sprig appVersion values).isOk = true) :
    configMap.render sprig appVersion values = .ok (renderedLines values) := by
  unfold renderedLines
  cases found : configMap.render sprig appVersion values with
  | ok lines => rfl
  | error raised =>
      rw [found] at renders
      cases renders

def metricsDisabled : Value := chartValues (tree [("enabled", .bool false)]) (tree [("enabled", .bool false)])

theorem metrics_disabled_renders : configMap.render sprig appVersion metricsDisabled = .ok (renderedLines metricsDisabled) :=
  rendered_lines metricsDisabled (by decide +kernel)

def poolSize : AnyField := whole "database_pool_size" (some 1) (some 100) 5

theorem helm_values_reach_settings_iff_pool_size :
    Reaches sprig python appVersion metricsDisabled (renderedLines metricsDisabled) "APP_DATABASE_POOL_SIZE"
        (valueOr "database.poolSize" (.int 5)) poolSize.1 (5 : Int) ↔
      Carried sprig python appVersion metricsDisabled (valueOr "database.poolSize" (.int 5)) poolSize.1
        (.float ⟨5, 0, by decide⟩) (5 : Int) :=
  helm_values_reach_settings_iff sprig python appVersion metricsDisabled (renderedLines metricsDisabled)
    metrics_disabled_renders "APP_DATABASE_POOL_SIZE" (valueOr "database.poolSize" (.int 5))
    (Template.outer_entries_rendered appVersion metricsDisabled configMap _ (by simp [configMap, Template.outerEntries]))
    poolSize (by simp [settingsFields, poolSize]) (by decide) (.float ⟨5, 0, by decide⟩) rfl (5 : Int) rfl

theorem disabled_metrics_lost :
    configMap.render sprig appVersion metricsDisabled = .ok (renderedLines metricsDisabled) ∧
      ("APP_METRICS_ENABLED", valueOr "metrics.enabled" (.bool true)) ∈ configMap.entries appVersion metricsDisabled ∧
      metricsDisabled.at "metrics.enabled" = .ok (.bool false) ∧ meaning python .bool (.bool false) = some false ∧
      ¬ Reaches sprig python appVersion metricsDisabled (renderedLines metricsDisabled) "APP_METRICS_ENABLED"
        (valueOr "metrics.enabled" (.bool true)) .bool false := by
  have listed := Template.outer_entries_rendered appVersion metricsDisabled configMap
    ("APP_METRICS_ENABLED", valueOr "metrics.enabled" (.bool true)) (by simp [configMap, Template.outerEntries])
  have found : metricsDisabled.at "metrics.enabled" = .ok (.bool false) := rfl
  refine ⟨metrics_disabled_renders, listed, found, rfl, ?_⟩
  obtain ⟨taken, chosen, reads⟩ :=
    entry_taken sprig python appVersion metricsDisabled _ metrics_disabled_renders _ _ listed .bool false
  rw [reads, pipeline_reads_iff sprig python appVersion metricsDisabled _ .bool (.bool false) false rfl taken found rfl chosen]
  intro carried
  obtain ⟨other, evaluated, meant⟩ := carried.replaced (.literal (.bool true)) rfl rfl
  cases evaluated
  cases meant

end Chassis.Chart
