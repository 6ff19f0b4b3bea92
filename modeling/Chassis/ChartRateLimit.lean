import Chassis.ChartSettings
import Chassis.ProxySettings

set_option autoImplicit false

namespace Chassis.Chart

open Chassis.Configuration Helm JsonText Text

def narrow : FieldKind → Bool
  | .int (some ge) (some le) => -10 ^ 6 < ge && le < 10 ^ 6
  | .int _ _ => false
  | .strings => false
  | _ => true

theorem narrow_small (kind : FieldKind) (small : narrow kind = true) (n : Int) (x : kind.Value)
    (meant : ofNumber kind n = some x) : n.natAbs < 10 ^ 6 := by
  by_contra large
  obtain ⟨ge, le, rfl⟩ := large_int kind n x (not_lt.mp large) meant
  cases ge with
  | none => cases small
  | some ge =>
      cases le with
      | none => cases small
      | some le =>
          have range := int_admitted (some ge) (some le) n x meant
          simp only [narrow, inRange, Option.all_some, Bool.and_eq_true, decide_eq_true_eq] at range small
          omega

theorem narrow_parsed (parsing : Parsing) (kind : FieldKind) (small : narrow kind = true) (value : Value) (x : kind.Value)
    (meant : meaning parsing kind value = some x) : parse parsing kind value.goText = some x := by
  cases value with
  | null => cases meant
  | bool value =>
      cases kind with
      | bool => exact (switch_text value).1.trans meant
      | _ => cases meant
  | int n => exact parse_number parsing kind n.toInt x (int64_small n) meant
  | float number =>
      obtain ⟨n, integral, meant⟩ := Option.bind_eq_some_iff.mp meant
      have bound := narrow_small kind small n x meant
      have written : (Value.float number).goText = intText n := number.whole_text n integral bound
      rw [written]
      exact parse_number parsing kind n x (by omega) meant
  | text contents => exact meant
  | list items =>
      cases kind with
      | strings => cases small
      | _ => cases meant
  | map members => cases meant

def Admitted (parsing : Parsing) (values : Value) (path : String) (kind : FieldKind) : Prop :=
  ∀ given, values.at path = .ok given → given.isNull = true ∨ (meaning parsing kind given).isSome = true

instance (parsing : Parsing) (values : Value) (path : String) (kind : FieldKind) :
    Decidable (Admitted parsing values path kind) :=
  match found : values.at path with
  | .error _ => isTrue (fun given again => by cases found.symm.trans again)
  | .ok given =>
      decidable_of_iff (given.isNull = true ∨ (meaning parsing kind given).isSome = true)
        ⟨fun holds other again => by cases found.symm.trans again; exact holds, fun admitted => admitted given found⟩

def rateLimitKeys : List (String × AnyField) :=
  [("rateLimit.enabled", ⟨_, rateLimitEnabled⟩), ("rateLimit.requests", ⟨_, rateLimitRequests⟩),
    ("rateLimit.windowSeconds", ⟨_, rateLimitWindowSeconds⟩), ("rateLimit.keyStrategy", ⟨_, rateLimitKeyStrategy⟩),
    ("rateLimit.storageBackend", ⟨_, rateLimitStorageBackend⟩),
    ("rateLimit.trustProxyHeaders", ⟨_, rateLimitTrustProxyHeaders⟩), ("redis.port", ⟨_, redisPort⟩),
    ("redis.db", ⟨_, redisDb⟩)]

-- The pod of a release: the ConfigMap is rendered and is in the environment,
-- and is the one source there of the variables of rate limiting.
structure Deployed (sprig : Sprig) (parsing : Parsing) (version : Str) (values : Value) (lines : List (Str × Str))
    (environment : Environment) : Prop where
  rendered : configMap.render sprig version values = .ok lines
  enabled : ∃ given, values.at "rateLimit.enabled" = .ok given ∧ meaning parsing .bool given = some true
  extraEnv : ∀ extra, values.at "extraEnv" = .ok extra → extra.isEmpty = true
  admitted : ∀ key ∈ rateLimitKeys, Admitted parsing values key.1 key.2.1
  delivered : ∀ name text, (manifestData lines).get name = some text → environment name = some text
  sole : ∀ name, "APP_RATE_LIMIT_".toList <+: name → (manifestData lines).get name = none → environment name = none

theorem switch_zero (n : Int) (x : Bool) (meant : ofNumber .bool n = some x) : n = 0 ↔ x = false := by
  by_cases off : n = 0
  · rw [ofNumber, if_pos off] at meant
    exact iff_of_true off (Option.some.inj meant).symm
  · by_cases on : n = 1
    · rw [ofNumber, if_neg off, if_pos on] at meant
      cases meant
      exact iff_of_false off (by decide)
    · rw [ofNumber, if_neg off, if_neg on] at meant
      cases meant

theorem switch_given (parsing : Parsing) (given : Value) (x : Bool) (meant : meaning parsing .bool given = some x) :
    (∃ contents, given = .text contents ∧ contents ≠ [] ∧ parseBool contents = some x) ∨ given.isEmpty = !x := by
  cases given with
  | null => cases meant
  | bool value =>
      cases meant
      exact .inr rfl
  | int n =>
      have off : n = 0 ↔ x = false := by
        rw [← switch_zero n.toInt x meant, ← Int64.toInt_zero, Int64.toInt_inj]
      exact .inr (by simp [Value.isEmpty, off])
  | float number =>
      obtain ⟨n, integral, meant⟩ := Option.bind_eq_some_iff.mp meant
      have off : number.mantissa = 0 ↔ x = false := (number.whole_zero n integral).trans (switch_zero n x meant)
      exact .inr (by simp [Value.isEmpty, off])
  | text contents =>
      refine .inl ⟨contents, rfl, ?_, meant⟩
      intro none
      subst none
      cases meant
  | list items => cases meant
  | map members => cases meant

theorem set_nonempty (parsing : Parsing) (given : Value) (meant : meaning parsing .bool given = some true) :
    given.isEmpty = false := by
  cases switch_given parsing given true meant with
  | inl written =>
      obtain ⟨contents, rfl, nonempty, _⟩ := written
      exact List.isEmpty_eq_false_iff.mpr nonempty
  | inr on => exact on

theorem trusts_unless_written (parsing : Parsing) (given : Value) (x : Bool)
    (meant : meaning parsing .bool (if given.isEmpty then .bool true else given) = some x) :
    x = false ↔ ∃ contents, given = .text contents ∧ parseBool contents = some false := by
  constructor
  · intro off
    subst off
    cases set : given.isEmpty with
    | true =>
        rw [if_pos set] at meant
        cases meant
    | false =>
        rw [if_neg (by simp [set])] at meant
        cases switch_given parsing given false meant with
        | inl written =>
            obtain ⟨contents, same, _, parsed⟩ := written
            exact ⟨contents, same, parsed⟩
        | inr empty => cases set.symm.trans empty
  · rintro ⟨contents, rfl, parsed⟩
    have set : contents ≠ [] := by
      intro none
      subst none
      cases parsed
    rw [if_neg (by simp [Value.isEmpty, set])] at meant
    exact Option.some.inj (meant.symm.trans parsed)

theorem free_read (field : Field (.str none)) (parsing : Parsing) (environment : Environment) :
    ∃ text, field.read parsing environment = some text := by
  cases found : environment field.envName with
  | none => exact ⟨_, read_unset field parsing environment found⟩
  | some text => exact ⟨text, read_set field parsing environment text found⟩

def unsetFields : List AnyField := [⟨_, rateLimitStorageUrl⟩, ⟨_, rateLimitProxyHeaders⟩, ⟨_, rateLimitTrustedProxies⟩]

theorem unset_unnamed : ∀ field ∈ unsetFields, field.2.envName ∉ configMap.names := by
  unfold unsetFields configMap postgresLines sqliteLines authLines rateLimitLines cacheLines redisLines tracingLines corsLines
    rateLimitStorageUrl rateLimitProxyHeaders rateLimitTrustedProxies
  simp only [Template.names]
  rw [Literals.to_list_bytewise]
  decide +kernel

section Release

variable (sprig : Sprig) (parsing : Parsing) (version : Str) (values : Value) (lines : List (Str × Str))
  (environment : Environment) (deployed : Deployed sprig parsing version values lines environment)

include deployed in
theorem written_names : (lines.map Prod.fst).Sublist configMap.names := by
  have extras : configMap.Extras values := by
    simpa [configMap, postgresLines, sqliteLines, authLines, rateLimitLines, cacheLines, redisLines, tracingLines,
      corsLines, Template.Extras] using deployed.extraEnv
  exact Template.render_names sprig version values configMap lines extras deployed.rendered

include deployed in
theorem field_absent {kind : FieldKind} (field : Field kind) (member : ⟨kind, field⟩ ∈ unsetFields)
    (owned : "APP_RATE_LIMIT_".toList <+: field.envName) : field.read parsing environment = some field.default := by
  have written := written_names sprig parsing version values lines environment deployed
  have absent := manifest_absent lines field.envName (fun named => unset_unnamed _ member (written.mem named))
  exact read_unset field parsing environment (deployed.sole field.envName owned absent)

include deployed in
theorem field_delivered {kind : FieldKind} (path : String) (field : Field kind) (member : (path, ⟨kind, field⟩) ∈ rateLimitKeys)
    (small : narrow kind = true) (name : String) (fallback : Value)
    (listed : (name, valueOr path fallback) ∈ configMap.entries version values) (named : field.envName = name.toList)
    (default : kind.Value) (known : meaning parsing kind fallback = some default) :
    ∃ given x, values.at path = .ok given ∧ meaning parsing kind (if given.isEmpty then fallback else given) = some x ∧
      field.read parsing environment = some x := by
  obtain ⟨scalar, written, line⟩ :=
    Template.render_entry sprig version values configMap lines name (valueOr path fallback) deployed.rendered listed
  obtain ⟨taken, chosen, same⟩ := map_ok _ _ _ written
  obtain ⟨given, found, _⟩ := bind_ok _ _ _ chosen
  have takes : ∃ x, taken = (if given.isEmpty then fallback else given) ∧ meaning parsing kind taken = some x := by
    cases choose_ok version values (valueOr path fallback) given taken found chosen with
    | inl kept =>
        obtain ⟨set, rfl⟩ := kept
        have set : taken.isEmpty = false := set.resolve_left nofun
        have given : taken.isNull = false := taken.nonempty_set set
        have admitted := (deployed.admitted _ member taken found).resolve_left (by simp [given])
        obtain ⟨x, meant⟩ := Option.isSome_iff_exists.mp admitted
        exact ⟨x, by rw [if_neg (by simp [set])], meant⟩
    | inr replaced =>
        obtain ⟨expression, same, empty, evaluated⟩ := replaced
        cases same
        cases evaluated
        exact ⟨default, (if_pos empty).symm, known⟩
  obtain ⟨x, decided, meant⟩ := takes
  have read := read_quote sprig.printing taken (meant_set parsing kind taken x meant)
  have unrepeated : Unrepeated sprig.printing values name.toList := by
    intro extra inside given ranged
    rw [range_empty sprig.printing extra (deployed.extraEnv extra given) inside ranged]
    exact List.not_mem_nil
  have data := entry_delivered sprig version values lines deployed.rendered name (valueOr path fallback) listed unrepeated
    scalar taken.goText line (same ▸ read)
  refine ⟨given, x, found, decided ▸ meant, ?_⟩
  rw [read_set field parsing environment taken.goText (named ▸ deployed.delivered _ _ data)]
  exact narrow_parsed parsing kind small taken x meant

include deployed in
theorem limits_listed (entry : String × Pipeline) (inside : entry ∈ rateLimitLines.entries version values) :
    entry ∈ configMap.entries version values := by
  obtain ⟨given, found, on⟩ := deployed.enabled
  exact Template.outer_blocks_rendered version values configMap (.values "rateLimit.enabled") rateLimitLines
    (List.mem_of_getElem? (i := 3) rfl) given found (set_nonempty parsing given on) entry inside

include deployed in
theorem redis_listed (entry : String × Pipeline) (inside : entry ∈ redisLines.entries version values) :
    entry ∈ configMap.entries version values := by
  obtain ⟨given, found, on⟩ := deployed.enabled
  have set := set_nonempty parsing given on
  have decided : (Expr.or (.values "rateLimit.enabled") (.values "cache.enabled")).eval version values = .ok given := by
    change (values.at "rateLimit.enabled" >>= _) = _
    rw [found]
    change (if given.isEmpty then _ else Except.ok given) = _
    rw [if_neg (by simp [set])]
  exact Template.outer_blocks_rendered version values configMap _ redisLines (List.mem_of_getElem? (i := 5) rfl) given decided
    set entry inside

include deployed in
theorem release_read : ∃ given settings, values.at "rateLimit.trustProxyHeaders" = .ok given ∧
    meaning parsing .bool (if given.isEmpty then .bool true else given) = some settings.rateLimitTrustProxyHeaders ∧
      settings.rateLimitTrustedProxies = [] ∧ readRateLimitSettings parsing environment = some settings := by
  have delivered {kind : FieldKind} (path : String) (field : Field kind) :=
    field_delivered sprig parsing version values lines environment deployed path field
  have absent {kind : FieldKind} (field : Field kind) :=
    field_absent sprig parsing version values lines environment deployed field
  have outer := Template.outer_entries_rendered version values configMap
  have limits := limits_listed sprig parsing version values lines environment deployed
  have redis := redis_listed sprig parsing version values lines environment deployed
  obtain ⟨_, enabled, _, _, readEnabled⟩ := delivered "rateLimit.enabled" rateLimitEnabled
    (List.mem_of_getElem? (i := 0) rfl) rfl "APP_RATE_LIMIT_ENABLED" (.bool false)
    (outer _ (List.mem_of_getElem? (i := 20) rfl)) (by decide) false rfl
  obtain ⟨_, requests, _, _, readRequests⟩ := delivered "rateLimit.requests" rateLimitRequests
    (List.mem_of_getElem? (i := 1) rfl) rfl "APP_RATE_LIMIT_REQUESTS" (.int 100)
    (limits _ (List.mem_of_getElem? (i := 0) rfl)) (by decide) (100 : Int) rfl
  obtain ⟨_, window, _, _, readWindow⟩ := delivered "rateLimit.windowSeconds" rateLimitWindowSeconds
    (List.mem_of_getElem? (i := 2) rfl) rfl "APP_RATE_LIMIT_WINDOW_SECONDS" (.int 60)
    (limits _ (List.mem_of_getElem? (i := 1) rfl)) (by decide) (60 : Int) rfl
  obtain ⟨_, strategy, _, _, readStrategy⟩ := delivered "rateLimit.keyStrategy" rateLimitKeyStrategy
    (List.mem_of_getElem? (i := 3) rfl) rfl "APP_RATE_LIMIT_KEY_STRATEGY" (texted "ip")
    (limits _ (List.mem_of_getElem? (i := 2) rfl)) (by decide) "ip".toList rfl
  obtain ⟨_, backend, _, _, readBackend⟩ := delivered "rateLimit.storageBackend" rateLimitStorageBackend
    (List.mem_of_getElem? (i := 4) rfl) rfl "APP_RATE_LIMIT_STORAGE_BACKEND" (texted "redis")
    (limits _ (List.mem_of_getElem? (i := 3) rfl)) (by decide) "redis".toList rfl
  obtain ⟨given, trust, found, meant, readTrust⟩ := delivered "rateLimit.trustProxyHeaders" rateLimitTrustProxyHeaders
    (List.mem_of_getElem? (i := 5) rfl) rfl "APP_RATE_LIMIT_TRUST_PROXY_HEADERS" (.bool true)
    (limits _ (List.mem_of_getElem? (i := 4) rfl)) (by decide) true rfl
  obtain ⟨_, port, _, _, readPort⟩ := delivered "redis.port" redisPort (List.mem_of_getElem? (i := 6) rfl) rfl
    "APP_REDIS_PORT" (.int 6379) (redis _ (List.mem_of_getElem? (i := 1) rfl)) (by decide) (6379 : Int) rfl
  obtain ⟨_, db, _, _, readDb⟩ := delivered "redis.db" redisDb (List.mem_of_getElem? (i := 7) rfl) rfl
    "APP_REDIS_DB" (.int 0) (redis _ (List.mem_of_getElem? (i := 2) rfl)) (by decide) (0 : Int) rfl
  obtain ⟨host, readHost⟩ := free_read redisHost parsing environment
  obtain ⟨password, readPassword⟩ := free_read redisPassword parsing environment
  have readUrl := absent rateLimitStorageUrl (List.mem_of_getElem? (i := 0) rfl) (by decide)
  have readHeaders := absent rateLimitProxyHeaders (List.mem_of_getElem? (i := 1) rfl) (by decide)
  have readProxies := absent rateLimitTrustedProxies (List.mem_of_getElem? (i := 2) rfl) (by decide)
  let settings : RateLimitSettings :=
    { rateLimitEnabled := enabled, rateLimitRequests := requests, rateLimitWindowSeconds := window
      rateLimitKeyStrategy := strategy, rateLimitTrustProxyHeaders := trust
      rateLimitProxyHeaders := rateLimitProxyHeaders.default, rateLimitTrustedProxies := rateLimitTrustedProxies.default
      storage :=
        { rateLimitStorageUrl := rateLimitStorageUrl.default, rateLimitStorageBackend := storageBackend backend
          redisHost := host, redisPort := Int.toNat port, redisDb := Int.toNat db, redisPassword := password } }
  refine ⟨given, settings, found, meant, rfl, ?_⟩
  unfold readRateLimitSettings
  rw [readEnabled, readRequests, readWindow, readStrategy, readUrl, readBackend, readHost, readPort, readDb, readPassword,
    readTrust, readHeaders, readProxies]
  rfl

include deployed in
theorem chart_rate_limit_accepted_iff :
    (∃ settings, startRateLimiting parsing environment = .ok settings) ↔
      ∃ contents, values.at "rateLimit.trustProxyHeaders" = .ok (.text contents) ∧ parseBool contents = some false := by
  obtain ⟨given, settings, found, meant, none, read⟩ := release_read sprig parsing version values lines environment deployed
  have off : (∃ contents, values.at "rateLimit.trustProxyHeaders" = .ok (.text contents) ∧ parseBool contents = some false) ↔
      settings.rateLimitTrustProxyHeaders = false := by
    rw [trusts_unless_written parsing given _ meant, found]
    simp
  rw [start_without_proxies parsing environment settings read none, off]
  cases settings.rateLimitTrustProxyHeaders with
  | true =>
      rw [if_pos rfl]
      exact iff_of_false nofun nofun
  | false =>
      rw [if_neg nofun]
      exact iff_of_true ⟨_, rfl⟩ rfl

end Release

def limited (trustProxyHeaders : Value) : Value :=
  chartValues
    (tree
      [("enabled", .bool true), ("requests", .float ⟨1, 2, by decide⟩), ("windowSeconds", .float ⟨6, 1, by decide⟩),
        ("keyStrategy", texted "ip"), ("storageBackend", texted "redis"), ("trustProxyHeaders", trustProxyHeaders)])
    (tree [("enabled", .bool true), ("prefix", texted "http")])

def podEnvironment (values : Value) : Environment := fun name => (manifestData (renderedLines values)).get name

theorem pod_deployed (values : Value) (renders : (configMap.render sprig appVersion values).isOk = true)
    (enabled : values.at "rateLimit.enabled" = .ok (.bool true)) (extra : values.at "extraEnv" = .ok (tree []))
    (admitted : ∀ key ∈ rateLimitKeys, Admitted python values key.1 key.2.1) :
    Deployed sprig python appVersion values (renderedLines values) (podEnvironment values) where
  rendered := rendered_lines values renders
  enabled := ⟨.bool true, enabled, rfl⟩
  extraEnv := by
    intro other found
    cases extra.symm.trans found
    rfl
  admitted := admitted
  delivered := fun _ _ data => data
  sole := fun _ _ absent => absent

theorem limits_off_deployed : Deployed sprig python appVersion (limited (texted "false"))
    (renderedLines (limited (texted "false"))) (podEnvironment (limited (texted "false"))) :=
  pod_deployed _ (by decide +kernel) rfl rfl (by decide +kernel)

theorem limits_on_deployed : Deployed sprig python appVersion (limited (.bool true))
    (renderedLines (limited (.bool true))) (podEnvironment (limited (.bool true))) :=
  pod_deployed _ (by decide +kernel) rfl rfl (by decide +kernel)

theorem chart_rate_limit_accepted_iff_written :
    (∃ settings, startRateLimiting python (podEnvironment (limited (texted "false"))) = .ok settings) ↔
      ∃ contents, (limited (texted "false")).at "rateLimit.trustProxyHeaders" = .ok (.text contents) ∧
        parseBool contents = some false :=
  chart_rate_limit_accepted_iff sprig python appVersion (limited (texted "false")) (renderedLines (limited (texted "false")))
    (podEnvironment (limited (texted "false"))) limits_off_deployed

-- The values that the chart itself sets do not start.
theorem documented_limits_rejected :
    Deployed sprig python appVersion (limited (.bool true)) (renderedLines (limited (.bool true)))
        (podEnvironment (limited (.bool true))) ∧
      startRateLimiting python (podEnvironment (limited (.bool true))) = .error (.validator missingProxies) := by
  obtain ⟨given, settings, found, meant, none, read⟩ := release_read sprig python appVersion _ _ _ limits_on_deployed
  have set : (limited (.bool true)).at "rateLimit.trustProxyHeaders" = .ok (.bool true) := rfl
  cases set.symm.trans found
  have trusted : settings.rateLimitTrustProxyHeaders = true := (Option.some.inj meant).symm
  refine ⟨limits_on_deployed, ?_⟩
  rw [start_without_proxies python _ settings read none, if_pos trusted]

end Chassis.Chart
