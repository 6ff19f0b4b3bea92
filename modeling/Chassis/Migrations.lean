import Chassis.ConfigParser
import Chassis.ConnectionUrls

set_option autoImplicit false

namespace Chassis.Migrations

open Text ConfigParser Connections
open Auth (startsWith)

-- Where alembic.ini is, and whether the directory of an SQLite file can be made.
structure Environment where
  here : Str
  makeParent : Str → Bool

inductive MigrationError where
  | settings (message : Str)
  | config (error : ConfigError)
  | directory
  | missingUrl
deriving DecidableEq

-- optionxform of the parser; no letter outside ASCII turns into one of the
-- names of the section.
def lower (name : Str) : Str := name.map Char.toLower

def sqlalchemyUrlOption : Str := "sqlalchemy.url".toList

-- The [alembic] section of alembic.ini, which configures no URL.
def alembicSection : List (Str × Str) :=
  [("script_location".toList, "alembic".toList), ("prepend_sys_path".toList, ".".toList),
    ("path_separator".toList, "os".toList), (sqlalchemyUrlOption, [])]

def fileConfig (environment : Environment) : Dict Str Str :=
  Dict.ofPairs (("here".toList, environment.here) :: alembicSection)

def getMainOption (options : Dict Str Str) (name : Str) : Except MigrationError (Option Str) :=
  (getOption lower options name).mapError .config

def setMainOption (options : Dict Str Str) (name value : Str) : Except MigrationError (Dict Str Str) :=
  ((beforeSet value).map (fun stored => options.set name stored)).mapError .config

def sqlitePath (databaseUrl : Str) : Option Str :=
  if startsWith "sqlite:///".toList databaseUrl then some (databaseUrl.drop 10) else none

def makeDirectory (environment : Environment) (databaseUrl : Str) : Except MigrationError Unit :=
  match sqlitePath databaseUrl with
  | none => .ok ()
  | some path =>
      if path = ":memory:".toList then .ok ()
      else if environment.makeParent path then .ok ()
      else .error .directory

-- What the body of env.py leaves for the two functions.
structure Prepared where
  databaseUrl : Str
  options : Dict Str Str

def settingsUrl (settings : Settings) : Except MigrationError Str :=
  ((resolveDatabaseDefaults settings).map Settings.alembicDatabaseUrl).mapError .settings

def prepare (environment : Environment) (settings : Settings) : Except MigrationError Prepared := do
  let configured ← getMainOption (fileConfig environment) sqlalchemyUrlOption
  let configuredUrl := strip (configured.getD [])
  let databaseUrl ← if configuredUrl = [] then settingsUrl settings else .ok configuredUrl
  let options ← setMainOption (fileConfig environment) sqlalchemyUrlOption databaseUrl
  makeDirectory environment databaseUrl
  return ⟨databaseUrl, options⟩

def runMigrationsOffline (prepared : Prepared) : Str := prepared.databaseUrl

def engineFromConfig (configuration : Dict Str Str) (start : Str) : Except MigrationError Str :=
  match configuration.get (start ++ "url".toList) with
  | none => .error .missingUrl
  | some url => .ok url

def runMigrationsOnline (prepared : Prepared) : Except MigrationError Str := do
  let configuration ← (items lower prepared.options).mapError .config
  engineFromConfig ((Dict.ofPairs configuration).set sqlalchemyUrlOption prepared.databaseUrl) "sqlalchemy.".toList

def UsesUrl (environment : Environment) (settings : Settings) (url : Str) : Prop :=
  ∃ prepared, prepare environment settings = .ok prepared ∧ runMigrationsOffline prepared = url ∧
    runMigrationsOnline prepared = .ok url

def storedOptions (environment : Environment) (url : Str) : Dict Str Str :=
  (fileConfig environment).set sqlalchemyUrlOption url

def DirectoryReady (environment : Environment) (url : Str) : Prop :=
  ∀ path, sqlitePath url = some path → path ≠ ":memory:".toList → environment.makeParent path = true

-- Every percent sign of the URL is doubled or part of a reference to an option
-- of the section that can be read itself, and so is every one of the directory.
def UrlReadable (environment : Environment) (url : Str) : Prop :=
  Reads lower (storedOptions environment url) 10 url ∧ Reads lower (storedOptions environment url) 10 environment.here ∧
    DirectoryReady environment url

theorem stored_items (environment : Environment) (url : Str) :
    (storedOptions environment url).items =
      [("here".toList, environment.here), ("script_location".toList, "alembic".toList),
        ("prepend_sys_path".toList, ".".toList), ("path_separator".toList, "os".toList), (sqlalchemyUrlOption, url)] :=
  rfl

theorem stored_names (environment : Environment) (url : Str) : ∀ name ∈ (storedOptions environment url).keys, '%' ∉ name := by
  rw [Dict.keys, stored_items]
  simp only [List.map_cons, List.map_nil, List.forall_mem_cons]
  decide

theorem lower_percent (name : Str) (percent : '%' ∈ name) : '%' ∈ lower name :=
  List.mem_map.mpr ⟨'%', percent, rfl⟩

theorem no_configured_url (environment : Environment) :
    getMainOption (fileConfig environment) sqlalchemyUrlOption = .ok (some []) := by
  have held : (fileConfig environment).get sqlalchemyUrlOption = some [] := rfl
  have read : beforeGet lower (fileConfig environment) [] = .ok [] := by
    rw [beforeGet, interpolateSome, expand.eq_def]
  rw [getMainOption, getOption, held]
  dsimp only
  rw [read]
  rfl

theorem make_directory_ok (environment : Environment) (url : Str) :
    makeDirectory environment url = .ok () ↔ DirectoryReady environment url := by
  unfold makeDirectory DirectoryReady
  cases sqlitePath url with
  | none => simp
  | some path =>
      dsimp only
      by_cases memory : path = ":memory:".toList
      · rw [if_pos memory]
        refine ⟨fun _ other same file => ?_, fun _ => rfl⟩
        cases same
        exact absurd memory file
      · rw [if_neg memory]
        by_cases made : environment.makeParent path = true
        · rw [if_pos made]
          refine ⟨fun _ other same _ => ?_, fun _ => rfl⟩
          cases same
          exact made
        · rw [if_neg made]
          constructor
          · intro failed
            cases failed
          · intro ready
            exact absurd (ready path rfl memory) made

theorem prepare_accepted (environment : Environment) (settings resolved : Settings)
    (accepted : resolveDatabaseDefaults settings = .ok resolved) :
    prepare environment settings =
      (setMainOption (fileConfig environment) sqlalchemyUrlOption resolved.alembicDatabaseUrl).bind (fun options =>
        (makeDirectory environment resolved.alembicDatabaseUrl).map (fun _ => ⟨resolved.alembicDatabaseUrl, options⟩)) := by
  have stripped : strip ((some ([] : Str)).getD []) = [] := rfl
  have url : settingsUrl settings = .ok resolved.alembicDatabaseUrl := by
    rw [settingsUrl, accepted]
    rfl
  rw [prepare, no_configured_url]
  simp only [bind, Except.bind, stripped, if_true, url]
  cases setMainOption (fileConfig environment) sqlalchemyUrlOption resolved.alembicDatabaseUrl with
  | error raised => rfl
  | ok options => cases makeDirectory environment resolved.alembicDatabaseUrl <;> rfl

theorem prepared_iff (environment : Environment) (settings resolved : Settings)
    (accepted : resolveDatabaseDefaults settings = .ok resolved) (prepared : Prepared) :
    prepare environment settings = .ok prepared ↔
      (beforeSet resolved.alembicDatabaseUrl = .ok resolved.alembicDatabaseUrl ∧
          DirectoryReady environment resolved.alembicDatabaseUrl) ∧
        prepared = ⟨resolved.alembicDatabaseUrl, storedOptions environment resolved.alembicDatabaseUrl⟩ := by
  rw [prepare_accepted environment settings resolved accepted, ← make_directory_ok, setMainOption]
  by_cases stray : '%' ∈ removeReferences (removeEscaped resolved.alembicDatabaseUrl)
  · simp [beforeSet, stray, Except.map, Except.mapError, Except.bind]
  · cases makeDirectory environment resolved.alembicDatabaseUrl with
    | error raised => simp [beforeSet, stray, Except.map, Except.mapError, Except.bind]
    | ok done => simp [beforeSet, stray, Except.map, Except.mapError, Except.bind, storedOptions, eq_comm]

theorem online_iff (url : Str) (options : Dict Str Str) :
    runMigrationsOnline ⟨url, options⟩ = .ok url ↔ ∃ configuration, items lower options = .ok configuration := by
  have own (configuration : List (Str × Str)) :
      engineFromConfig ((Dict.ofPairs configuration).set sqlalchemyUrlOption url) "sqlalchemy.".toList = .ok url := by
    have option : "sqlalchemy.".toList ++ "url".toList = sqlalchemyUrlOption := rfl
    rw [engineFromConfig, option, Dict.get_set, if_pos rfl]
  rw [runMigrationsOnline]
  cases items lower options with
  | error raised => simp [bind, Except.bind, Except.mapError]
  | ok configuration => simpa [bind, Except.bind, Except.mapError] using own configuration

theorem stored_readable_iff (environment : Environment) (url : Str) :
    (∃ configuration, items lower (storedOptions environment url) = .ok configuration) ↔
      Reads lower (storedOptions environment url) 10 url ∧
        Reads lower (storedOptions environment url) 10 environment.here := by
  have plain (value : Str) (absent : '%' ∉ value) : Reads lower (storedOptions environment url) 10 value :=
    reads_plain lower _ 9 value absent
  rw [items_ok_iff, stored_items]
  simp only [List.forall_mem_cons, List.not_mem_nil, false_imp_iff, implies_true, and_true]
  constructor
  · rintro ⟨here, _, _, _, own⟩
    exact ⟨own, here⟩
  · rintro ⟨own, here⟩
    exact ⟨here, plain _ (by simp), plain _ (by simp), plain _ (by simp), own⟩

-- A percent-encoded character of a credential is not let into the parser.
theorem encoded_url_refused (environment : Environment) (settings resolved : Settings)
    (accepted : resolveDatabaseDefaults settings = .ok resolved) (before after : Str) (c : Char)
    (url : resolved.alembicDatabaseUrl = before ++ '%' :: c :: after) (first : '%' ∉ before) (unescaped : c ≠ '%')
    (unnamed : c ≠ '(') : prepare environment settings = .error (.config .invalidSyntax) := by
  rw [prepare_accepted environment settings resolved accepted, setMainOption, url,
    stray_percent_refused before after c first unescaped unnamed]
  rfl

theorem migrations_use_url_iff (environment : Environment) (settings resolved : Settings)
    (accepted : resolveDatabaseDefaults settings = .ok resolved) :
    UsesUrl environment settings resolved.alembicDatabaseUrl ↔ UrlReadable environment resolved.alembicDatabaseUrl := by
  have prepared := prepared_iff environment settings resolved accepted
  have readable := stored_readable_iff environment resolved.alembicDatabaseUrl
  have online := online_iff resolved.alembicDatabaseUrl (storedOptions environment resolved.alembicDatabaseUrl)
  constructor
  · rintro ⟨found, done, _, used⟩
    obtain ⟨⟨_, directory⟩, rfl⟩ := (prepared found).mp done
    obtain ⟨own, here⟩ := readable.mp (online.mp used)
    exact ⟨own, here, directory⟩
  · rintro ⟨own, here, directory⟩
    have settable := reads_settable lower _ lower_percent (stored_names environment _) 10 _ own
    exact ⟨_, (prepared _).mpr ⟨⟨settable, directory⟩, rfl⟩, rfl, online.mpr (readable.mpr ⟨own, here⟩)⟩

def appEnvironment : Environment := ⟨"/app".toList, fun _ => true⟩

def encodedSettings : Settings :=
  { databaseBackend := .custom, databaseUrl := "postgresql+asyncpg://app:p%40ss@db:5432/app".toList }
def encodedResolved : Settings :=
  { encodedSettings with alembicDatabaseUrl := "postgresql+psycopg://app:p%40ss@db:5432/app".toList }

theorem encoded_accepted : resolveDatabaseDefaults encodedSettings = .ok encodedResolved := rfl

theorem migrations_use_url_iff_encoded :
    UsesUrl appEnvironment encodedSettings encodedResolved.alembicDatabaseUrl ↔
      UrlReadable appEnvironment encodedResolved.alembicDatabaseUrl :=
  migrations_use_url_iff appEnvironment encodedSettings encodedResolved encoded_accepted

theorem encoded_password_raises :
    prepare appEnvironment encodedSettings = .error (.config .invalidSyntax) ∧
    ¬ UsesUrl appEnvironment encodedSettings encodedResolved.alembicDatabaseUrl := by
  have raised : prepare appEnvironment encodedSettings = .error (.config .invalidSyntax) :=
    encoded_url_refused appEnvironment encodedSettings encodedResolved encoded_accepted
      "postgresql+psycopg://app:p".toList "0ss@db:5432/app".toList '4' rfl (by simp) (by decide) (by decide)
  refine ⟨raised, ?_⟩
  rintro ⟨prepared, done, _⟩
  rw [raised] at done
  cases done

end Chassis.Migrations
