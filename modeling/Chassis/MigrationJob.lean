import Chassis.ChartSettings
import Chassis.ChartWorkloads
import Chassis.SettingsEnvironment

set_option autoImplicit false

namespace Chassis.Chart

open Chassis.Configuration Containers Helm Startup

section Job

variable (version fullname : Str) (values : Value) (image : Environment)

variable (parsing : Parsing) (modulePath : Str)

end Job

def postgresCluster : Cluster where
  configMaps _ := some (Dict.ofPairs [("APP_DATABASE_BACKEND".toList, "postgres".toList)])
  secrets _ := some (Dict.ofPairs [("APP_DATABASE_POSTGRES_PASSWORD".toList, "pw".toList)])

def postgresPod : Container where
  envFrom := [{ kind := .configMap, name := "chassis".toList }, { kind := .secret, name := "chassis".toList }]
  env :=
    [⟨"APP_AUTH_JWT_SECRET".toList, "keys".toList, "APP_AUTH_JWT_SECRET".toList, true⟩,
      ⟨"APP_AUTH_JWT_PUBLIC_KEY".toList, "keys".toList, "APP_AUTH_JWT_PUBLIC_KEY".toList, true⟩]

def postgresEnvironment : Environment := (postgresPod.environment postgresCluster (fun _ => none)).getD (fun _ => none)

theorem postgres_accepted : (startSettings python "/app".toList postgresEnvironment).toOption.any
    (fun settings => !settings.auth.authEnabled) = true := by
  decide +kernel

end Chassis.Chart
