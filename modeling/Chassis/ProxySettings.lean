import Chassis.Prefixes
import Chassis.Proxy
import Chassis.SettingsFields

set_option autoImplicit false

namespace Chassis.Configuration

open Ip JsonText Prefixes Proxy Text

-- _split_optional_netmask
def splitNetwork (text : Str) : Option (Str × Option Str) :=
  match text.splitOn '/' with
  | [address] => some (address, none)
  | [address, mask] => some (address, some mask)
  | _ => none

-- _prefix_from_ip_int
def prefixFromInt (width mask : Nat) : Option Nat := (List.range (width + 1)).find? (fun length => mask = maskInt width length)

-- _prefix_from_ip_string: a netmask, or else a hostmask.
def prefixFromIpString (text : Str) : Option Nat :=
  (ipv4IntFromString text).bind fun mask => (prefixFromInt 32 mask).or (prefixFromInt 32 (2 ^ 32 - 1 - mask))

section Networks

variable (interpreter : Interpreter)

-- _prefix_from_prefix_string
def prefixFromString (width : Nat) (text : Str) : Option Nat :=
  if text = [] ∨ text.all Char.isDigit = false ∨ interpreter.intMaxStrDigits < text.length then none
  else (some (Nat.ofDigitChars 10 text 0)).filter (· ≤ width)

def ipv4Network (text : Str) : Option (IpNetwork 32) := do
  let (address, mask) ← splitNetwork text
  let ip ← ipv4Address address
  let length ← (match mask with
    | none => some 32
    | some mask => (prefixFromString interpreter 32 mask).or (prefixFromIpString mask))
  let netmask := BitVec.ofNat 32 (maskInt 32 length)
  some ⟨ip &&& netmask, netmask⟩

def ipv6Network (text : Str) : Option (IpNetwork 128) := do
  let (address, mask) ← splitNetwork text
  let (ip, _) ← ipv6Address address
  let length ← (match mask with
    | none => some 128
    | some mask => prefixFromString interpreter 128 mask)
  let netmask := BitVec.ofNat 128 (maskInt 128 length)
  some ⟨ip &&& netmask, netmask⟩

-- ip_network(text, strict=False)
def ipNetwork (text : Str) : Option TrustedProxyNetwork :=
  match ipv4Network interpreter text with
  | some network => some (.v4 network)
  | none => (ipv6Network interpreter text).map .v6

def checkProxy (settingName : Str) (proxy : Str) : Except Str TrustedProxyNetwork :=
  match ipNetwork interpreter proxy with
  | some network => .ok network
  | none => .error ("Invalid trusted proxy network in ".toList ++ settingName ++ ": ".toList ++ proxy)

def validateTrustedProxyList (trustEnabled : Bool) (proxies : List Str) (settingName toggleName : Str) : Except Str Unit :=
  if trustEnabled = true ∧ proxies = [] then
    .error (settingName ++ " must be set when ".toList ++ toggleName ++ "=true".toList)
  else (proxies.mapM (checkProxy interpreter settingName)).map (fun _ => ())

theorem trusted_proxy_list_iff (trustEnabled : Bool) (proxies : List Str) (settingName toggleName : Str) :
    validateTrustedProxyList interpreter trustEnabled proxies settingName toggleName = .ok () ↔
      (trustEnabled = true → proxies ≠ []) ∧ ∀ proxy ∈ proxies, ∃ network, ipNetwork interpreter proxy = some network := by
  have networks : (∃ results, proxies.mapM (checkProxy interpreter settingName) = .ok results) ↔
      ∀ proxy ∈ proxies, ∃ network, ipNetwork interpreter proxy = some network := by
    have all := map_m_all (checkProxy interpreter settingName) (fun _ => True) proxies
    simp only [implies_true, and_true] at all
    rw [all]
    refine forall₂_congr (fun proxy _ => ?_)
    unfold checkProxy
    cases ipNetwork interpreter proxy with
    | none => exact iff_of_false nofun nofun
    | some network => exact iff_of_true ⟨network, rfl⟩ ⟨network, rfl⟩
  unfold validateTrustedProxyList
  rw [← networks]
  by_cases alone : trustEnabled = true ∧ proxies = []
  · rw [if_pos alone]
    exact iff_of_false nofun (fun trusted => trusted.1 alone.1 alone.2)
  · rw [if_neg alone, and_iff_right (fun trust none => alone ⟨trust, none⟩)]
    cases proxies.mapM (checkProxy interpreter settingName) with
    | error message => exact iff_of_false nofun nofun
    | ok results => exact iff_of_true rfl ⟨results, rfl⟩

end Networks

def plainInterpreter : Interpreter := ⟨4300, 0, fun _ => 0, fun _ => [], fun _ => 'x', fun _ => true⟩

example : ipNetwork plainInterpreter "10.1.2.3/255.0.0.0".toList =
    some (.v4 ⟨0x0A000000, 0xFF000000⟩) := by decide +kernel

-- The part of _validate_proxy_settings that is about rate limiting.
def validateRateLimitProxies (interpreter : Interpreter) (settings : RateLimitSettings) : Except Str Unit :=
  validateTrustedProxyList interpreter settings.rateLimitTrustProxyHeaders settings.rateLimitTrustedProxies
    "APP_RATE_LIMIT_TRUSTED_PROXIES".toList "APP_RATE_LIMIT_TRUST_PROXY_HEADERS".toList

inductive Rejection where
  | field
  | validator (message : Str)
deriving DecidableEq

-- Settings() as far as rate limiting goes: its fields, the storage that
-- _resolve_rate_limit_storage_defaults derives, and the validator.
def startRateLimiting (parsing : Parsing) (environment : Environment) : Except Rejection RateLimitSettings :=
  match readRateLimitSettings parsing environment with
  | none => .error .field
  | some settings =>
      let resolved := { settings with storage := Connections.resolveRateLimitStorageDefaults settings.storage }
      match validateRateLimitProxies parsing.interpreter resolved with
      | .ok () => .ok resolved
      | .error message => .error (.validator message)

def missingProxies : Str :=
  "APP_RATE_LIMIT_TRUSTED_PROXIES must be set when APP_RATE_LIMIT_TRUST_PROXY_HEADERS=true".toList

theorem start_without_proxies (parsing : Parsing) (environment : Environment) (settings : RateLimitSettings)
    (read : readRateLimitSettings parsing environment = some settings) (none : settings.rateLimitTrustedProxies = []) :
    startRateLimiting parsing environment =
      if settings.rateLimitTrustProxyHeaders = true then .error (.validator missingProxies)
      else .ok { settings with storage := Connections.resolveRateLimitStorageDefaults settings.storage } := by
  unfold startRateLimiting
  rw [read]
  dsimp only
  unfold validateRateLimitProxies
  rw [none]
  cases settings.rateLimitTrustProxyHeaders with
  | true => rfl
  | false =>
      have valid := (trusted_proxy_list_iff parsing.interpreter false [] "APP_RATE_LIMIT_TRUSTED_PROXIES".toList
        "APP_RATE_LIMIT_TRUST_PROXY_HEADERS".toList).mpr ⟨nofun, fun _ member => absurd member List.not_mem_nil⟩
      rw [valid]
      rfl

end Chassis.Configuration
