import Chassis.Headers
import Chassis.Proxy

set_option autoImplicit false

namespace Chassis.Security

open Asgi Headers Proxy Text

structure HttpScope extends Scope where
  method : Str := "GET".toList
  scheme : Option Str := none

structure SecurityHeadersMiddleware where
  hstsEnabled : Bool
  hstsMaxAgeSeconds : Int
  referrerPolicy : Str
  permissionsPolicy : Str
  contentSecurityPolicy : Str
  trustProxyProtoHeader : Bool
  trustedProxies : List TrustedProxyNetwork

-- normalize_forwarded_proto
def normalizeForwardedProto (value : Option Str) : Option Str :=
  match value with
  | none => none
  | some text =>
      let normalized := (strip (text.takeWhile (fun c => c ≠ ','))).map Char.toLower
      if normalized = "http".toList ∨ normalized = "https".toList then some normalized else none

-- starlette.datastructures.MutableHeaders.__setitem__ on the raw list: the
-- first line with exactly that name is replaced and the others go.
def assign (key value : Bytes) : RawHeaders → RawHeaders
  | [] => [(key, value)]
  | line :: rest =>
      if line.1 = key then (key, value) :: rest.filter (fun other => other.1 ≠ key) else line :: assign key value rest

def setHeader (key : String) (value : Str) (headers : RawHeaders) : Option RawHeaders :=
  (encodeLatin1 value).map (fun encoded => assign (lower (ascii key)) encoded headers)

def requestScheme (middleware : SecurityHeadersMiddleware) (scope : HttpScope) : Str :=
  let clientHost := (scope.client.map Prod.fst).getD "unknown".toList
  let forwardedProto :=
    if middleware.trustProxyProtoHeader && isTrustedProxy clientHost middleware.trustedProxies then
      normalizeForwardedProto (headersGet scope.headers "x-forwarded-proto".toList)
    else none
  forwardedProto.getD (scope.scheme.getD "http".toList)

def hstsValue (middleware : SecurityHeadersMiddleware) : Str :=
  "max-age=".toList ++ intText middleware.hstsMaxAgeSeconds ++ "; includeSubDomains".toList

def securityLines (middleware : SecurityHeadersMiddleware) (scope : HttpScope) : List (String × Str) :=
  [("X-Content-Type-Options", "nosniff".toList), ("X-Frame-Options", "DENY".toList),
    ("Referrer-Policy", middleware.referrerPolicy), ("Permissions-Policy", middleware.permissionsPolicy),
    ("Cache-Control", "no-store".toList)] ++
  (if middleware.contentSecurityPolicy ≠ [] then [("Content-Security-Policy", middleware.contentSecurityPolicy)] else []) ++
  (if middleware.hstsEnabled && requestScheme middleware scope = "https".toList then
    [("Strict-Transport-Security", hstsValue middleware)] else [])

def setAll : List (String × Str) → RawHeaders → Option RawHeaders
  | [], headers => some headers
  | (key, value) :: rest, headers => (setHeader key value headers).bind (setAll rest)

-- SecurityHeadersMiddleware.send_wrapper, none where it raises.
def sendWrapper (middleware : SecurityHeadersMiddleware) (scope : HttpScope) : Message → Option Message
  | .responseStart status headers => (setAll (securityLines middleware scope) headers).map (.responseStart status)
  | message => some message

def promised (middleware : SecurityHeadersMiddleware) : List (String × Str) :=
  [("X-Content-Type-Options", "nosniff".toList), ("X-Frame-Options", "DENY".toList),
    ("Referrer-Policy", middleware.referrerPolicy), ("Permissions-Policy", middleware.permissionsPolicy),
    ("Cache-Control", "no-store".toList)]

def Carries (middleware : SecurityHeadersMiddleware) (headers : RawHeaders) : Prop :=
  ∀ line ∈ promised middleware, ∃ encoded, encodeLatin1 line.2 = some encoded ∧ (lower (ascii line.1), encoded) ∈ headers

def Encodable (middleware : SecurityHeadersMiddleware) : Prop :=
  (encodeLatin1 middleware.referrerPolicy).isSome ∧ (encodeLatin1 middleware.permissionsPolicy).isSome ∧
    (encodeLatin1 middleware.contentSecurityPolicy).isSome

instance (middleware : SecurityHeadersMiddleware) : Decidable (Encodable middleware) :=
  inferInstanceAs (Decidable (_ ∧ _))

theorem assign_sets (key value : Bytes) (headers : RawHeaders) : (key, value) ∈ assign key value headers := by
  induction headers with
  | nil => simp [assign]
  | cons line rest ih =>
      rw [assign]
      by_cases same : line.1 = key
      · simp [same]
      · rw [if_neg same]
        exact List.mem_cons_of_mem line ih

theorem assign_keeps (key value : Bytes) (headers : RawHeaders) (line : Bytes × Bytes) (member : line ∈ headers)
    (different : line.1 ≠ key) : line ∈ assign key value headers := by
  induction headers with
  | nil => cases member
  | cons first rest ih =>
      rw [assign]
      by_cases same : first.1 = key
      · rw [if_pos same]
        cases List.mem_cons.mp member with
        | inl this => exact absurd (this ▸ same) different
        | inr later => simp [later, different]
      · rw [if_neg same]
        cases List.mem_cons.mp member with
        | inl this => simp [this]
        | inr later => exact List.mem_cons_of_mem first (ih later)

theorem set_all_keeps (lines : List (String × Str)) (headers secured : RawHeaders) (line : Bytes × Bytes)
    (done : setAll lines headers = some secured) (member : line ∈ headers)
    (different : ∀ other ∈ lines, line.1 ≠ lower (ascii other.1)) : line ∈ secured := by
  induction lines generalizing headers with
  | nil =>
      cases done
      exact member
  | cons first rest ih =>
      obtain ⟨next, set, later⟩ := Option.bind_eq_some_iff.mp done
      obtain ⟨encoded, _, same⟩ := Option.map_eq_some_iff.mp set
      apply ih next later
      · rw [← same]
        exact assign_keeps _ _ headers line member (different first (by simp))
      · intro other found
        exact different other (by simp [found])

theorem set_all_sets (lines : List (String × Str)) (headers secured : RawHeaders)
    (distinct : (lines.map (fun line => lower (ascii line.1))).Nodup) (done : setAll lines headers = some secured) :
    ∀ line ∈ lines, ∃ encoded, encodeLatin1 line.2 = some encoded ∧ (lower (ascii line.1), encoded) ∈ secured := by
  induction lines generalizing headers with
  | nil => simp
  | cons first rest ih =>
      obtain ⟨next, set, later⟩ := Option.bind_eq_some_iff.mp done
      obtain ⟨encoded, fits, same⟩ := Option.map_eq_some_iff.mp set
      obtain ⟨alone, others⟩ := List.nodup_cons.mp distinct
      intro line member
      cases List.mem_cons.mp member with
      | inl this =>
          rw [this]
          refine ⟨encoded, fits, ?_⟩
          apply set_all_keeps rest next secured _ later
          · rw [← same]
            exact assign_sets _ _ headers
          · intro other found clash
            exact alone (List.mem_map.mpr ⟨other, found, clash.symm⟩)
      | inr found => exact ih next others later line found

theorem set_all_some (lines : List (String × Str)) (headers : RawHeaders) :
    (setAll lines headers).isSome ↔ ∀ line ∈ lines, (encodeLatin1 line.2).isSome := by
  induction lines generalizing headers with
  | nil => simp [setAll]
  | cons first rest ih =>
      rw [setAll, setHeader]
      cases fits : encodeLatin1 first.2 with
      | none => simp [fits]
      | some encoded => simp [fits, ih]

theorem encode_latin1_some (text : Str) (narrow : text.all (fun c => c.toNat < 256) = true) :
    (encodeLatin1 text).isSome := by
  rw [encodeLatin1, if_pos narrow]
  rfl

theorem int_text_narrow (n : Int) : (intText n).all (fun c => c.toNat < 256) = true := by
  rw [List.all_eq_true]
  intro digit found
  rw [decide_eq_true_eq]
  cases int_text_chars n digit found with
  | inl sign => rw [sign]; decide
  | inr number =>
      have bound : digit.toNat ≤ '9'.toNat := by
        simp only [Char.isDigit, Bool.and_eq_true, decide_eq_true_eq] at number
        exact number.2
      exact Nat.lt_of_le_of_lt bound (by decide)

theorem hsts_value_encodes (middleware : SecurityHeadersMiddleware) : (encodeLatin1 (hstsValue middleware)).isSome := by
  have before : "max-age=".toList.all (fun c => c.toNat < 256) = true := by decide
  have after : "; includeSubDomains".toList.all (fun c => c.toNat < 256) = true := by decide
  have start := List.all_append.trans (Bool.and_eq_true_iff.mpr ⟨before, int_text_narrow middleware.hstsMaxAgeSeconds⟩)
  exact encode_latin1_some _ (List.all_append.trans (Bool.and_eq_true_iff.mpr ⟨start, after⟩))

theorem promised_in_lines (middleware : SecurityHeadersMiddleware) (scope : HttpScope) (line : String × Str)
    (member : line ∈ promised middleware) : line ∈ securityLines middleware scope := by
  simp only [securityLines, List.mem_append]
  exact .inl (.inl member)

theorem policy_in_lines (middleware : SecurityHeadersMiddleware) (scope : HttpScope)
    (given : middleware.contentSecurityPolicy ≠ []) :
    ("Content-Security-Policy", middleware.contentSecurityPolicy) ∈ securityLines middleware scope := by
  rw [securityLines, if_pos given]
  exact List.mem_append_left _ (List.mem_append_right _ (List.mem_singleton.mpr rfl))

theorem security_lines_encode (middleware : SecurityHeadersMiddleware) (scope : HttpScope) :
    (∀ line ∈ securityLines middleware scope, (encodeLatin1 line.2).isSome) ↔ Encodable middleware := by
  have fixed (text : String) (narrow : text.toList.all (fun c => c.toNat < 256) = true) :
      (encodeLatin1 text.toList).isSome :=
    encode_latin1_some _ narrow
  have hsts := hsts_value_encodes middleware
  constructor
  · intro all
    have listed (line : String × Str) (member : line ∈ promised middleware) : (encodeLatin1 line.2).isSome :=
      all line (promised_in_lines middleware scope line member)
    refine ⟨?_, ?_, ?_⟩
    · exact listed ("Referrer-Policy", _) (.tail _ (.tail _ (.head _)))
    · exact listed ("Permissions-Policy", _) (.tail _ (.tail _ (.tail _ (.head _))))
    · by_cases empty : middleware.contentSecurityPolicy = []
      · rw [empty]
        rfl
      · exact all _ (policy_in_lines middleware scope empty)
  · rintro ⟨referrer, permissions, policy⟩ line member
    simp only [securityLines, List.mem_append, List.mem_cons, List.not_mem_nil, or_false] at member
    rcases member with ((rfl | rfl | rfl | rfl | rfl) | given) | strict
    · exact fixed "nosniff" (by decide)
    · exact fixed "DENY" (by decide)
    · exact referrer
    · exact permissions
    · exact fixed "no-store" (by decide)
    · split at given
      · rw [List.mem_singleton.mp given]
        exact policy
      · cases given
    · split at strict
      · rw [List.mem_singleton.mp strict]
        exact hsts
      · cases strict

theorem send_wrapper_start (middleware : SecurityHeadersMiddleware) (scope : HttpScope) (status : Nat)
    (headers : RawHeaders) :
    (sendWrapper middleware scope (.responseStart status headers)).isSome ↔ Encodable middleware := by
  rw [← security_lines_encode middleware scope, ← set_all_some (securityLines middleware scope) headers, sendWrapper,
    Option.isSome_map]

theorem security_names_distinct (middleware : SecurityHeadersMiddleware) (scope : HttpScope) :
    ((securityLines middleware scope).map (fun line => lower (ascii line.1))).Nodup := by
  unfold securityLines
  split <;> split <;> simp only [List.cons_append, List.nil_append, List.map_cons, List.map_nil] <;> decide

theorem send_wrapper_carries (middleware : SecurityHeadersMiddleware) (scope : HttpScope) (message : Message)
    (status : Nat) (headers : RawHeaders)
    (sent : sendWrapper middleware scope message = some (.responseStart status headers)) : Carries middleware headers := by
  cases message with
  | responseStart code original =>
      obtain ⟨secured, done, same⟩ := Option.map_eq_some_iff.mp sent
      cases same
      intro line member
      apply set_all_sets _ original headers (security_names_distinct middleware scope) done line
      exact promised_in_lines middleware scope line member
  | _ => cases sent

end Chassis.Security
