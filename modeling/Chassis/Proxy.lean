import Chassis.Asgi
import Chassis.IpRoundTrip

set_option autoImplicit false

namespace Chassis.Proxy

open Asgi Ip Text

structure IpNetwork (width : Nat) where
  networkAddress : BitVec width
  netmask : BitVec width
deriving DecidableEq

inductive TrustedProxyNetwork where
  | v4 (network : IpNetwork 32)
  | v6 (network : IpNetwork 128)
deriving DecidableEq

-- address in network: versions must match, and a zone plays no part.
def TrustedProxyNetwork.contains : TrustedProxyNetwork → IpAddress → Bool
  | .v4 network, .v4 ip => ip &&& network.netmask == network.networkAddress
  | .v6 network, .v6 ip _ => ip &&& network.netmask == network.networkAddress
  | _, _ => false

def trustedAddress (trustedProxies : List TrustedProxyNetwork) (address : IpAddress) : Bool :=
  trustedProxies.any (fun network => network.contains address)

def isTrustedProxy (clientHost : Str) (trustedProxies : List TrustedProxyNetwork) : Bool :=
  match ipAddress clientHost with
  | none => false
  | some clientIp => trustedAddress trustedProxies clientIp

def normalizeIp (value : Str) : Option Str := (ipAddress (strip value)).map addressText

def xForwardedFor : Str := "x-forwarded-for".toList

-- The walk over one chain: unreadable entries are dropped first, then the
-- remaining addresses are tried from the right.
def walkChain (trustedProxies : List TrustedProxyNetwork) (entries : List Str) : Option Str :=
  let candidates := entries.filterMap normalizeIp
  candidates.reverse.find? (fun candidate => !isTrustedProxy candidate trustedProxies)

-- One round of the loop over proxy_headers: some when it returns, none when it
-- continues with the next name.
def clientFromHeader (headers : RawHeaders) (trustedProxies : List TrustedProxyNetwork) (headerName : Str) :
    Option Str :=
  match headersGet headers headerName with
  | none => none
  | some headerValue =>
      if headerValue = [] then none
      else if headerName = xForwardedFor then walkChain trustedProxies (headerValue.splitOn ',')
      else
        match normalizeIp headerValue with
        | none => none
        | some normalized =>
            if normalized ≠ [] ∧ isTrustedProxy normalized trustedProxies = false then some normalized else none

def getForwardedClientIp (headers : RawHeaders) (proxyHeaders : List Str)
    (trustedProxies : List TrustedProxyNetwork) : Option Str :=
  proxyHeaders.findSome? (clientFromHeader headers trustedProxies)

theorem is_trusted_proxy_text (trustedProxies : List TrustedProxyNetwork) (address : IpAddress) :
    isTrustedProxy (addressText address) trustedProxies = trustedAddress trustedProxies address := by
  simp [isTrustedProxy, ip_address_text]

def entryAddress (entry : Str) : Option IpAddress := ipAddress (strip entry)

def TrustedEntry (trustedProxies : List TrustedProxyNetwork) (entry : Str) : Prop :=
  ∃ address, entryAddress entry = some address ∧ trustedAddress trustedProxies address = true

def UntrustedEntry (trustedProxies : List TrustedProxyNetwork) (entry : Str) : Prop :=
  ∃ address, entryAddress entry = some address ∧ trustedAddress trustedProxies address = false

theorem normalize_ip_some (value text : Str) :
    normalizeIp value = some text ↔ ∃ address, entryAddress value = some address ∧ addressText address = text := by
  simp [normalizeIp, entryAddress]

theorem normalize_ip_none (value : Str) : normalizeIp value = none ↔ entryAddress value = none := by
  simp [normalizeIp, entryAddress]

theorem walk_chain_append (trustedProxies : List TrustedProxyNetwork) (left right : List Str) :
    walkChain trustedProxies (left ++ right) =
      (walkChain trustedProxies right).or (walkChain trustedProxies left) := by
  simp [walkChain, List.filterMap_append, List.reverse_append, List.find?_append]

theorem walk_chain_single (trustedProxies : List TrustedProxyNetwork) (entry : Str) :
    walkChain trustedProxies [entry] =
      (entryAddress entry).bind (fun address =>
        if trustedAddress trustedProxies address then none else some (addressText address)) := by
  unfold walkChain
  cases parsed : entryAddress entry with
  | none =>
      have failed := (normalize_ip_none entry).mpr parsed
      simp [failed]
  | some address =>
      have normalized := (normalize_ip_some entry (addressText address)).mpr ⟨address, parsed, rfl⟩
      cases trust : trustedAddress trustedProxies address <;>
        simp [normalized, is_trusted_proxy_text, trust, List.find?]

theorem walk_chain_none (trustedProxies : List TrustedProxyNetwork) (entries : List Str) :
    walkChain trustedProxies entries = none ↔ ∀ entry ∈ entries, ¬ UntrustedEntry trustedProxies entry := by
  induction entries with
  | nil => simp [walkChain]
  | cons entry rest ih =>
      rw [show entry :: rest = [entry] ++ rest from rfl, walk_chain_append, Option.or_eq_none_iff, ih,
        walk_chain_single]
      cases parsed : entryAddress entry with
      | none => simp [UntrustedEntry, parsed]
      | some address =>
          cases trust : trustedAddress trustedProxies address <;> simp [UntrustedEntry, parsed, trust]

def LastUntrusted (trustedProxies : List TrustedProxyNetwork) (entries : List Str) (ip : Str) : Prop :=
  ∃ left entry right address, entries = left ++ entry :: right ∧ entryAddress entry = some address ∧
    trustedAddress trustedProxies address = false ∧ addressText address = ip ∧
    ∀ hop ∈ right, ¬ UntrustedEntry trustedProxies hop

theorem walk_chain_some (trustedProxies : List TrustedProxyNetwork) (entries : List Str) (ip : Str) :
    walkChain trustedProxies entries = some ip ↔ LastUntrusted trustedProxies entries ip := by
  constructor
  · induction entries with
    | nil => simp [walkChain]
    | cons entry rest ih =>
        intro found
        rw [show entry :: rest = [entry] ++ rest from rfl, walk_chain_append, Option.or_eq_some_iff] at found
        rcases found with inRest | ⟨skipped, atHead⟩
        · obtain ⟨left, hop, right, address, split, parsed, untrusted, text, later⟩ := ih inRest
          exact ⟨entry :: left, hop, right, address, by simp [split], parsed, untrusted, text, later⟩
        · rw [walk_chain_single, Option.bind_eq_some_iff] at atHead
          obtain ⟨address, parsed, chosen⟩ := atHead
          cases trust : trustedAddress trustedProxies address with
          | true => simp [trust] at chosen
          | false =>
              have text : addressText address = ip := by simpa [trust] using chosen
              exact ⟨[], entry, rest, address, rfl, parsed, trust, text, (walk_chain_none _ _).mp skipped⟩
  · rintro ⟨left, entry, right, address, rfl, parsed, untrusted, rfl, later⟩
    have skipped := (walk_chain_none trustedProxies right).mpr later
    have atEntry : walkChain trustedProxies [entry] = some (addressText address) := by
      simp [walk_chain_single, parsed, untrusted]
    rw [walk_chain_append, show entry :: right = [entry] ++ right from rfl, walk_chain_append, skipped, atEntry]
    rfl

end Chassis.Proxy
