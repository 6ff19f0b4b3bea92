import Chassis.RateLimitKey

set_option autoImplicit false

namespace Chassis.RateLimit

open Asgi Ip Proxy Text

def ChainExhausted (trustedProxies : List TrustedProxyNetwork) (value : Str) : Prop :=
  ∀ hop ∈ value.splitOn ',', ∀ address, entryAddress hop = some address →
    trustedAddress trustedProxies address = true

theorem exhausted_chain_silent (headers : RawHeaders) (trustedProxies : List TrustedProxyNetwork) (value : Str)
    (line : headersGet headers xForwardedFor = some value) (exhausted : ChainExhausted trustedProxies value) :
    clientFromHeader headers trustedProxies xForwardedFor = none := by
  rw [client_from_forwarded_for headers trustedProxies value line, walk_chain_none]
  rintro hop member ⟨address, parsed, distrust⟩
  rw [exhausted hop member address parsed] at distrust
  cases distrust

theorem exhausted_chain_continues (headers : RawHeaders) (fallbacks : List Str)
    (trustedProxies : List TrustedProxyNetwork) (value : Str)
    (line : headersGet headers xForwardedFor = some value) (exhausted : ChainExhausted trustedProxies value) :
    getForwardedClientIp headers (xForwardedFor :: fallbacks) trustedProxies =
      getForwardedClientIp headers fallbacks trustedProxies := by
  rw [get_forwarded_cons, exhausted_chain_silent headers trustedProxies value line exhausted, Option.none_or]

theorem key_of_peer_iff (middleware : RateLimitMiddleware) (scope : Scope)
    (trust : middleware.trustProxyHeaders = true)
    (peer : isTrustedProxy (clientHost scope) middleware.trustedProxies = true) :
    ipKey middleware scope = "ip:".toList ++ clientHost scope ↔
      getForwardedClientIp scope.headers middleware.proxyHeaders middleware.trustedProxies = none := by
  have apart := forwarded_not_peer scope.headers middleware.proxyHeaders _ _ peer
  rw [ip_key_of_proxy middleware scope trust peer, List.append_cancel_left_eq]
  cases forwarded : getForwardedClientIp scope.headers middleware.proxyHeaders middleware.trustedProxies with
  | none => simp
  | some ip =>
      have other : ip ≠ clientHost scope := fun eq => apart (eq ▸ forwarded)
      simpa using other

theorem key_of_listed_headers (middleware : RateLimitMiddleware) (left right : Scope)
    (samePeer : clientHost left = clientHost right)
    (sameLines : ∀ name ∈ middleware.proxyHeaders, headersGet left.headers name = headersGet right.headers name) :
    ipKey middleware left = ipKey middleware right := by
  have sameForwarded : getForwardedClientIp left.headers middleware.proxyHeaders middleware.trustedProxies =
      getForwardedClientIp right.headers middleware.proxyHeaders middleware.trustedProxies := by
    apply get_forwarded_congr
    intro name member
    rw [clientFromHeader, clientFromHeader, sameLines name member]
  rw [ipKey, ipKey, samePeer, sameForwarded]

theorem exhausted_chain_key (sha256 : Bytes → Bytes) (middleware : RateLimitMiddleware) (scope : Scope)
    (fallbacks : List Str) (value : Str) (strategy : middleware.keyStrategy = .ip)
    (trust : middleware.trustProxyHeaders = true) (first : middleware.proxyHeaders = xForwardedFor :: fallbacks)
    (peer : isTrustedProxy (clientHost scope) middleware.trustedProxies = true)
    (line : headersGet scope.headers xForwardedFor = some value)
    (exhausted : ChainExhausted middleware.trustedProxies value) :
    (∀ ip, FirstSupplied scope.headers middleware.trustedProxies fallbacks ip →
      buildRateLimitKey sha256 middleware scope = "ip:".toList ++ ip) ∧
    (buildRateLimitKey sha256 middleware scope = "ip:".toList ++ clientHost scope ↔
      ∀ name ∈ fallbacks, ∀ ip, ¬ Supplies scope.headers middleware.trustedProxies name ip) ∧
    (fallbacks = [] → buildRateLimitKey sha256 middleware scope = "ip:".toList ++ clientHost scope) ∧
    ∀ other : Scope, clientHost other = clientHost scope →
      (∀ name ∈ middleware.proxyHeaders, headersGet other.headers name = headersGet scope.headers name) →
      buildRateLimitKey sha256 middleware other = buildRateLimitKey sha256 middleware scope := by
  have continued : getForwardedClientIp scope.headers middleware.proxyHeaders middleware.trustedProxies =
      getForwardedClientIp scope.headers fallbacks middleware.trustedProxies := by
    rw [first]
    exact exhausted_chain_continues scope.headers fallbacks middleware.trustedProxies value line exhausted
  have peerKey : buildRateLimitKey sha256 middleware scope = "ip:".toList ++ clientHost scope ↔
      ∀ name ∈ fallbacks, ∀ ip, ¬ Supplies scope.headers middleware.trustedProxies name ip := by
    rw [key_of_ip sha256 middleware scope strategy, key_of_peer_iff middleware scope trust peer, continued,
      get_forwarded_none]
  refine ⟨?_, peerKey, ?_, ?_⟩
  · intro ip supplied
    have found := (get_forwarded_some scope.headers fallbacks middleware.trustedProxies ip).mpr supplied
    rw [key_of_ip sha256 middleware scope strategy, ip_key_of_proxy middleware scope trust peer, continued, found]
    rfl
  · rintro rfl
    exact peerKey.mpr (fun name member => absurd member List.not_mem_nil)
  · intro other samePeer sameLines
    rw [key_of_ip sha256 middleware other strategy, key_of_ip sha256 middleware scope strategy]
    exact key_of_listed_headers middleware other scope samePeer sameLines

def xRealIp : Str := "x-real-ip".toList
def exhaustedHeaders : RawHeaders :=
  [(ascii "x-forwarded-for", ascii "10.0.0.2"), (ascii "x-real-ip", ascii "203.0.113.5")]
def behindTenReal : RateLimitMiddleware := { behindTen with proxyHeaders := [xForwardedFor, xRealIp] }

theorem exhausted_ten : ChainExhausted tenNetwork "10.0.0.2".toList := by
  have single : "10.0.0.2".toList.splitOn ',' = ["10.0.0.2".toList] := by decide +kernel
  have parsed : entryAddress "10.0.0.2".toList = some (.v4 0x0A000002) := by decide +kernel
  intro hop member address read
  rw [single, List.mem_singleton] at member
  rw [member, parsed] at read
  cases read
  decide +kernel

theorem exhausted_chain_key_ten :
    (buildRateLimitKey id behindTenReal (fromTen exhaustedHeaders) =
        "ip:".toList ++ clientHost (fromTen exhaustedHeaders) ↔
      ∀ name ∈ [xRealIp], ∀ ip, ¬ Supplies exhaustedHeaders tenNetwork name ip) :=
  (exhausted_chain_key id behindTenReal (fromTen exhaustedHeaders) [xRealIp] "10.0.0.2".toList rfl rfl rfl
    (by decide +kernel) (by decide +kernel) exhausted_ten).2.1

theorem exhausted_chain_yields_real_ip :
    behindTenReal.proxyHeaders.head? = some xForwardedFor ∧
    isTrustedProxy (clientHost (fromTen exhaustedHeaders)) behindTenReal.trustedProxies = true ∧
    headersGet exhaustedHeaders xForwardedFor = some "10.0.0.2".toList ∧
    isTrustedProxy "10.0.0.2".toList behindTenReal.trustedProxies = true ∧
    buildRateLimitKey id behindTenReal (fromTen exhaustedHeaders) = "ip:203.0.113.5".toList ∧
    buildRateLimitKey id behindTenReal (fromTen exhaustedHeaders) ≠
      "ip:".toList ++ clientHost (fromTen exhaustedHeaders) := by
  decide +kernel

end Chassis.RateLimit
