import Chassis.ForwardedLines

set_option autoImplicit false

namespace Chassis.RateLimit

open Asgi Ip Proxy Text

inductive KeyStrategy where
  | ip
  | authorization
deriving DecidableEq, Repr

-- The attributes that __init__ leaves on the middleware: the header names are
-- lower case and the trusted proxies are parsed networks.
structure RateLimitMiddleware where
  limit : Int
  windowSeconds : Int
  keyStrategy : KeyStrategy
  trustProxyHeaders : Bool
  proxyHeaders : List Str
  trustedProxies : List TrustedProxyNetwork
  exemptPaths : List Str

def clientHost (scope : Scope) : Str :=
  match scope.client with
  | none => "unknown".toList
  | some client => client.1

def hexDigest (digest : Bytes) : Str :=
  digest.flatMap (fun byte => [(byte.toNat / 16).digitChar, (byte.toNat % 16).digitChar])

-- The decoded header is Latin-1 text, where only ASCII letters can match.
def bearerToken (authorization : Str) : Str :=
  if "bearer ".toList.isPrefixOf (authorization.map Char.toLower) then strip (authorization.drop 7) else authorization

def ipKey (middleware : RateLimitMiddleware) (scope : Scope) : Str :=
  let host := clientHost scope
  let forwarded :=
    if middleware.trustProxyHeaders && isTrustedProxy host middleware.trustedProxies then
      getForwardedClientIp scope.headers middleware.proxyHeaders middleware.trustedProxies
    else none
  match forwarded with
  | none => "ip:".toList ++ host
  | some ip => if ip = [] then "ip:".toList ++ host else "ip:".toList ++ ip

-- hashlib.sha256 is the parameter.
def buildRateLimitKey (sha256 : Bytes → Bytes) (middleware : RateLimitMiddleware) (scope : Scope) : Str :=
  match middleware.keyStrategy with
  | .ip => ipKey middleware scope
  | .authorization =>
      match headersGet scope.headers "authorization".toList with
      | none => ipKey middleware scope
      | some authorization =>
          if authorization = [] then ipKey middleware scope
          else "authorization:".toList ++
            hexDigest (sha256 ((bearerToken authorization).flatMap String.utf8EncodeChar))

theorem key_of_ip (sha256 : Bytes → Bytes) (middleware : RateLimitMiddleware) (scope : Scope)
    (strategy : middleware.keyStrategy = .ip) : buildRateLimitKey sha256 middleware scope = ipKey middleware scope := by
  simp [buildRateLimitKey, strategy]

theorem ip_key_of_peer (middleware : RateLimitMiddleware) (scope : Scope)
    (distrusted : middleware.trustProxyHeaders = false ∨
      isTrustedProxy (clientHost scope) middleware.trustedProxies = false) :
    ipKey middleware scope = "ip:".toList ++ clientHost scope := by
  cases distrusted with
  | inl off => simp [ipKey, off]
  | inr peer => simp [ipKey, peer]

theorem forwarded_nonempty (headers : RawHeaders) (names : List Str) (trustedProxies : List TrustedProxyNetwork)
    (ip : Str) (found : getForwardedClientIp headers names trustedProxies = some ip) :
    ∃ address, addressText address = ip ∧ trustedAddress trustedProxies address = false := by
  obtain ⟨_, _, _, _, supplied, _⟩ := (get_forwarded_some headers names trustedProxies ip).mp found
  obtain ⟨_, _, _, _, _, address, _, _, untrusted, text, _⟩ := supplied
  exact ⟨address, text, untrusted⟩

theorem ip_key_of_proxy (middleware : RateLimitMiddleware) (scope : Scope)
    (trust : middleware.trustProxyHeaders = true)
    (peer : isTrustedProxy (clientHost scope) middleware.trustedProxies = true) :
    ipKey middleware scope = "ip:".toList ++
      (getForwardedClientIp scope.headers middleware.proxyHeaders middleware.trustedProxies).getD
        (clientHost scope) := by
  cases forwarded : getForwardedClientIp scope.headers middleware.proxyHeaders middleware.trustedProxies with
  | none => simp [ipKey, trust, peer, forwarded]
  | some ip =>
      obtain ⟨address, text, _⟩ := forwarded_nonempty _ _ _ ip forwarded
      have nonempty : ip ≠ [] := text ▸ address_text_nonempty address
      simp [ipKey, trust, peer, forwarded, nonempty]

theorem forwarded_not_peer (headers : RawHeaders) (names : List Str) (trustedProxies : List TrustedProxyNetwork)
    (host : Str) (peer : isTrustedProxy host trustedProxies = true) :
    getForwardedClientIp headers names trustedProxies ≠ some host := by
  intro found
  obtain ⟨address, text, untrusted⟩ := forwarded_nonempty headers names trustedProxies host found
  rw [← text, is_trusted_proxy_text, untrusted] at peer
  cases peer

theorem key_determined_by_forwarded (middleware : RateLimitMiddleware) (left right : Scope)
    (samePeer : left.client = right.client) (trust : middleware.trustProxyHeaders = true)
    (peer : isTrustedProxy (clientHost left) middleware.trustedProxies = true) :
    ipKey middleware left = ipKey middleware right ↔
      getForwardedClientIp left.headers middleware.proxyHeaders middleware.trustedProxies =
        getForwardedClientIp right.headers middleware.proxyHeaders middleware.trustedProxies := by
  have sameHost : clientHost right = clientHost left := by rw [clientHost, clientHost, samePeer]
  have rightPeer : isTrustedProxy (clientHost right) middleware.trustedProxies = true := by rw [sameHost, peer]
  have leftApart := forwarded_not_peer left.headers middleware.proxyHeaders _ _ peer
  have rightApart := forwarded_not_peer right.headers middleware.proxyHeaders _ _ peer
  rw [ip_key_of_proxy middleware left trust peer, ip_key_of_proxy middleware right trust rightPeer, sameHost]
  cases fromLeft : getForwardedClientIp left.headers middleware.proxyHeaders middleware.trustedProxies with
  | none =>
      cases fromRight : getForwardedClientIp right.headers middleware.proxyHeaders middleware.trustedProxies with
      | none => simp
      | some ip =>
          have other : clientHost left ≠ ip := fun eq => rightApart (eq ▸ fromRight)
          simpa using other
  | some ip =>
      cases fromRight : getForwardedClientIp right.headers middleware.proxyHeaders middleware.trustedProxies with
      | none =>
          have other : ip ≠ clientHost left := fun eq => leftApart (eq ▸ fromLeft)
          simpa using other
      | some other => simp

theorem forwarded_lines_one_chain_iff (sha256 : Bytes → Bytes) (headers : RawHeaders) (proxyHeaders : List Str)
    (trustedProxies : List TrustedProxyNetwork) :
    (getForwardedClientIp headers proxyHeaders trustedProxies =
        getForwardedClientIp (joinForwardedFor headers) proxyHeaders trustedProxies ↔
      LaterLinesAgree headers proxyHeaders trustedProxies) ∧
    ∀ (middleware : RateLimitMiddleware) (scope : Scope), scope.headers = headers →
      middleware.proxyHeaders = proxyHeaders → middleware.trustedProxies = trustedProxies →
      middleware.keyStrategy = .ip → middleware.trustProxyHeaders = true →
      isTrustedProxy (clientHost scope) trustedProxies = true →
      (buildRateLimitKey sha256 middleware scope =
          buildRateLimitKey sha256 middleware { scope with headers := joinForwardedFor headers } ↔
        LaterLinesAgree headers proxyHeaders trustedProxies) := by
  have addresses := forwarded_lines_agree_iff headers proxyHeaders trustedProxies
  refine ⟨addresses, ?_⟩
  intro middleware scope own names networks strategy trust peer
  subst own names networks
  rw [key_of_ip sha256 middleware _ strategy, key_of_ip sha256 middleware _ strategy, ← addresses]
  exact key_determined_by_forwarded middleware scope _ rfl trust peer

def twoLines : RawHeaders :=
  [(ascii "x-forwarded-for", ascii "1.1.1.1"), (ascii "x-forwarded-for", ascii "203.0.113.7")]
def behindTen : RateLimitMiddleware := ⟨100, 60, .ip, true, [xForwardedFor], tenNetwork, []⟩
def fromTen (headers : RawHeaders) : Scope :=
  { type := .http, headers := headers, client := some ("10.0.0.1".toList, 443) }

theorem forwarded_lines_one_chain_iff_two :
    buildRateLimitKey id behindTen (fromTen twoLines) =
        buildRateLimitKey id behindTen (fromTen (joinForwardedFor twoLines)) ↔
      LaterLinesAgree twoLines [xForwardedFor] tenNetwork :=
  (forwarded_lines_one_chain_iff id twoLines [xForwardedFor] tenNetwork).2 behindTen (fromTen twoLines) rfl rfl rfl
    rfl rfl (by decide +kernel)

theorem later_line_ignored :
    getForwardedClientIp twoLines [xForwardedFor] tenNetwork ≠
      getForwardedClientIp (joinForwardedFor twoLines) [xForwardedFor] tenNetwork ∧
    buildRateLimitKey id behindTen (fromTen twoLines) = "ip:1.1.1.1".toList ∧
    buildRateLimitKey id behindTen (fromTen (joinForwardedFor twoLines)) = "ip:203.0.113.7".toList := by
  decide +kernel

theorem chain_split (caller client : Str) (hops : List Str) (commaFree : ∀ entry ∈ client :: hops, ',' ∉ entry) :
    (caller ++ ',' :: join [','] (client :: hops)).splitOn ',' = caller.splitOn ',' ++ client :: hops := by
  rw [List.splitOn_append_cons_self, join, List.splitOn_intercalate ',' commaFree (List.cons_ne_nil client hops)]

theorem chain_walk (trustedProxies : List TrustedProxyNetwork) (caller : List Str) (client : Str) (hops : List Str)
    (address : IpAddress) (parsed : entryAddress client = some address)
    (untrusted : trustedAddress trustedProxies address = false)
    (trusted : ∀ hop ∈ hops, TrustedEntry trustedProxies hop) :
    walkChain trustedProxies (caller ++ client :: hops) = some (addressText address) := by
  apply (walk_chain_some trustedProxies _ _).mpr
  exact ⟨caller, client, hops, address, rfl, parsed, untrusted, rfl,
    fun hop member => trusted_not_untrusted trustedProxies hop (trusted hop member)⟩

theorem ip_key_resists_spoofing (sha256 : Bytes → Bytes) (middleware : RateLimitMiddleware) (fallbacks : List Str)
    (strategy : middleware.keyStrategy = .ip) (first : middleware.proxyHeaders = xForwardedFor :: fallbacks) :
    (∀ left right : Scope, clientHost left = clientHost right →
      (middleware.trustProxyHeaders = false ∨ isTrustedProxy (clientHost left) middleware.trustedProxies = false) →
      buildRateLimitKey sha256 middleware left = buildRateLimitKey sha256 middleware right) ∧
    ∀ (scope : Scope) (line : Bytes) (caller client : Str) (hops : List Str) (address : IpAddress),
      middleware.trustProxyHeaders = true → isTrustedProxy (clientHost scope) middleware.trustedProxies = true →
      forwardedForLines scope.headers = [line] → latin1 line = caller ++ ',' :: join [','] (client :: hops) →
      (∀ entry ∈ client :: hops, ',' ∉ entry) → entryAddress client = some address →
      trustedAddress middleware.trustedProxies address = false →
      (∀ hop ∈ hops, TrustedEntry middleware.trustedProxies hop) →
      buildRateLimitKey sha256 middleware scope = "ip:".toList ++ addressText address := by
  constructor
  · intro left right samePeer distrusted
    have rightDistrusted : middleware.trustProxyHeaders = false ∨
        isTrustedProxy (clientHost right) middleware.trustedProxies = false := samePeer ▸ distrusted
    rw [key_of_ip sha256 middleware left strategy, key_of_ip sha256 middleware right strategy,
      ip_key_of_peer middleware left distrusted, ip_key_of_peer middleware right rightDistrusted, samePeer]
  · intro scope line caller client hops address trust peer lines shape commaFree parsed untrusted trusted
    have value : headersGet scope.headers xForwardedFor = some (latin1 line) := by simp [first_line, lines]
    have walked : clientFromHeader scope.headers middleware.trustedProxies xForwardedFor = some (addressText address) := by
      rw [client_from_forwarded_for _ _ _ value, shape, chain_split caller client hops commaFree]
      exact chain_walk middleware.trustedProxies _ client hops address parsed untrusted trusted
    have found : getForwardedClientIp scope.headers middleware.proxyHeaders middleware.trustedProxies =
        some (addressText address) := by
      rw [first, get_forwarded_cons, walked]
      rfl
    rw [key_of_ip sha256 middleware scope strategy, ip_key_of_proxy middleware scope trust peer, found]
    rfl

theorem ip_key_resists_spoofing_ten :
    buildRateLimitKey id behindTen
        (fromTen [(ascii "x-real-ip", ascii "6.6.6.6"), (ascii "x-forwarded-for", ascii "6.6.6.6,203.0.113.7,10.0.0.2")]) =
      "ip:".toList ++ addressText (.v4 0xCB007107) :=
  (ip_key_resists_spoofing id behindTen [] rfl rfl).2 _ (ascii "6.6.6.6,203.0.113.7,10.0.0.2") "6.6.6.6".toList
    "203.0.113.7".toList ["10.0.0.2".toList] _ rfl (by decide +kernel) (by decide +kernel) (by decide +kernel)
    (by decide +kernel) (by decide +kernel) (by decide +kernel)
    (fun hop member => List.mem_singleton.mp member ▸ ⟨.v4 0x0A000002, by decide +kernel, by decide +kernel⟩)

end Chassis.RateLimit
