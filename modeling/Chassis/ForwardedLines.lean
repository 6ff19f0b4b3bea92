import Chassis.ForwardedChain

set_option autoImplicit false

namespace Chassis.Proxy

open Asgi Ip Text

def isForwardedFor (line : Bytes × Bytes) : Bool := latin1 line.1 = xForwardedFor

-- The values of the X-Forwarded-For lines, in order, and the header list in
-- which one line holds them all, joined with commas.
def forwardedForLines (headers : RawHeaders) : List Bytes := (headers.filter isForwardedFor).map Prod.snd

def joinForwardedFor (headers : RawHeaders) : RawHeaders :=
  let others := headers.filter (fun line => !isForwardedFor line)
  match forwardedForLines headers with
  | [] => others
  | first :: rest => (ascii "x-forwarded-for", (ascii ",").intercalate (first :: rest)) :: others

def chainEntries (lines : List Bytes) : List Str := lines.flatMap (fun line => (latin1 line).splitOn ',')

theorem forwarded_name : latin1 (ascii "x-forwarded-for") = xForwardedFor := by
  decide

theorem joined_entries (first : Bytes) (rest : List Bytes) :
    (latin1 ((ascii ",").intercalate (first :: rest))).splitOn ',' = chainEntries (first :: rest) := by
  induction rest generalizing first with
  | nil => simp [chainEntries, List.intercalate]
  | cons second rest ih =>
      have joined : latin1 ((ascii ",").intercalate (first :: second :: rest)) =
          latin1 first ++ ',' :: latin1 ((ascii ",").intercalate (second :: rest)) := by
        have comma : latin1 (ascii ",") = [','] := by decide
        have shape : (ascii ",").intercalate (first :: second :: rest) =
            first ++ ascii "," ++ (ascii ",").intercalate (second :: rest) := by
          simp [List.intercalate]
        rw [shape, latin1_append, latin1_append, comma]
        simp
      rw [joined, List.splitOn_append_cons_self, ih second]
      rfl

theorem first_line (headers : RawHeaders) :
    headersGet headers xForwardedFor = (forwardedForLines headers).head?.map latin1 := by
  induction headers with
  | nil => rfl
  | cons line rest ih =>
      by_cases named : latin1 line.1 = xForwardedFor
      · simp [headersGet, forwardedForLines, isForwardedFor, named]
      · simpa [headersGet, forwardedForLines, isForwardedFor, named] using ih

theorem other_lines (headers : RawHeaders) (name : Str) (other : name ≠ xForwardedFor) :
    headersGet (headers.filter (fun line => !isForwardedFor line)) name = headersGet headers name := by
  induction headers with
  | nil => rfl
  | cons line rest ih =>
      by_cases named : latin1 line.1 = xForwardedFor
      · have skipped : ¬ latin1 line.1 = name := fun eq => other (eq.symm.trans named)
        simpa [headersGet, isForwardedFor, named, skipped, Ne.symm other] using ih
      · by_cases hit : latin1 line.1 = name
        · simp [headersGet, isForwardedFor, hit, other]
        · simpa [headersGet, isForwardedFor, named, hit] using ih

theorem joined_other (headers : RawHeaders) (name : Str) (other : name ≠ xForwardedFor) :
    headersGet (joinForwardedFor headers) name = headersGet headers name := by
  rw [← other_lines headers name other, joinForwardedFor]
  cases forwardedForLines headers with
  | nil => rfl
  | cons first rest => simp [headersGet, forwarded_name, Ne.symm other]

theorem joined_line (headers : RawHeaders) :
    headersGet (joinForwardedFor headers) xForwardedFor =
      match forwardedForLines headers with
      | [] => none
      | first :: rest => some (latin1 ((ascii ",").intercalate (first :: rest))) := by
  cases lines : forwardedForLines headers with
  | nil =>
      have absent : headersGet headers xForwardedFor = none := by simp [first_line, lines]
      have removed : ∀ line ∈ headers, ¬ latin1 line.1 = xForwardedFor := by
        intro line member named
        have kept : line.2 ∈ forwardedForLines headers :=
          List.mem_map_of_mem (List.mem_filter.mpr ⟨member, by simp [isForwardedFor, named]⟩)
        simp [lines] at kept
      simp only [joinForwardedFor, lines, headersGet, Option.map_eq_none_iff, List.find?_eq_none]
      intro line member
      simpa using removed line (List.mem_filter.mp member).1
  | cons first rest => simp [joinForwardedFor, lines, headersGet, forwarded_name]

theorem client_from_other (headers : RawHeaders) (trustedProxies : List TrustedProxyNetwork) (name : Str)
    (other : name ≠ xForwardedFor) :
    clientFromHeader (joinForwardedFor headers) trustedProxies name = clientFromHeader headers trustedProxies name := by
  simp only [clientFromHeader, joined_other headers name other]

theorem client_from_lines (headers : RawHeaders) (trustedProxies : List TrustedProxyNetwork) (first : Bytes)
    (rest : List Bytes) (lines : forwardedForLines headers = first :: rest) :
    clientFromHeader headers trustedProxies xForwardedFor = walkChain trustedProxies (chainEntries [first]) ∧
    clientFromHeader (joinForwardedFor headers) trustedProxies xForwardedFor =
      (walkChain trustedProxies (chainEntries rest)).or (walkChain trustedProxies (chainEntries [first])) := by
  constructor
  · have line : headersGet headers xForwardedFor = some (latin1 first) := by simp [first_line, lines]
    rw [client_from_forwarded_for headers trustedProxies _ line]
    simp [chainEntries]
  · have line := joined_line headers
    rw [lines] at line
    rw [client_from_forwarded_for _ trustedProxies _ line, joined_entries, ← walk_chain_append]
    simp [chainEntries]

theorem client_from_no_lines (headers : RawHeaders) (trustedProxies : List TrustedProxyNetwork)
    (lines : forwardedForLines headers = []) :
    clientFromHeader headers trustedProxies xForwardedFor = none ∧
    clientFromHeader (joinForwardedFor headers) trustedProxies xForwardedFor = none := by
  have alone : headersGet headers xForwardedFor = none := by simp [first_line, lines]
  have joined := joined_line headers
  rw [lines] at joined
  simp [clientFromHeader, alone, joined]

-- A header whose first line names an untrusted address: the rightmost one of
-- the chain for X-Forwarded-For, the only one for any other header.
def Supplies (headers : RawHeaders) (trustedProxies : List TrustedProxyNetwork) (name ip : Str) : Prop :=
  ∃ value, headersGet headers name = some value ∧
    LastUntrusted trustedProxies (if name = xForwardedFor then value.splitOn ',' else [value]) ip

theorem address_text_nonempty (address : IpAddress) : addressText address ≠ [] := by
  intro empty
  have read := ip_address_text address
  have unreadable : ipAddress [] = none := by decide
  rw [empty, unreadable] at read
  cases read

theorem client_from_header_some (headers : RawHeaders) (trustedProxies : List TrustedProxyNetwork) (name ip : Str) :
    clientFromHeader headers trustedProxies name = some ip ↔ Supplies headers trustedProxies name ip := by
  cases line : headersGet headers name with
  | none => simp [clientFromHeader, Supplies, line]
  | some value =>
      have supplied : Supplies headers trustedProxies name ip ↔
          walkChain trustedProxies (if name = xForwardedFor then value.splitOn ',' else [value]) = some ip := by
        simp [Supplies, line, walk_chain_some]
      rw [supplied]
      by_cases forwarded : name = xForwardedFor
      · rw [if_pos forwarded, forwarded, client_from_forwarded_for headers trustedProxies value (forwarded ▸ line)]
      · rw [if_neg forwarded, walk_chain_single]
        by_cases empty : value = []
        · have unreadable : entryAddress [] = none := by decide
          simp [clientFromHeader, line, empty, unreadable]
        · cases parsed : entryAddress value with
          | none =>
              have failed := (normalize_ip_none value).mpr parsed
              simp [clientFromHeader, line, empty, forwarded, failed]
          | some address =>
              have normalized := (normalize_ip_some value _).mpr ⟨address, parsed, rfl⟩
              cases trust : trustedAddress trustedProxies address <;>
                simp [clientFromHeader, line, empty, forwarded, normalized, is_trusted_proxy_text, trust,
                  address_text_nonempty]

-- The first listed header that supplies an address supplies this one.
def FirstSupplied (headers : RawHeaders) (trustedProxies : List TrustedProxyNetwork) (names : List Str) (ip : Str) :
    Prop :=
  ∃ skipped name others, names = skipped ++ name :: others ∧ Supplies headers trustedProxies name ip ∧
    ∀ earlier ∈ skipped, ∀ other, ¬ Supplies headers trustedProxies earlier other

theorem get_forwarded_some (headers : RawHeaders) (names : List Str) (trustedProxies : List TrustedProxyNetwork)
    (ip : Str) : getForwardedClientIp headers names trustedProxies = some ip ↔
      FirstSupplied headers trustedProxies names ip := by
  unfold getForwardedClientIp FirstSupplied
  simp only [List.findSome?_eq_some_iff, ← client_from_header_some, Option.eq_none_iff_forall_ne_some, ne_eq]

theorem get_forwarded_none (headers : RawHeaders) (names : List Str) (trustedProxies : List TrustedProxyNetwork) :
    getForwardedClientIp headers names trustedProxies = none ↔
      ∀ name ∈ names, ∀ ip, ¬ Supplies headers trustedProxies name ip := by
  unfold getForwardedClientIp
  rw [List.findSome?_eq_none_iff]
  simp only [← client_from_header_some, Option.eq_none_iff_forall_ne_some, ne_eq]

-- When X-Forwarded-For is reached, an untrusted address in the later lines is
-- the one that the first lines of the listed headers supply anyway.
def LaterLinesAgree (headers : RawHeaders) (proxyHeaders : List Str) (trustedProxies : List TrustedProxyNetwork) : Prop :=
  ∀ before after, proxyHeaders = before ++ xForwardedFor :: after → xForwardedFor ∉ before →
    (∀ name ∈ before, ∀ other, ¬ Supplies headers trustedProxies name other) →
    ∀ ip, LastUntrusted trustedProxies (chainEntries (forwardedForLines headers).tail) ip →
      FirstSupplied headers trustedProxies (xForwardedFor :: after) ip

theorem client_from_joined (headers : RawHeaders) (trustedProxies : List TrustedProxyNetwork) :
    clientFromHeader (joinForwardedFor headers) trustedProxies xForwardedFor =
      (walkChain trustedProxies (chainEntries (forwardedForLines headers).tail)).or
        (clientFromHeader headers trustedProxies xForwardedFor) := by
  cases lines : forwardedForLines headers with
  | nil =>
      have absent := client_from_no_lines headers trustedProxies lines
      rw [absent.1, absent.2]
      rfl
  | cons first rest =>
      have both := client_from_lines headers trustedProxies first rest lines
      rw [both.1, both.2, List.tail_cons]

theorem get_forwarded_congr (left right : RawHeaders) (names : List Str) (trustedProxies : List TrustedProxyNetwork)
    (same : ∀ name ∈ names, clientFromHeader left trustedProxies name = clientFromHeader right trustedProxies name) :
    getForwardedClientIp left names trustedProxies = getForwardedClientIp right names trustedProxies := by
  induction names with
  | nil => rfl
  | cons name rest ih =>
      rw [get_forwarded_cons, get_forwarded_cons, same name (by simp), ih (fun n member => same n (by simp [member]))]

theorem get_forwarded_before (headers : RawHeaders) (before : List Str) (trustedProxies : List TrustedProxyNetwork)
    (first : xForwardedFor ∉ before) :
    getForwardedClientIp (joinForwardedFor headers) before trustedProxies =
      getForwardedClientIp headers before trustedProxies := by
  apply get_forwarded_congr
  intro name member
  exact client_from_other headers trustedProxies name (fun eq => first (eq ▸ member))

theorem joined_reached (headers : RawHeaders) (before after : List Str) (trustedProxies : List TrustedProxyNetwork)
    (ip : Str) (first : xForwardedFor ∉ before)
    (reached : getForwardedClientIp headers before trustedProxies = none)
    (later : walkChain trustedProxies (chainEntries (forwardedForLines headers).tail) = some ip) :
    getForwardedClientIp headers (before ++ xForwardedFor :: after) trustedProxies =
        getForwardedClientIp headers (xForwardedFor :: after) trustedProxies ∧
      getForwardedClientIp (joinForwardedFor headers) (before ++ xForwardedFor :: after) trustedProxies = some ip := by
  have joinedReached := (get_forwarded_before headers before trustedProxies first).trans reached
  constructor
  · rw [get_forwarded_split headers before after xForwardedFor trustedProxies reached, get_forwarded_cons]
  · rw [get_forwarded_split _ before after xForwardedFor trustedProxies joinedReached, client_from_joined, later]
    rfl

theorem forwarded_lines_agree_iff (headers : RawHeaders) (proxyHeaders : List Str)
    (trustedProxies : List TrustedProxyNetwork) :
    getForwardedClientIp headers proxyHeaders trustedProxies =
      getForwardedClientIp (joinForwardedFor headers) proxyHeaders trustedProxies ↔
    LaterLinesAgree headers proxyHeaders trustedProxies := by
  constructor
  · intro same before after split first unsupplied ip last
    have reached := (get_forwarded_none headers before trustedProxies).mpr unsupplied
    have later := (walk_chain_some trustedProxies _ ip).mpr last
    have both := joined_reached headers before after trustedProxies ip first reached later
    rw [← split] at both
    rw [← get_forwarded_some, ← both.1, same, both.2]
  · intro agree
    cases later : walkChain trustedProxies (chainEntries (forwardedForLines headers).tail) with
    | none =>
        apply get_forwarded_congr
        intro name _
        by_cases forwarded : name = xForwardedFor
        · rw [forwarded, client_from_joined, later]
          rfl
        · exact (client_from_other headers trustedProxies name forwarded).symm
    | some ip =>
        by_cases listed : xForwardedFor ∈ proxyHeaders
        · obtain ⟨before, after, split, first⟩ := List.eq_append_cons_of_mem listed
          cases reached : getForwardedClientIp headers before trustedProxies with
          | none =>
              have both := joined_reached headers before after trustedProxies ip first reached later
              have supplied := agree before after split first ((get_forwarded_none _ _ _).mp reached) ip
                ((walk_chain_some _ _ _).mp later)
              rw [split, both.1, both.2]
              exact (get_forwarded_some headers _ trustedProxies ip).mpr supplied
          | some early =>
              have joinedEarly := (get_forwarded_before headers before trustedProxies first).trans reached
              rw [split, get_forwarded_append, get_forwarded_append, reached, joinedEarly]
              rfl
        · exact (get_forwarded_before headers proxyHeaders trustedProxies listed).symm

end Chassis.Proxy
