import Chassis.Proxy

set_option autoImplicit false

namespace Chassis.Proxy

open Asgi Ip Text

-- No unreadable entry hides an address: each one has an untrusted address to
-- its right, where the walk stops first, or none to its left.
def HopsReadable (trustedProxies : List TrustedProxyNetwork) (entries : List Str) : Prop :=
  ∀ left malformed right, entries = left ++ malformed :: right → entryAddress malformed = none →
    (∃ hop ∈ right, UntrustedEntry trustedProxies hop) ∨ ∀ hop ∈ left, ¬ UntrustedEntry trustedProxies hop

def BelievedBehindTrusted (trustedProxies : List TrustedProxyNetwork) (entries : List Str) (ip : Str) : Prop :=
  ∃ left entry right address, entries = left ++ entry :: right ∧ entryAddress entry = some address ∧
    addressText address = ip ∧ ∀ hop ∈ right, TrustedEntry trustedProxies hop

theorem entry_cases (trustedProxies : List TrustedProxyNetwork) (entry : Str) :
    entryAddress entry = none ∨ TrustedEntry trustedProxies entry ∨ UntrustedEntry trustedProxies entry := by
  cases parsed : entryAddress entry with
  | none => exact .inl rfl
  | some address =>
      cases trust : trustedAddress trustedProxies address with
      | true => exact .inr (.inl ⟨address, parsed, trust⟩)
      | false => exact .inr (.inr ⟨address, parsed, trust⟩)

theorem trusted_not_untrusted (trustedProxies : List TrustedProxyNetwork) (entry : Str)
    (trusted : TrustedEntry trustedProxies entry) : ¬ UntrustedEntry trustedProxies entry := by
  obtain ⟨address, parsed, trust⟩ := trusted
  intro ⟨other, otherParsed, distrust⟩
  have same : address = other := Option.some.inj (parsed.symm.trans otherParsed)
  rw [same, distrust] at trust
  cases trust

theorem readable_walk_believed (trustedProxies : List TrustedProxyNetwork) (entries : List Str) (ip : Str)
    (readable : HopsReadable trustedProxies entries) (walked : walkChain trustedProxies entries = some ip) :
    BelievedBehindTrusted trustedProxies entries ip := by
  obtain ⟨left, entry, right, address, split, parsed, distrust, text, skipped⟩ :=
    (walk_chain_some trustedProxies entries ip).mp walked
  refine ⟨left, entry, right, address, split, parsed, text, ?_⟩
  intro hop member
  cases entry_cases trustedProxies hop with
  | inl malformed =>
      obtain ⟨before, after, rightSplit⟩ := List.append_of_mem member
      have whole : entries = (left ++ entry :: before) ++ hop :: after := by simp [split, rightSplit]
      cases readable _ hop after whole malformed with
      | inl shadowed =>
          obtain ⟨other, inAfter, untrusted⟩ := shadowed
          exact absurd untrusted (skipped other (by simp [rightSplit, inAfter]))
      | inr clean => exact absurd ⟨address, parsed, distrust⟩ (clean entry (by simp))
  | inr readableHop =>
      exact readableHop.resolve_right (skipped hop member)

theorem address_text_injective (left right : IpAddress) (same : addressText left = addressText right) :
    left = right := by
  have read := congrArg ipAddress same
  rw [ip_address_text, ip_address_text] at read
  exact Option.some.inj read

-- The believed entry is an untrusted one, so it cannot stand on the clean side
-- of the malformed entry; nor can the malformed entry stand among trusted hops.
theorem believed_walk_readable (trustedProxies : List TrustedProxyNetwork) (entries : List Str)
    (believed : ∀ ip, walkChain trustedProxies entries = some ip → BelievedBehindTrusted trustedProxies entries ip) :
    HopsReadable trustedProxies entries := by
  intro left malformed right split unreadable
  by_cases shadowed : ∃ hop ∈ right, UntrustedEntry trustedProxies hop
  · exact .inl shadowed
  · refine .inr ?_
    intro hop member untrusted
    cases walked : walkChain trustedProxies entries with
    | none => exact (walk_chain_none trustedProxies entries).mp walked hop (by simp [split, member]) untrusted
    | some ip =>
        obtain ⟨_, _, _, found, _, _, distrust, foundText, _⟩ := (walk_chain_some trustedProxies entries ip).mp walked
        obtain ⟨left', entry, right', address, split', parsed, text, trusted⟩ := believed ip walked
        have same : address = found := address_text_injective address found (text.trans foundText.symm)
        have entryUntrusted : UntrustedEntry trustedProxies entry := ⟨address, parsed, same ▸ distrust⟩
        have distinct : malformed ≠ entry := by
          rintro rfl
          rw [unreadable] at parsed
          cases parsed
        cases List.append_eq_append_iff.mp (split.symm.trans split') with
        | inl malformedFirst =>
            obtain ⟨gap, _, shape⟩ := malformedFirst
            cases gap with
            | nil => exact distinct (List.cons.inj shape).1
            | cons head tail =>
                have behind : right = tail ++ entry :: right' := (List.cons.inj shape).2
                exact shadowed ⟨entry, by simp [behind], entryUntrusted⟩
        | inr entryFirst =>
            obtain ⟨gap, _, shape⟩ := entryFirst
            cases gap with
            | nil => exact distinct (List.cons.inj shape).1.symm
            | cons head tail =>
                have behind : right' = tail ++ malformed :: right := (List.cons.inj shape).2
                obtain ⟨_, readable, _⟩ := trusted malformed (by simp [behind])
                rw [unreadable] at readable
                cases readable

theorem walk_believed_iff (trustedProxies : List TrustedProxyNetwork) (entries : List Str) :
    (∀ ip, walkChain trustedProxies entries = some ip → BelievedBehindTrusted trustedProxies entries ip) ↔
      HopsReadable trustedProxies entries :=
  ⟨believed_walk_readable trustedProxies entries,
    fun readable ip walked => readable_walk_believed trustedProxies entries ip readable walked⟩

theorem client_from_forwarded_for (headers : RawHeaders) (trustedProxies : List TrustedProxyNetwork) (value : Str)
    (line : headersGet headers xForwardedFor = some value) :
    clientFromHeader headers trustedProxies xForwardedFor = walkChain trustedProxies (value.splitOn ',') := by
  by_cases empty : value = []
  · subst empty
    have unreadable : entryAddress [] = none := by decide
    simp [clientFromHeader, line, walk_chain_single, unreadable]
  · simp [clientFromHeader, line, empty]

theorem get_forwarded_cons (headers : RawHeaders) (name : Str) (rest : List Str)
    (trustedProxies : List TrustedProxyNetwork) :
    getForwardedClientIp headers (name :: rest) trustedProxies =
      (clientFromHeader headers trustedProxies name).or (getForwardedClientIp headers rest trustedProxies) := by
  rw [getForwardedClientIp, List.findSome?_cons]
  cases clientFromHeader headers trustedProxies name <;> rfl

theorem get_forwarded_append (headers : RawHeaders) (before after : List Str)
    (trustedProxies : List TrustedProxyNetwork) :
    getForwardedClientIp headers (before ++ after) trustedProxies =
      (getForwardedClientIp headers before trustedProxies).or (getForwardedClientIp headers after trustedProxies) :=
  List.findSome?_append

theorem get_forwarded_split (headers : RawHeaders) (before after : List Str) (headerName : Str)
    (trustedProxies : List TrustedProxyNetwork)
    (reached : getForwardedClientIp headers before trustedProxies = none) :
    getForwardedClientIp headers (before ++ headerName :: after) trustedProxies =
      (clientFromHeader headers trustedProxies headerName).or (getForwardedClientIp headers after trustedProxies) := by
  rw [get_forwarded_append, reached, Option.none_or, get_forwarded_cons]

theorem forwarded_hop_believed_iff (headers : RawHeaders) (before after : List Str)
    (trustedProxies : List TrustedProxyNetwork) (value : Str)
    (line : headersGet headers xForwardedFor = some value)
    (reached : getForwardedClientIp headers before trustedProxies = none) :
    (∀ ip, getForwardedClientIp headers (before ++ xForwardedFor :: after) trustedProxies = some ip →
      clientFromHeader headers trustedProxies xForwardedFor = some ip →
      ∃ left entry right address, value.splitOn ',' = left ++ entry :: right ∧ entryAddress entry = some address ∧
        addressText address = ip ∧ ∀ hop ∈ right, TrustedEntry trustedProxies hop) ↔
    ∀ left malformed right, value.splitOn ',' = left ++ malformed :: right → entryAddress malformed = none →
      (∃ hop ∈ right, UntrustedEntry trustedProxies hop) ∨ ∀ hop ∈ left, ¬ UntrustedEntry trustedProxies hop := by
  have returned := get_forwarded_split headers before after xForwardedFor trustedProxies reached
  have walk := client_from_forwarded_for headers trustedProxies value line
  refine Iff.trans ?_ (walk_believed_iff trustedProxies (value.splitOn ','))
  constructor
  · intro believed ip walked
    exact believed ip (by rw [returned, walk, walked]; rfl) (walk.trans walked)
  · intro believed ip _ taken
    exact believed ip (walk.symm.trans taken)

def tenNetwork : List TrustedProxyNetwork := [.v4 ⟨0x0A000000, 0xFF000000⟩]
def portHeaders : RawHeaders := [(ascii "x-forwarded-for", ascii "1.2.3.4, 9.9.9.9:443")]
def portEntries : List Str := ["1.2.3.4".toList, " 9.9.9.9:443".toList]

theorem forwarded_hop_believed_iff_port :
    (∀ ip, getForwardedClientIp portHeaders ([] ++ xForwardedFor :: []) tenNetwork = some ip →
      clientFromHeader portHeaders tenNetwork xForwardedFor = some ip →
      ∃ left entry right address, "1.2.3.4, 9.9.9.9:443".toList.splitOn ',' = left ++ entry :: right ∧
        entryAddress entry = some address ∧ addressText address = ip ∧ ∀ hop ∈ right, TrustedEntry tenNetwork hop) ↔
    ∀ left malformed right, "1.2.3.4, 9.9.9.9:443".toList.splitOn ',' = left ++ malformed :: right →
      entryAddress malformed = none →
      (∃ hop ∈ right, UntrustedEntry tenNetwork hop) ∨ ∀ hop ∈ left, ¬ UntrustedEntry tenNetwork hop :=
  forwarded_hop_believed_iff portHeaders [] [] tenNetwork "1.2.3.4, 9.9.9.9:443".toList (by decide +kernel) rfl

-- The caller's 1.2.3.4 is believed over the hop that the proxy recorded.
theorem port_suffix_hides_hop :
    getForwardedClientIp portHeaders [xForwardedFor] tenNetwork = some "1.2.3.4".toList ∧
    clientFromHeader portHeaders tenNetwork xForwardedFor = some "1.2.3.4".toList ∧
    headersGet portHeaders xForwardedFor = some "1.2.3.4, 9.9.9.9:443".toList ∧
    "1.2.3.4, 9.9.9.9:443".toList.splitOn ',' = portEntries ∧
    ¬ ∃ left entry right address, portEntries = left ++ entry :: right ∧ entryAddress entry = some address ∧
      addressText address = "1.2.3.4".toList ∧ ∀ hop ∈ right, TrustedEntry tenNetwork hop := by
  refine ⟨by decide +kernel, by decide +kernel, by decide +kernel, by decide +kernel, ?_⟩
  have unreadable : entryAddress " 9.9.9.9:443".toList = none := by decide +kernel
  rintro ⟨left, entry, right, address, split, parsed, _, trusted⟩
  cases left with
  | nil =>
      have behind : [" 9.9.9.9:443".toList] = right := (List.cons.inj split).2
      obtain ⟨_, readable, _⟩ := trusted " 9.9.9.9:443".toList (by simp [← behind])
      rw [unreadable] at readable
      cases readable
  | cons head tail =>
      have rest : [" 9.9.9.9:443".toList] = tail ++ entry :: right := (List.cons.inj split).2
      cases tail with
      | nil =>
          rw [← (List.cons.inj rest).1, unreadable] at parsed
          cases parsed
      | cons _ tail =>
          have empty := (List.cons.inj rest).2
          simp at empty

end Chassis.Proxy
