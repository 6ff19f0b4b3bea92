import Chassis.Prefixes
import Chassis.ProxySettings

set_option autoImplicit false

namespace Chassis.Cidr

open Ip JsonText Prefixes Proxy Text
open Chassis.Configuration (ipNetwork ipv4Network ipv6Network plainInterpreter prefixFromInt prefixFromIpString
  prefixFromString splitNetwork)

inductive AddressBlock where
  | v4 (block : Block 32)
  | v6 (block : Block 128)

def AddressBlock.Covers : AddressBlock → IpAddress → Prop
  | .v4 block, .v4 ip => block.Covers ip
  | .v6 block, .v6 ip _ => block.Covers ip
  | _, _ => False

def AddressBlock.network : AddressBlock → TrustedProxyNetwork
  | .v4 block => .v4 ⟨block.base, block.mask⟩
  | .v6 block => .v6 ⟨block.base, block.mask⟩

theorem contains_iff (block : AddressBlock) (address : IpAddress) :
    block.network.contains address = true ↔ block.Covers address := by
  cases block with
  | v4 block =>
      cases address with
      | v4 ip => exact beq_iff_eq.trans (covers_mask block ip)
      | v6 ip scopeId => exact iff_of_false Bool.false_ne_true id
  | v6 block =>
      cases address with
      | v4 ip => exact iff_of_false Bool.false_ne_true id
      | v6 ip scopeId => exact beq_iff_eq.trans (covers_mask block ip)

section Reading

variable (interpreter : Interpreter)

def parseTrustedProxies (proxies : List Str) : Option (List TrustedProxyNetwork) := proxies.mapM (ipNetwork interpreter)

-- The ways to write the length of a block: nothing for a single address, a
-- number, and for IPv4 a netmask or a hostmask. The two masks that are both
-- are netmasks.
inductive MaskReads (width : Nat) : Option Str → Nat → Prop where
  | bare : MaskReads width none width
  | decimal (text : Str) (length : Nat) (nonempty : text ≠ []) (digits : text.all Char.isDigit = true)
      (parsed : text.length ≤ interpreter.intMaxStrDigits) (value : Nat.ofDigitChars 10 text 0 = length)
      (short : length ≤ width) : MaskReads width (some text) length
  | netmask (text : Str) (length : Nat) (family : width = 32) (short : length ≤ 32)
      (dotted : ipv4IntFromString text = some (maskInt 32 length)) : MaskReads width (some text) length
  | hostmask (text : Str) (length : Nat) (family : width = 32) (positive : 0 < length) (short : length < 32)
      (dotted : ipv4IntFromString text = some (hostmaskInt 32 length)) : MaskReads width (some text) length

inductive Denotes : Str → AddressBlock → Prop where
  | v4 (text address : Str) (mask : Option Str) (block : Block 32) (split : splitNetwork text = some (address, mask))
      (read : ipv4Address address = some block.address) (length : MaskReads interpreter 32 mask block.length) :
      Denotes text (.v4 block)
  | v6 (text address : Str) (mask : Option Str) (block : Block 128) (scopeId : Option ScopeId)
      (split : splitNetwork text = some (address, mask)) (read : ipv6Address address = some (block.address, scopeId))
      (length : MaskReads interpreter 128 mask block.length) : Denotes text (.v6 block)

theorem prefix_from_string_iff (width : Nat) (text : Str) (length : Nat) :
    prefixFromString interpreter width text = some length ↔
      text ≠ [] ∧ text.all Char.isDigit = true ∧ text.length ≤ interpreter.intMaxStrDigits ∧
        Nat.ofDigitChars 10 text 0 = length ∧ length ≤ width := by
  unfold prefixFromString
  by_cases refused : text = [] ∨ text.all Char.isDigit = false ∨ interpreter.intMaxStrDigits < text.length
  · rw [if_pos refused]
    constructor
    · intro read
      cases read
    · rintro ⟨nonempty, digits, parsed, _⟩
      rcases refused with empty | other | long
      · exact absurd empty nonempty
      · rw [digits] at other
        cases other
      · exact absurd parsed (Nat.not_le_of_lt long)
  · rw [if_neg refused]
    obtain ⟨nonempty, digits, parsed⟩ : text ≠ [] ∧ text.all Char.isDigit ≠ false ∧
        ¬ interpreter.intMaxStrDigits < text.length := by simpa only [not_or] using refused
    rw [Option.filter_some]
    by_cases within : Nat.ofDigitChars 10 text 0 ≤ width
    · simp only [within, decide_true, if_true, Option.some.injEq]
      constructor
      · rintro rfl
        exact ⟨nonempty, Bool.not_eq_false _ ▸ digits, Nat.le_of_not_lt parsed, rfl, within⟩
      · rintro ⟨_, _, _, value, _⟩
        exact value
    · simp only [within, decide_false, Bool.false_eq_true, if_false]
      constructor
      · intro read
        cases read
      · rintro ⟨_, _, _, rfl, bounded⟩
        exact absurd bounded within

theorem prefix_from_int_sound (width mask length : Nat) (found : prefixFromInt width mask = some length) :
    length ≤ width ∧ mask = maskInt width length := by
  have listed := List.mem_of_find?_eq_some found
  have same := List.find?_some found
  exact ⟨Nat.lt_succ_iff.mp (List.mem_range.mp listed), of_decide_eq_true same⟩

theorem prefix_from_int_iff (width mask length : Nat) :
    prefixFromInt width mask = some length ↔ length ≤ width ∧ mask = maskInt width length := by
  constructor
  · exact prefix_from_int_sound width mask length
  · rintro ⟨short, rfl⟩
    have listed : length ∈ List.range (width + 1) := List.mem_range.mpr (Nat.lt_succ_of_le short)
    have present : (prefixFromInt width (maskInt width length)).isSome :=
      List.find?_isSome.mpr ⟨length, listed, decide_eq_true rfl⟩
    obtain ⟨other, found⟩ := Option.isSome_iff_exists.mp present
    obtain ⟨within, same⟩ := prefix_from_int_sound width _ other found
    have equal := mask_int_injective width length other short within same
    exact found.trans (congrArg some equal.symm)

theorem of_groups_lt (base acc : Nat) (groups : List Nat) (bounds : ∀ group ∈ groups, group < base) :
    Digits.ofGroups base acc groups < (acc + 1) * base ^ groups.length := by
  induction groups generalizing acc with
  | nil => simp [Digits.ofGroups]
  | cons group rest ih =>
      have first := bounds group (List.mem_cons_self ..)
      have later := ih (acc * base + group) (fun other member => bounds other (List.mem_cons_of_mem _ member))
      have room : acc * base + group + 1 ≤ (acc + 1) * base := by
        rw [Nat.add_mul, one_mul]
        omega
      calc Digits.ofGroups base acc (group :: rest)
          = Digits.ofGroups base (acc * base + group) rest := rfl
        _ < (acc * base + group + 1) * base ^ rest.length := later
        _ ≤ (acc + 1) * base * base ^ rest.length := Nat.mul_le_mul_right _ room
        _ = (acc + 1) * base ^ (group :: rest).length := by rw [List.length_cons, pow_succ]; ring

theorem octet_lt (octet : Str) (value : Nat) (parsed : parseOctet octet = some value) : value < 256 := by
  unfold parseOctet at parsed
  by_cases empty : octet = []
  · rw [if_pos empty] at parsed
    cases parsed
  rw [if_neg empty] at parsed
  by_cases others : ¬ octet.all Char.isDigit
  · rw [if_pos others] at parsed
    cases parsed
  rw [if_neg others] at parsed
  by_cases long : 3 < octet.length
  · rw [if_pos long] at parsed
    cases parsed
  rw [if_neg long] at parsed
  by_cases padded : octet ≠ ['0'] ∧ octet.head? = some '0'
  · rw [if_pos padded] at parsed
    cases parsed
  rw [if_neg padded] at parsed
  by_cases large : 255 < Nat.ofDigitChars 10 octet 0
  · simp [large] at parsed
  · simp only [large, if_false, Option.some.injEq] at parsed
    omega

theorem octets_parsed (octets : List Str) (values : List Nat) (parsed : octets.mapM parseOctet = some values) :
    values.length = octets.length ∧ ∀ value ∈ values, value < 256 := by
  induction octets generalizing values with
  | nil =>
      cases parsed
      simp
  | cons octet rest ih =>
      rw [List.mapM_cons] at parsed
      obtain ⟨value, first, later⟩ := Option.bind_eq_some_iff.mp parsed
      obtain ⟨others, found, same⟩ := Option.bind_eq_some_iff.mp later
      cases same
      obtain ⟨length, bounds⟩ := ih others found
      exact ⟨by rw [List.length_cons, List.length_cons, length], List.forall_mem_cons.mpr ⟨octet_lt octet value first, bounds⟩⟩

theorem dotted_quad (text : Str) (value : Nat) (dotted : ipv4IntFromString text = some value) :
    value < 2 ^ 32 ∧ '.' ∈ text := by
  unfold ipv4IntFromString at dotted
  by_cases four : (text.splitOn '.').length ≠ 4
  · simp [four] at dotted
  · simp only [four, if_false] at dotted
    obtain ⟨values, parsed, rfl⟩ := Option.map_eq_some_iff.mp dotted
    obtain ⟨length, bounds⟩ := octets_parsed _ values parsed
    constructor
    · have bound := of_groups_lt 256 0 values bounds
      rw [length, not_not.mp four] at bound
      exact bound
    · by_contra free
      rw [List.splitOn_eq_singleton free] at four
      exact four (by simp)

theorem prefix_from_ip_string_iff (text : Str) (length : Nat) :
    prefixFromIpString text = some length ↔
      (length ≤ 32 ∧ ipv4IntFromString text = some (maskInt 32 length)) ∨
        (0 < length ∧ length < 32 ∧ ipv4IntFromString text = some (hostmaskInt 32 length)) := by
  unfold prefixFromIpString
  cases dotted : ipv4IntFromString text with
  | none => simp
  | some mask =>
      have bound := (dotted_quad text mask dotted).1
      simp only [Option.bind_some, Option.some.injEq]
      rw [Option.or_eq_some_iff, prefix_from_int_iff, prefix_from_int_iff]
      have complement := hostmask_complement 32 length
      have low : hostmaskInt 32 length < 2 ^ 32 := by
        have small : 2 ^ (32 - length) ≤ 2 ^ 32 := Nat.pow_le_pow_right (by decide) (Nat.sub_le ..)
        unfold hostmaskInt
        omega
      apply or_congr_right
      constructor
      · rintro ⟨other, short, same⟩
        have hostmask : mask = hostmaskInt 32 length := by omega
        have inside : 0 < length ∧ length < 32 := by
          constructor
          · by_contra zero
            have found := (prefix_from_int_iff 32 mask 32).mpr ⟨Nat.le_refl _, by rw [hostmask, Nat.eq_zero_of_not_pos zero]; rfl⟩
            rw [other] at found
            cases found
          · by_contra full
            have found := (prefix_from_int_iff 32 mask 0).mpr
              ⟨Nat.zero_le _, by rw [hostmask, Nat.le_antisymm short (Nat.le_of_not_lt full)]; rfl⟩
            rw [other] at found
            cases found
        exact ⟨inside.1, inside.2, hostmask⟩
      · rintro ⟨positive, short, rfl⟩
        refine ⟨?_, Nat.le_of_lt short, complement⟩
        rw [Option.eq_none_iff_forall_ne_some]
        intro other found
        obtain ⟨within, same⟩ := prefix_from_int_sound 32 _ other found
        exact hostmask_not_mask 32 length other positive short within same.symm

theorem decimal_no_dot (width : Nat) (text : Str) (value : Nat) (dotted : ipv4IntFromString text = some value) :
    prefixFromString interpreter width text = none := by
  have dot := (dotted_quad text value dotted).2
  have others : text.all Char.isDigit = false := List.all_eq_false.mpr ⟨'.', dot, by decide⟩
  rw [prefixFromString, if_pos (.inr (.inl others))]

theorem ipv4_mask_iff (text : Str) (length : Nat) :
    (prefixFromString interpreter 32 text).or (prefixFromIpString text) = some length ↔
      MaskReads interpreter 32 (some text) length := by
  rw [Option.or_eq_some_iff, prefix_from_string_iff, prefix_from_ip_string_iff]
  constructor
  · rintro (⟨nonempty, digits, parsed, value, short⟩ | ⟨_, ⟨short, dotted⟩ | ⟨positive, short, dotted⟩⟩)
    · exact .decimal text length nonempty digits parsed value short
    · exact .netmask text length rfl short dotted
    · exact .hostmask text length rfl positive short dotted
  · intro reads
    cases reads with
    | decimal _ _ nonempty digits parsed value short => exact .inl ⟨nonempty, digits, parsed, value, short⟩
    | netmask _ _ _ short dotted => exact .inr ⟨decimal_no_dot interpreter 32 text _ dotted, .inl ⟨short, dotted⟩⟩
    | hostmask _ _ _ positive short dotted =>
        exact .inr ⟨decimal_no_dot interpreter 32 text _ dotted, .inr ⟨positive, short, dotted⟩⟩

theorem ipv6_mask_iff (text : Str) (length : Nat) :
    prefixFromString interpreter 128 text = some length ↔ MaskReads interpreter 128 (some text) length := by
  rw [prefix_from_string_iff]
  constructor
  · rintro ⟨nonempty, digits, parsed, value, short⟩
    exact .decimal text length nonempty digits parsed value short
  · intro reads
    cases reads with
    | decimal _ _ nonempty digits parsed value short => exact ⟨nonempty, digits, parsed, value, short⟩
    | netmask _ _ family => cases family
    | hostmask _ _ family => cases family

theorem mask_reads_short (width : Nat) (mask : Option Str) (length : Nat) (reads : MaskReads interpreter width mask length) :
    length ≤ width := by
  cases reads with
  | bare => exact Nat.le_refl _
  | decimal _ _ _ _ _ _ short => exact short
  | netmask _ _ family short _ => exact family ▸ short
  | hostmask _ _ family _ short _ => exact family ▸ Nat.le_of_lt short

theorem ipv4_network_iff (text : Str) (network : IpNetwork 32) :
    ipv4Network interpreter text = some network ↔
      ∃ block : Block 32, Denotes interpreter text (.v4 block) ∧ network = ⟨block.base, block.mask⟩ := by
  constructor
  · intro parsed
    obtain ⟨⟨address, mask⟩, split, parsed⟩ := Option.bind_eq_some_iff.mp parsed
    obtain ⟨ip, read, parsed⟩ := Option.bind_eq_some_iff.mp parsed
    obtain ⟨length, found, parsed⟩ := Option.bind_eq_some_iff.mp parsed
    cases parsed
    have reads : MaskReads interpreter 32 mask length := by
      cases mask with
      | none =>
          cases found
          exact .bare
      | some text => exact (ipv4_mask_iff interpreter text length).mp found
    exact ⟨⟨ip, length, mask_reads_short interpreter 32 mask length reads⟩, .v4 text address mask _ split read reads, rfl⟩
  · rintro ⟨block, denotes, rfl⟩
    cases denotes with
    | v4 address mask _ split read reads =>
        refine Option.bind_eq_some_iff.mpr ⟨(address, mask), split, ?_⟩
        refine Option.bind_eq_some_iff.mpr ⟨block.address, read, ?_⟩
        refine Option.bind_eq_some_iff.mpr ⟨block.length, ?_, rfl⟩
        cases mask with
        | none =>
            generalize block.length = length at reads
            cases reads
            rfl
        | some text => exact (ipv4_mask_iff interpreter text block.length).mpr reads

theorem ipv6_network_iff (text : Str) (network : IpNetwork 128) :
    ipv6Network interpreter text = some network ↔
      ∃ block : Block 128, Denotes interpreter text (.v6 block) ∧ network = ⟨block.base, block.mask⟩ := by
  constructor
  · intro parsed
    obtain ⟨⟨address, mask⟩, split, parsed⟩ := Option.bind_eq_some_iff.mp parsed
    obtain ⟨⟨ip, scopeId⟩, read, parsed⟩ := Option.bind_eq_some_iff.mp parsed
    obtain ⟨length, found, parsed⟩ := Option.bind_eq_some_iff.mp parsed
    cases parsed
    have reads : MaskReads interpreter 128 mask length := by
      cases mask with
      | none =>
          cases found
          exact .bare
      | some text => exact (ipv6_mask_iff interpreter text length).mp found
    have short := mask_reads_short interpreter 128 mask length reads
    exact ⟨⟨ip, length, short⟩, .v6 text address mask _ scopeId split read reads, rfl⟩
  · rintro ⟨block, denotes, rfl⟩
    cases denotes with
    | v6 address mask _ scopeId split read reads =>
        refine Option.bind_eq_some_iff.mpr ⟨(address, mask), split, ?_⟩
        refine Option.bind_eq_some_iff.mpr ⟨(block.address, scopeId), read, ?_⟩
        refine Option.bind_eq_some_iff.mpr ⟨block.length, ?_, rfl⟩
        cases mask with
        | none =>
            generalize block.length = length at reads
            cases reads
            rfl
        | some text => exact (ipv6_mask_iff interpreter text block.length).mpr reads

theorem ipv6_int_has_colon (text : Str) (value : Nat) (parsed : ipv6IntFromString text = some value) : ':' ∈ text := by
  by_contra free
  have single : (text.splitOn ':').length < 3 := by
    rw [List.splitOn_eq_singleton free, List.length_singleton]
    decide
  simp [ipv6IntFromString, single] at parsed

theorem split_scope_part (text : Str) (noSlash : '/' ∉ text) (address : Str) (scopeId : Option ScopeId)
    (split : splitScopeId text noSlash = some (address, scopeId)) : ∀ c ∈ address, c ∈ text := by
  intro c member
  unfold splitScopeId at split
  split at split
  next =>
    cases split
    exact member
  next =>
    split at split
    next => cases split
    next =>
      cases split
      exact (List.takeWhile_prefix _).subset member

theorem ipv6_address_has_colon (address : Str) (read : BitVec 128 × Option ScopeId) (parsed : ipv6Address address = some read) :
    ':' ∈ address := by
  unfold ipv6Address at parsed
  by_cases noSlash : '/' ∉ address
  · rw [dif_pos noSlash] at parsed
    obtain ⟨⟨part, scopeId⟩, split, parsed⟩ := Option.bind_eq_some_iff.mp parsed
    obtain ⟨value, found, _⟩ := Option.map_eq_some_iff.mp parsed
    exact split_scope_part address noSlash part scopeId split ':' (ipv6_int_has_colon part value found)
  · rw [dif_neg noSlash] at parsed
    cases parsed

theorem families_apart (text : Str) (first : Block 32) (second : Block 128) (asV4 : Denotes interpreter text (.v4 first))
    (asV6 : Denotes interpreter text (.v6 second)) : False := by
  cases asV4 with
  | v4 address mask _ split read _ =>
      cases asV6 with
      | v6 other otherMask _ scopeId otherSplit otherRead _ =>
          have same := Option.some.inj (split.symm.trans otherSplit)
          rw [(Prod.mk.inj same).1, ipv4_address_colon other (ipv6_address_has_colon other _ otherRead)] at read
          cases read

theorem ip_network_denotes (text : Str) (network : TrustedProxyNetwork) (parsed : ipNetwork interpreter text = some network) :
    ∃ block, Denotes interpreter text block ∧ network = block.network := by
  unfold ipNetwork at parsed
  cases fourth : ipv4Network interpreter text with
  | some found =>
      rw [fourth] at parsed
      cases parsed
      obtain ⟨block, denotes, rfl⟩ := (ipv4_network_iff interpreter text found).mp fourth
      exact ⟨.v4 block, denotes, rfl⟩
  | none =>
      rw [fourth] at parsed
      obtain ⟨found, sixth, rfl⟩ := Option.map_eq_some_iff.mp parsed
      obtain ⟨block, denotes, rfl⟩ := (ipv6_network_iff interpreter text found).mp sixth
      exact ⟨.v6 block, denotes, rfl⟩

theorem denoted_ip_network (text : Str) (block : AddressBlock) (denotes : Denotes interpreter text block) :
    ipNetwork interpreter text = some block.network := by
  unfold ipNetwork
  cases block with
  | v4 block =>
      rw [(ipv4_network_iff interpreter text _).mpr ⟨block, denotes, rfl⟩]
      rfl
  | v6 block =>
      have fourth : ipv4Network interpreter text = none := by
        rw [Option.eq_none_iff_forall_ne_some]
        intro found parsed
        obtain ⟨other, otherDenotes, _⟩ := (ipv4_network_iff interpreter text found).mp parsed
        exact families_apart interpreter text other block otherDenotes denotes
      rw [fourth, (ipv6_network_iff interpreter text _).mpr ⟨block, denotes, rfl⟩]
      rfl

theorem parse_proxies_some (proxies : List Str) (networks : List TrustedProxyNetwork)
    (parsed : parseTrustedProxies interpreter proxies = some networks) (address : IpAddress) :
    trustedAddress networks address = true ↔
      ∃ proxy ∈ proxies, ∃ block, Denotes interpreter proxy block ∧ block.Covers address := by
  induction proxies generalizing networks with
  | nil =>
      cases parsed
      simp [trustedAddress]
  | cons proxy rest ih =>
      rw [parseTrustedProxies, List.mapM_cons] at parsed
      obtain ⟨network, first, later⟩ := Option.bind_eq_some_iff.mp parsed
      obtain ⟨others, found, same⟩ := Option.bind_eq_some_iff.mp later
      cases same
      have tail := ih others found
      have head : network.contains address = true ↔ ∃ block, Denotes interpreter proxy block ∧ block.Covers address := by
        constructor
        · intro inside
          obtain ⟨block, denotes, rfl⟩ := ip_network_denotes interpreter proxy network first
          exact ⟨block, denotes, (contains_iff block address).mp inside⟩
        · rintro ⟨block, denotes, covered⟩
          rw [denoted_ip_network interpreter proxy block denotes] at first
          cases first
          exact (contains_iff block address).mpr covered
      rw [trustedAddress, List.any_cons, Bool.or_eq_true, head, List.exists_mem_cons_iff]
      exact or_congr_right tail

theorem parse_proxies_iff (proxies : List Str) :
    (∃ networks, parseTrustedProxies interpreter proxies = some networks) ↔
      ∀ proxy ∈ proxies, ∃ block, Denotes interpreter proxy block := by
  induction proxies with
  | nil => exact ⟨fun _ proxy member => absurd member List.not_mem_nil, fun _ => ⟨[], rfl⟩⟩
  | cons proxy rest ih =>
      rw [List.forall_mem_cons, ← ih]
      constructor
      · rintro ⟨networks, parsed⟩
        rw [parseTrustedProxies, List.mapM_cons] at parsed
        obtain ⟨network, first, later⟩ := Option.bind_eq_some_iff.mp parsed
        obtain ⟨others, found, _⟩ := Option.bind_eq_some_iff.mp later
        obtain ⟨block, denotes, _⟩ := ip_network_denotes interpreter proxy network first
        exact ⟨⟨block, denotes⟩, others, found⟩
      · rintro ⟨⟨block, denotes⟩, others, found⟩
        have first := denoted_ip_network interpreter proxy block denotes
        rw [parseTrustedProxies] at found ⊢
        rw [List.mapM_cons, first, Option.bind_eq_bind, Option.bind_some, found]
        exact ⟨_, rfl⟩

theorem trusted_peer_iff (proxies : List Str) :
    ((∃ networks, parseTrustedProxies interpreter proxies = some networks) ↔
      ∀ proxy ∈ proxies, ∃ block, Denotes interpreter proxy block) ∧
    ∀ networks host, parseTrustedProxies interpreter proxies = some networks →
      (isTrustedProxy host networks = true ↔
        ∃ address, ipAddress host = some address ∧
          ∃ proxy ∈ proxies, ∃ block, Denotes interpreter proxy block ∧ block.Covers address) := by
  refine ⟨parse_proxies_iff interpreter proxies, fun networks host parsed => ?_⟩
  unfold isTrustedProxy
  cases ipAddress host with
  | none => simp
  | some address => simpa using parse_proxies_some interpreter proxies networks parsed address

-- The texts for a block: with the length as a number, as a netmask and as a
-- hostmask, and the bare address where that is the whole block.
def AddressBlock.notations : AddressBlock → List Str
  | .v4 block =>
      [ipv4Text block.address ++ '/' :: natText block.length,
        ipv4Text block.address ++ '/' :: ipv4Text block.mask] ++
      (if 0 < block.length ∧ block.length < 32 then
        [ipv4Text block.address ++ '/' :: ipv4Text (BitVec.ofNat 32 (hostmaskInt 32 block.length))] else []) ++
      (if block.length = 32 then [ipv4Text block.address] else [])
  | .v6 block =>
      [ipv6Text block.address none ++ '/' :: natText block.length] ++
      (if block.length = 128 then [ipv6Text block.address none] else [])

theorem split_network_masked (address mask : Str) (addressFree : '/' ∉ address) (maskFree : '/' ∉ mask) :
    splitNetwork (address ++ '/' :: mask) = some (address, some mask) := by
  rw [splitNetwork, List.splitOn_append_cons_self_of_not_mem addressFree, List.splitOn_eq_singleton maskFree]

theorem split_network_bare (address : Str) (free : '/' ∉ address) : splitNetwork address = some (address, none) := by
  rw [splitNetwork, List.splitOn_eq_singleton free]

theorem decimal_reads (width length : Nat) (short : length ≤ width) (small : width < 1000)
    (room : 3 ≤ interpreter.intMaxStrDigits) : MaskReads interpreter width (some (natText length)) length := by
  have digits : (natText length).all Char.isDigit = true := List.all_eq_true.mpr (Connections.nat_text_digits length)
  have count : (natText length).length ≤ 3 :=
    (Nat.length_toDigits_le_iff (by decide) (by decide)).mpr (lt_of_le_of_lt short small)
  exact .decimal _ length (by simp [natText]) digits (le_trans count room) (by simp [natText]) short

theorem mask_text (length : Nat) : ipv4IntFromString (ipv4Text (mask 32 length)) = some (maskInt 32 length) := by
  rw [ipv4_int_text, mask, BitVec.toNat_ofNat, Nat.mod_eq_of_lt (mask_int_lt 32 length)]

theorem hostmask_text (length : Nat) :
    ipv4IntFromString (ipv4Text (BitVec.ofNat 32 (hostmaskInt 32 length))) = some (hostmaskInt 32 length) := by
  have small : 2 ^ (32 - length) ≤ 2 ^ 32 := Nat.pow_le_pow_right (by decide) (Nat.sub_le ..)
  have low : hostmaskInt 32 length < 2 ^ 32 := by
    unfold hostmaskInt
    omega
  rw [ipv4_int_text, BitVec.toNat_ofNat, Nat.mod_eq_of_lt low]

theorem digits_no_slash (length : Nat) : '/' ∉ natText length := digit_avoids length '/' (by decide)

theorem ipv4_no_slash (ip : BitVec 32) : '/' ∉ ipv4Text ip := ipv4_text_avoids ip '/' (by decide) (by decide)

theorem ipv6_no_slash (ip : BitVec 128) : '/' ∉ ipv6Text ip none :=
  ipv6_digits_avoid ip '/' (by decide) (by decide) (by decide) (by decide)

theorem notation_denotes (room : 3 ≤ interpreter.intMaxStrDigits) (block : AddressBlock) (text : Str)
    (listed : text ∈ block.notations) : Denotes interpreter text block := by
  cases block with
  | v4 block =>
      have read := ipv4_address_text block.address
      have free := ipv4_no_slash block.address
      rcases List.mem_append.mp listed with inFirst | bare
      · rcases List.mem_append.mp inFirst with inMasks | host
        · rcases List.mem_cons.mp inMasks with rfl | single
          · exact .v4 _ _ _ block (split_network_masked _ _ free (digits_no_slash _)) read
              (decimal_reads interpreter 32 block.length block.short (by decide) room)
          · rw [List.mem_singleton.mp single]
            exact .v4 _ _ _ block (split_network_masked _ _ free (ipv4_no_slash _)) read
              (.netmask _ block.length rfl block.short (mask_text block.length))
        · by_cases inner : 0 < block.length ∧ block.length < 32
          · rw [if_pos inner] at host
            rw [List.mem_singleton.mp host]
            exact .v4 _ _ _ block (split_network_masked _ _ free (ipv4_no_slash _)) read
              (.hostmask _ block.length rfl inner.1 inner.2 (hostmask_text block.length))
          · rw [if_neg inner] at host
            exact absurd host List.not_mem_nil
      · by_cases full : block.length = 32
        · rw [if_pos full] at bare
          rw [List.mem_singleton.mp bare]
          exact .v4 _ _ _ block (split_network_bare _ free) read (full.symm ▸ .bare)
        · rw [if_neg full] at bare
          exact absurd bare List.not_mem_nil
  | v6 block =>
      have read := ipv6_address_text block.address none
      have free := ipv6_no_slash block.address
      rcases List.mem_append.mp listed with masked | bare
      · rw [List.mem_singleton.mp masked]
        exact .v6 _ _ _ block none (split_network_masked _ _ free (digits_no_slash _)) read
          (decimal_reads interpreter 128 block.length block.short (by decide) room)
      · by_cases full : block.length = 128
        · rw [if_pos full] at bare
          rw [List.mem_singleton.mp bare]
          exact .v6 _ _ _ block none (split_network_bare _ free) read (full.symm ▸ .bare)
        · rw [if_neg full] at bare
          exact absurd bare List.not_mem_nil

theorem same_network_iff (first second : AddressBlock) :
    first.network = second.network ↔ ∀ address, first.Covers address ↔ second.Covers address := by
  constructor
  · intro same address
    rw [← contains_iff, ← contains_iff, same]
  · intro same
    cases first with
    | v4 first =>
        cases second with
        | v4 second =>
            obtain ⟨bases, masks⟩ := (same_words_iff first second).mp (fun ip => same (.v4 ip))
            rw [AddressBlock.network, AddressBlock.network, bases, masks]
        | v6 second => exact ((same (.v4 first.address)).mp (covers_own first)).elim
    | v6 first =>
        cases second with
        | v4 second => exact ((same (.v6 first.address none)).mp (covers_own first)).elim
        | v6 second =>
            obtain ⟨bases, masks⟩ := (same_words_iff first second).mp (fun ip => same (.v6 ip none))
            rw [AddressBlock.network, AddressBlock.network, bases, masks]

theorem notations_agree_iff (room : 3 ≤ interpreter.intMaxStrDigits) (first second : AddressBlock) (text other : Str)
    (written : text ∈ first.notations) (otherWritten : other ∈ second.notations) :
    (∃ network, ipNetwork interpreter text = some network) ∧
    (ipNetwork interpreter text = ipNetwork interpreter other ↔ ∀ address, first.Covers address ↔ second.Covers address) := by
  have denotes := notation_denotes interpreter room first text written
  have otherDenotes := notation_denotes interpreter room second other otherWritten
  rw [denoted_ip_network interpreter text first denotes, denoted_ip_network interpreter other second otherDenotes,
    Option.some.injEq, same_network_iff]
  exact ⟨⟨_, rfl⟩, Iff.rfl⟩

end Reading

theorem trusted_peer_iff_office :
    isTrustedProxy "10.1.2.3".toList [.v4 ⟨0x0A000000, 0xFF000000⟩] = true ↔
      ∃ address, ipAddress "10.1.2.3".toList = some address ∧
        ∃ proxy ∈ ["10.1.2.3/255.0.0.0".toList], ∃ block, Denotes plainInterpreter proxy block ∧ block.Covers address :=
  (trusted_peer_iff plainInterpreter ["10.1.2.3/255.0.0.0".toList]).2 [.v4 ⟨0x0A000000, 0xFF000000⟩] "10.1.2.3".toList
    (by decide +kernel)

theorem notations_agree_iff_office :
    (∃ network, ipNetwork plainInterpreter (ipv4Text 0x0A010203 ++ '/' :: natText 8) = some network) ∧
      (ipNetwork plainInterpreter (ipv4Text 0x0A010203 ++ '/' :: natText 8) =
          ipNetwork plainInterpreter (ipv4Text 0x0A000000 ++ '/' :: ipv4Text (mask 32 8)) ↔
        ∀ address, (AddressBlock.v4 ⟨0x0A010203, 8, by decide⟩).Covers address ↔
          (AddressBlock.v4 ⟨0x0A000000, 8, by decide⟩).Covers address) :=
  notations_agree_iff plainInterpreter (by decide) (.v4 ⟨0x0A010203, 8, by decide⟩) (.v4 ⟨0x0A000000, 8, by decide⟩) _ _
    (by simp [AddressBlock.notations]) (by simp [AddressBlock.notations, Block.mask])

end Chassis.Cidr
