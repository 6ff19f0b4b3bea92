import Chassis.Digits

set_option autoImplicit false

namespace Chassis.Ip

open Digits Text

-- What may follow '%' in an IPv6 address. The constructor of IPv6Address
-- rejects an empty zone, a second '%', and a '/' anywhere in its text.
structure ScopeId where
  text : Str
  nonempty : text ≠ []
  noPercent : '%' ∉ text
  noSlash : '/' ∉ text
deriving DecidableEq

inductive IpAddress where
  | v4 (ip : BitVec 32)
  | v6 (ip : BitVec 128) (scopeId : Option ScopeId)
deriving DecidableEq

-- IPv4Address._parse_octet
def parseOctet (octet : Str) : Option Nat :=
  if octet = [] then none
  else if ¬ octet.all Char.isDigit then none
  else if 3 < octet.length then none
  else if octet ≠ ['0'] ∧ octet.head? = some '0' then none
  else
    let value := Nat.ofDigitChars 10 octet 0
    if 255 < value then none else some value

-- IPv4Address._ip_int_from_string
def ipv4IntFromString (text : Str) : Option Nat :=
  let octets := text.splitOn '.'
  if octets.length ≠ 4 then none
  else (octets.mapM parseOctet).map (ofGroups 256 0)

def ipv4Address (text : Str) : Option (BitVec 32) :=
  if '/' ∈ text then none else (ipv4IntFromString text).map (BitVec.ofNat 32)

-- IPv4Address._string_from_ip_int
def ipv4Text (ip : BitVec 32) : Str := join ['.'] ((toGroups 256 4 ip.toNat).map natText)

-- IPv6Address._parse_hextet
def parseHextet (hextet : Str) : Option Nat :=
  if ¬ hextet.all (fun c => (hexValue c).isSome) then none
  else if 4 < hextet.length then none
  else hexNumber hextet

-- The loop over range(1, len(parts) - 1) that finds '::'. The outer none is
-- the error for a second one.
def findSkip : Nat → List Str → Option Nat → Option (Option Nat)
  | _, [], found => some found
  | index, part :: rest, found =>
      if part = [] then
        match found with
        | some _ => none
        | none => findSkip (index + 1) rest (some index)
      else findSkip (index + 1) rest found

-- The number of parts before and after the '::' at `skip`, and of the groups
-- it stands for; an empty first or last part belongs to the '::' itself.
def skipCounts (parts : List Str) (skip : Nat) : Option (Nat × Nat × Nat) :=
  let partsHi := if parts.head? = some [] then skip - 1 else skip
  let partsLo := parts.length - skip - 1
  let partsLo' := if parts.getLast? = some [] then partsLo - 1 else partsLo
  if parts.head? = some [] ∧ partsHi ≠ 0 then none
  else if parts.getLast? = some [] ∧ partsLo' ≠ 0 then none
  else if 8 < partsHi + partsLo' + 1 then none
  else some (partsHi, 8 - (partsHi + partsLo'), partsLo')

def wholeCounts (parts : List Str) : Option (Nat × Nat × Nat) :=
  if parts.length ≠ 8 then none
  else if parts.head? = some [] then none
  else if parts.getLast? = some [] then none
  else some (parts.length, 0, 0)

def foldHextets (acc : Nat) (parts : List Str) : Option Nat :=
  (parts.mapM parseHextet).map (ofGroups 65536 acc)

def ipv6IntFromParts (parts : List Str) : Option Nat :=
  if 9 < parts.length then none
  else
    (findSkip 1 (parts.drop 1).dropLast none).bind fun skipIndex =>
    (match skipIndex with
      | some skip => skipCounts parts skip
      | none => wholeCounts parts).bind fun (partsHi, partsSkipped, partsLo) =>
    (foldHextets 0 (parts.take partsHi)).bind fun high =>
    foldHextets (high * 65536 ^ partsSkipped) (parts.drop (parts.length - partsLo))

-- The IPv4-style suffix rewritten as two hextets.
def expandSuffix (parts : List Str) : Option (List Str) :=
  match parts.getLast? with
  | none => some parts
  | some last =>
      if '.' ∈ last then
        (ipv4Address last).map fun ip =>
          parts.dropLast ++ [hexText (ip.toNat / 65536 % 65536), hexText (ip.toNat % 65536)]
      else some parts

-- IPv6Address._ip_int_from_string
def ipv6IntFromString (text : Str) : Option Nat :=
  if text = [] then none
  else if 45 < text.length then none
  else
    let parts := text.splitOn ':'
    if parts.length < 3 then none
    else (expandSuffix parts).bind ipv6IntFromParts

-- IPv6Address._split_scope_id, on text already known to hold no '/'.
def splitScopeId (text : Str) (noSlash : '/' ∉ text) : Option (Str × Option ScopeId) :=
  match sep : text.dropWhile (· ≠ '%') with
  | [] => some (text, none)
  | _ :: scopeId =>
      if bad : scopeId = [] ∨ '%' ∈ scopeId then none
      else some (text.takeWhile (· ≠ '%'), some {
        text := scopeId
        nonempty := fun eq => bad (.inl eq)
        noPercent := fun member => bad (.inr member)
        noSlash := fun member => noSlash
          ((List.dropWhile_suffix _).mem (sep ▸ List.mem_cons_of_mem _ member)) })

def ipv6Address (text : Str) : Option (BitVec 128 × Option ScopeId) :=
  if noSlash : '/' ∉ text then
    (splitScopeId text noSlash).bind fun (address, scopeId) =>
    (ipv6IntFromString address).map fun ip => (BitVec.ofNat 128 ip, scopeId)
  else none

-- ipaddress.ip_address: the IPv4 reading first, then the IPv6 one.
def ipAddress (text : Str) : Option IpAddress :=
  match ipv4Address text with
  | some ip => some (.v4 ip)
  | none => (ipv6Address text).map (fun result => .v6 result.1 result.2)

-- The scan of IPv6Address._compress_hextets; none stands for the index -1.
structure ZeroRun where
  bestStart : Option Nat := none
  bestLen : Nat := 0
  start : Option Nat := none
  len : Nat := 0

def scanZero (run : ZeroRun) (index : Nat) (hextet : Str) : ZeroRun :=
  if hextet = ['0'] then
    let len := run.len + 1
    let start := run.start.getD index
    if run.bestLen < len then { bestStart := some start, bestLen := len, start := some start, len := len }
    else { run with start := some start, len := len }
  else { run with start := none, len := 0 }

def scanZeros : ZeroRun → Nat → List Str → ZeroRun
  | run, _, [] => run
  | run, index, hextet :: rest => scanZeros (scanZero run index hextet) (index + 1) rest

-- IPv6Address._compress_hextets
def compressHextets (hextets : List Str) : List Str :=
  let run := scanZeros {} 0 hextets
  if 1 < run.bestLen then
    let bestStart := run.bestStart.getD 0
    let bestEnd := bestStart + run.bestLen
    let padded := if bestEnd = hextets.length then hextets ++ [[]] else hextets
    let cut := padded.take bestStart ++ [[]] ++ padded.drop bestEnd
    if bestStart = 0 then [] :: cut else cut
  else hextets

-- IPv6Address._string_from_ip_int
def ipv6TextOfInt (ip : Nat) : Str := join [':'] (compressHextets ((toGroups 65536 8 ip).map hexText))

-- IPv6Address.__str__ (Python 3.13): an IPv4-mapped address ends in dotted form.
def ipv6Text (ip : BitVec 128) (scopeId : Option ScopeId) : Str :=
  let high := ip.toNat / 2 ^ 32
  let address :=
    if high = 0xFFFF then ipv6TextOfInt high ++ [':'] ++ ipv4Text (ip.setWidth 32) else ipv6TextOfInt ip.toNat
  match scopeId with
  | some zone => address ++ ['%'] ++ zone.text
  | none => address

-- str(address)
def addressText : IpAddress → Str
  | .v4 ip => ipv4Text ip
  | .v6 ip scopeId => ipv6Text ip scopeId

end Chassis.Ip
