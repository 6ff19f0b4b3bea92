import Chassis.Digits

set_option autoImplicit false

namespace Chassis.Urls

open Text

def splitFirst (mark : Char) : Str → Option (Str × Str)
  | [] => none
  | c :: rest =>
      if c = mark then some ([], rest) else (splitFirst mark rest).map (fun parts => (c :: parts.1, parts.2))

def splitLast (mark : Char) (text : Str) : Option (Str × Str) :=
  (splitFirst mark text.reverse).map (fun parts => (parts.2.reverse, parts.1.reverse))

-- The byte that a percent sign and two hex digits at the front stand for.
def escapeAt : Str → Option UInt8
  | '%' :: high :: low :: _ => (Digits.hexFold 0 [high, low]).map UInt8.ofNat
  | _ => none

def unquoteToBytes (text : Str) : Bytes :=
  match text with
  | [] => []
  | c :: rest =>
      match escapeAt (c :: rest) with
      | some byte => byte :: unquoteToBytes (rest.drop 2)
      | none => utf8 [c] ++ unquoteToBytes rest
termination_by text.length
decreasing_by
  · simp only [List.length_cons, List.length_drop]
    omega
  · simp

-- none where the bytes are no UTF-8, so that no text stands for them.
def unquote (text : Str) : Option Str := decodeUtf8 (unquoteToBytes text)

structure Authority where
  user : Option Str
  password : Option Str
  host : Str
  port : Option Str

structure Url where
  scheme : Str
  authority : Authority
  path : Str

def parseUserinfo (userinfo : Str) : Option (Str × Option Str) :=
  match splitFirst ':' userinfo with
  | none => (unquote userinfo).map (fun user => (user, none))
  | some (user, password) =>
      (unquote user).bind (fun user => (unquote password).map (fun password => (user, some password)))

-- A bracketed host may hold colons; the brackets stay part of it.
def parseHost (hostinfo : Str) : Option (Str × Option Str) :=
  match hostinfo with
  | '[' :: rest =>
      match splitFirst ']' rest with
      | some (literal, []) => some ('[' :: literal ++ [']'], none)
      | some (literal, ':' :: port) => some ('[' :: literal ++ [']'], some port)
      | _ => none
  | _ =>
      match splitFirst ':' hostinfo with
      | none => some (hostinfo, none)
      | some (host, port) => some (host, some port)

def parseAuthority (authority : Str) : Option Authority :=
  match splitLast '@' authority with
  | none => (parseHost authority).map (fun found => ⟨none, none, found.1, found.2⟩)
  | some (userinfo, hostinfo) =>
      (parseUserinfo userinfo).bind (fun user =>
        (parseHost hostinfo).map (fun found => ⟨some user.1, user.2, found.1, found.2⟩))

def inAuthority (c : Char) : Bool := c ≠ '/' ∧ c ≠ '?' ∧ c ≠ '#'

def inPath (c : Char) : Bool := c ≠ '?' ∧ c ≠ '#'

def parseUrl (text : Str) : Option Url :=
  match splitFirst ':' text with
  | some (scheme, '/' :: '/' :: rest) =>
      (parseAuthority (rest.takeWhile inAuthority)).map (fun authority =>
        ⟨scheme, authority, (rest.dropWhile inAuthority).takeWhile inPath⟩)
  | _ => none

theorem split_first_some (mark : Char) (text before after : Str) :
    splitFirst mark text = some (before, after) ↔ text = before ++ mark :: after ∧ mark ∉ before := by
  induction text generalizing before with
  | nil => simp [splitFirst]
  | cons c rest ih =>
      by_cases same : c = mark
      · subst same
        rw [splitFirst, if_pos rfl]
        cases before with
        | nil => simp [eq_comm]
        | cons head tail =>
            simp only [Option.some.injEq, Prod.mk.injEq, List.cons_append, List.cons.injEq, List.mem_cons, not_or]
            constructor
            · rintro ⟨none, _⟩
              cases none
            · rintro ⟨⟨first, _⟩, other, _⟩
              exact absurd first other
      · rw [splitFirst, if_neg same, Option.map_eq_some_iff]
        cases before with
        | nil =>
            constructor
            · rintro ⟨_, _, cut⟩
              cases cut
            · rintro ⟨first, _⟩
              exact absurd (List.cons.inj first).1 same
        | cons head tail =>
            constructor
            · rintro ⟨parts, found, cut⟩
              cases cut
              obtain ⟨whole, absent⟩ := (ih parts.1).mp found
              exact ⟨by rw [whole]; rfl, by simp [absent, Ne.symm same]⟩
            · rintro ⟨whole, absent⟩
              obtain ⟨first, others⟩ := List.cons.inj whole
              subst first
              exact ⟨(tail, after), (ih tail).mpr ⟨others, fun member => absent (by simp [member])⟩, rfl⟩

theorem split_first_none (mark : Char) (text : Str) : splitFirst mark text = none ↔ mark ∉ text := by
  induction text with
  | nil => simp [splitFirst]
  | cons c rest ih =>
      by_cases same : c = mark
      · simp [splitFirst, same]
      · simp [splitFirst, same, ih, Ne.symm same]

theorem split_last_some (mark : Char) (text before after : Str) :
    splitLast mark text = some (before, after) ↔ text = before ++ mark :: after ∧ mark ∉ after := by
  rw [splitLast, Option.map_eq_some_iff]
  constructor
  · rintro ⟨parts, found, cut⟩
    obtain ⟨whole, absent⟩ := (split_first_some mark text.reverse parts.1 parts.2).mp found
    cases cut
    refine ⟨?_, by simpa using absent⟩
    have turned := congrArg List.reverse whole
    simpa using turned
  · rintro ⟨whole, absent⟩
    refine ⟨(after.reverse, before.reverse), ?_, by simp⟩
    exact (split_first_some mark text.reverse after.reverse before.reverse).mpr ⟨by simp [whole], by simpa using absent⟩

theorem split_last_none (mark : Char) (text : Str) : splitLast mark text = none ↔ mark ∉ text := by
  rw [splitLast, Option.map_eq_none_iff, split_first_none]
  simp

def size (text : Str) : Nat := (utf8 text).length

theorem size_append (left right : Str) : size (left ++ right) = size left + size right := by
  simp [size, utf8]

theorem size_cons (c : Char) (rest : Str) : size (c :: rest) = size [c] + size rest :=
  size_append [c] rest

theorem size_middle (left right : Str) (c : Char) : size (left ++ c :: right) = size left + size [c] + size right := by
  rw [size_append, size_cons, Nat.add_assoc]

theorem size_single_pos (c : Char) : 0 < size [c] := by
  simp [size, utf8, Char.utf8Size_pos]

def NoEscapes (text : Str) : Prop := ∀ before after, text = before ++ after → escapeAt after = none

theorem no_escapes_nil : NoEscapes [] := by
  intro before after same
  rw [(List.append_eq_nil_iff.mp same.symm).2]
  rfl

theorem no_escapes_cons (c : Char) (rest : Str) :
    NoEscapes (c :: rest) ↔ escapeAt (c :: rest) = none ∧ NoEscapes rest := by
  constructor
  · intro none
    exact ⟨none [] (c :: rest) rfl, fun before after same => none (c :: before) after (by rw [same]; rfl)⟩
  · rintro ⟨first, others⟩ before after same
    cases before with
    | nil =>
        have whole : c :: rest = after := same
        rwa [← whole]
    | cons head tail => exact others tail after (List.cons.inj same).2

theorem escape_at_some (c : Char) (rest : Str) (byte : UInt8) (found : escapeAt (c :: rest) = some byte) :
    ∃ high low after, rest = high :: low :: after := by
  unfold escapeAt at found
  split at found
  next high low after same =>
    cases same
    exact ⟨high, low, after, rfl⟩
  next => cases found

theorem unquote_bytes_size (text : Str) :
    (NoEscapes text → unquoteToBytes text = utf8 text) ∧ (unquoteToBytes text).length ≤ size text ∧
      (¬ NoEscapes text → (unquoteToBytes text).length < size text) := by
  induction length : text.length using Nat.strong_induction_on generalizing text with
  | _ length ih =>
      subst length
      cases text with
      | nil =>
          rw [unquoteToBytes]
          exact ⟨fun _ => rfl, Nat.le_refl _, fun escaped => absurd no_escapes_nil escaped⟩
      | cons c rest =>
          rw [unquoteToBytes, no_escapes_cons]
          cases found : escapeAt (c :: rest) with
          | some byte =>
              obtain ⟨high, low, after, same⟩ := escape_at_some c rest byte found
              subst same
              have shorter := (ih after.length (by simp; omega) after rfl).2.1
              have sizes : size (c :: high :: low :: after) = size [c] + (size [high] + (size [low] + size after)) := by
                rw [size_cons, size_cons high, size_cons low]
              have first := size_single_pos c
              have second := size_single_pos high
              have third := size_single_pos low
              simp only [List.drop_succ_cons, List.drop_zero, List.length_cons]
              refine ⟨fun none => (by cases none.1), by omega, fun _ => by omega⟩
          | none =>
              obtain ⟨same, shorter, strict⟩ := ih rest.length (by simp) rest rfl
              have sizes := size_cons c rest
              have whole : (utf8 [c] ++ unquoteToBytes rest).length = size [c] + (unquoteToBytes rest).length :=
                List.length_append
              simp only
              refine ⟨fun none => ?_, by omega, fun escaped => ?_⟩
              · rw [same none.2]
                simp [utf8]
              · have inner := strict (fun none => escaped ⟨trivial, none⟩)
                omega

theorem unquote_plain (text : Str) (plain : NoEscapes text) : unquote text = some text := by
  rw [unquote, (unquote_bytes_size text).1 plain, decode_utf8]

theorem unquote_size (raw text : Str) (read : unquote raw = some text) :
    size text ≤ size raw ∧ (size raw ≤ size text → NoEscapes raw) := by
  obtain ⟨_, shorter, strict⟩ := unquote_bytes_size raw
  have bytes : utf8 text = unquoteToBytes raw := utf8_decoded (unquoteToBytes raw) text read
  rw [← bytes] at shorter strict
  refine ⟨shorter, fun long => ?_⟩
  by_contra escaped
  exact absurd (strict escaped) (Nat.not_lt.mpr long)

def SafeHost (host : Str) : Prop :=
  (∃ literal, host = '[' :: literal ++ [']'] ∧ ']' ∉ literal) ∨ (host.head? ≠ some '[' ∧ ':' ∉ host)

def writePort : Option Str → Str
  | none => []
  | some port => ':' :: port

theorem parse_host_some (hostinfo host : Str) (port : Option Str) (found : parseHost hostinfo = some (host, port)) :
    SafeHost host ∧ hostinfo = host ++ writePort port := by
  unfold parseHost at found
  split at found
  next rest =>
    split at found
    next literal closed =>
      obtain ⟨whole, absent⟩ := (split_first_some ']' rest literal []).mp closed
      cases found
      exact ⟨.inl ⟨literal, rfl, absent⟩, by simp [whole, writePort]⟩
    next literal after closed =>
      obtain ⟨whole, absent⟩ := (split_first_some ']' rest literal (':' :: after)).mp closed
      cases found
      exact ⟨.inl ⟨literal, rfl, absent⟩, by simp [whole, writePort]⟩
    next => cases found
  next open_ =>
    have bare : hostinfo.head? ≠ some '[' := by
      cases hostinfo with
      | nil => simp
      | cons c rest => simpa using fun same => open_ rest (by rw [same])
    split at found
    next whole =>
      cases found
      exact ⟨.inr ⟨bare, (split_first_none ':' _).mp whole⟩, by simp [writePort]⟩
    next first after cut =>
      obtain ⟨whole, absent⟩ := (split_first_some ':' hostinfo first after).mp cut
      cases found
      refine ⟨.inr ⟨?_, absent⟩, whole⟩
      rw [whole] at bare
      cases host with
      | nil => simp
      | cons c rest => simpa using bare

theorem parse_host_written (host port : Str) (safe : SafeHost host) :
    parseHost (host ++ ':' :: port) = some (host, some port) := by
  obtain ⟨literal, rfl, absent⟩ | ⟨bare, absent⟩ := safe
  · have closed : splitFirst ']' (literal ++ ']' :: ':' :: port) = some (literal, ':' :: port) :=
      (split_first_some ']' _ literal (':' :: port)).mpr ⟨rfl, absent⟩
    have opened : '[' :: literal ++ [']'] ++ ':' :: port = '[' :: (literal ++ ']' :: ':' :: port) := by simp
    rw [opened]
    simp only [parseHost, closed]
  · have cut : splitFirst ':' (host ++ ':' :: port) = some (host, port) :=
      (split_first_some ':' _ host port).mpr ⟨rfl, absent⟩
    unfold parseHost
    split
    next rest same =>
      cases host with
      | nil => cases same
      | cons c tail =>
          cases same
          exact absurd rfl bare
    next => rw [cut]

theorem parse_authority_some (authority : Str) (found : Authority) (parsed : parseAuthority authority = some found) :
    SafeHost found.host ∧ '@' ∉ found.host ∧ ∃ front, authority = front ++ (found.host ++ writePort found.port) := by
  unfold parseAuthority at parsed
  split at parsed
  next whole =>
    obtain ⟨hostinfo, read, same⟩ := Option.map_eq_some_iff.mp parsed
    obtain ⟨safe, text⟩ := parse_host_some authority hostinfo.1 hostinfo.2 read
    have absent := (split_last_none '@' authority).mp whole
    cases same
    exact ⟨safe, fun member => absent (by rw [text]; simp [member]), [], text⟩
  next userinfo hostinfo cut =>
    obtain ⟨user, _, rest⟩ := Option.bind_eq_some_iff.mp parsed
    obtain ⟨host, read, same⟩ := Option.map_eq_some_iff.mp rest
    obtain ⟨safe, text⟩ := parse_host_some hostinfo host.1 host.2 read
    obtain ⟨whole, absent⟩ := (split_last_some '@' authority userinfo hostinfo).mp cut
    cases same
    refine ⟨safe, fun member => absent (by rw [text]; simp [member]), userinfo ++ ['@'], ?_⟩
    rw [whole, text]
    simp

theorem parse_userinfo_some (userinfo user password : Str) (parsed : parseUserinfo userinfo = some (user, some password)) :
    ∃ rawUser rawPassword, splitFirst ':' userinfo = some (rawUser, rawPassword) ∧ unquote rawUser = some user ∧
      unquote rawPassword = some password := by
  unfold parseUserinfo at parsed
  split at parsed
  next =>
    obtain ⟨_, _, same⟩ := Option.map_eq_some_iff.mp parsed
    cases same
  next rawUser rawPassword cut =>
    obtain ⟨user', readUser, rest⟩ := Option.bind_eq_some_iff.mp parsed
    obtain ⟨password', readPassword, same⟩ := Option.map_eq_some_iff.mp rest
    cases same
    exact ⟨rawUser, rawPassword, cut, readUser, readPassword⟩

theorem parse_authority_userinfo (authority password : Str) (found : Authority)
    (parsed : parseAuthority authority = some found) (given : found.password = some password) :
    ∃ userinfo hostinfo user, splitLast '@' authority = some (userinfo, hostinfo) ∧ found.user = some user ∧
      parseUserinfo userinfo = some (user, some password) ∧ parseHost hostinfo = some (found.host, found.port) := by
  unfold parseAuthority at parsed
  split at parsed
  next =>
    obtain ⟨_, _, same⟩ := Option.map_eq_some_iff.mp parsed
    cases same
    cases given
  next userinfo hostinfo cut =>
    obtain ⟨user, readUser, rest⟩ := Option.bind_eq_some_iff.mp parsed
    obtain ⟨host, readHost, same⟩ := Option.map_eq_some_iff.mp rest
    cases same
    obtain ⟨name, secret⟩ := user
    cases given
    exact ⟨userinfo, hostinfo, name, cut, rfl, readUser, readHost⟩

theorem authority_size (authority user password port : Str) (found : Authority)
    (parsed : parseAuthority authority = some found) (userGiven : found.user = some user)
    (passwordGiven : found.password = some password) (portGiven : found.port = some port) :
    size (user ++ ':' :: password ++ '@' :: (found.host ++ ':' :: port)) ≤ size authority := by
  obtain ⟨userinfo, hostinfo, name, cut, named, readUser, readHost⟩ :=
    parse_authority_userinfo authority password found parsed passwordGiven
  obtain ⟨rawUser, rawPassword, colon, unquotedUser, unquotedPassword⟩ := parse_userinfo_some userinfo name password readUser
  have same : name = user := Option.some.inj (named.symm.trans userGiven)
  subst same
  have userSize := (unquote_size rawUser name unquotedUser).1
  have passwordSize := (unquote_size rawPassword password unquotedPassword).1
  have host := (parse_host_some hostinfo found.host found.port readHost).2
  have whole := ((split_last_some '@' authority userinfo hostinfo).mp cut).1
  have front := ((split_first_some ':' userinfo rawUser rawPassword).mp colon).1
  rw [whole, front, host, portGiven]
  simp only [writePort, size_middle]
  omega

def writeUserinfo : Option (Str × Str) → Str
  | none => []
  | some (user, password) => user ++ ':' :: password ++ ['@']

def writeUrl (scheme : Str) (userinfo : Option (Str × Str)) (host port path : Str) : Str :=
  scheme ++ "://".toList ++ writeUserinfo userinfo ++ host ++ ':' :: port ++ path

structure SafeUserinfo (user password : Str) : Prop where
  colon : ':' ∉ user
  userPlain : ∀ c ∈ user, inAuthority c = true
  passwordPlain : ∀ c ∈ password, inAuthority c = true
  userEscapes : NoEscapes user
  passwordEscapes : NoEscapes password

structure SafeHostinfo (host : Str) : Prop where
  form : SafeHost host
  mark : '@' ∉ host
  plain : ∀ c ∈ host, inAuthority c = true

theorem digits_in_authority (port : Str) (digits : ∀ c ∈ port, c.isDigit = true) :
    (∀ c ∈ port, inAuthority c = true) ∧ '@' ∉ port := by
  constructor
  · intro c member
    have digit := digits c member
    simp only [inAuthority, decide_eq_true_eq]
    refine ⟨?_, ?_, ?_⟩ <;> rintro rfl <;> simp at digit
  · intro member
    have digit := digits '@' member
    simp at digit

theorem take_while_size (inside : Char → Bool) (front rest : Str) :
    (∀ c ∈ front, inside c = true) ∨ size ((front ++ rest).takeWhile inside) < size front := by
  induction front with
  | nil => exact .inl (by simp)
  | cons c tail ih =>
      have positive := size_single_pos c
      cases own : inside c with
      | false =>
          right
          simp only [List.cons_append, List.takeWhile_cons, own]
          rw [size_cons]
          exact Nat.add_pos_left positive _
      | true =>
          rcases ih with all | shorter
          · left
            intro other member
            rcases List.mem_cons.mp member with rfl | later
            · exact own
            · exact all other later
          · right
            simp only [List.cons_append, List.takeWhile_cons, own, if_true]
            rw [size_cons, size_cons c tail]
            omega

theorem first_colon (user password rawUser rawPassword : Str)
    (cut : splitFirst ':' (user ++ ':' :: password) = some (rawUser, rawPassword)) :
    (':' ∉ user ∧ rawUser = user ∧ rawPassword = password) ∨ size rawUser < size user := by
  cases own : splitFirst ':' user with
  | none =>
      have absent := (split_first_none ':' user).mp own
      have whole : splitFirst ':' (user ++ ':' :: password) = some (user, password) :=
        (split_first_some ':' _ user password).mpr ⟨rfl, absent⟩
      rw [cut] at whole
      cases whole
      exact .inl ⟨absent, rfl, rfl⟩
  | some parts =>
      obtain ⟨before, after⟩ := parts
      obtain ⟨whole, absent⟩ := (split_first_some ':' user before after).mp own
      have moved : splitFirst ':' (user ++ ':' :: password) = some (before, after ++ ':' :: password) :=
        (split_first_some ':' _ before _).mpr ⟨by simp [whole], absent⟩
      rw [cut] at moved
      cases moved
      right
      have positive := size_single_pos ':'
      rw [whole, size_middle]
      omega

-- The authority cannot have ended early: what it was read to is too long.
theorem authority_userinfo_safe (user password host port name : Str) (authority : Authority)
    (found : parseAuthority
      ((user ++ ':' :: password ++ '@' :: (host ++ ':' :: port) ++ '/' :: name).takeWhile inAuthority) = some authority)
    (userLong : ∀ text, authority.user = some text → size user ≤ size text)
    (passwordSame : authority.password = some password) (hostSame : authority.host = host)
    (portSame : authority.port = some port) (unmarked : '@' ∉ host ++ ':' :: port) : SafeUserinfo user password := by
  obtain ⟨userinfo, hostinfo, read, cut, named, readUser, _⟩ :=
    parse_authority_userinfo _ password authority found passwordSame
  have long := userLong read named
  have bytes := authority_size _ read password port authority found named passwordSame portSame
  rw [hostSame] at bytes
  have inside : ∀ c ∈ user ++ ':' :: password ++ '@' :: (host ++ ':' :: port), inAuthority c = true := by
    rcases take_while_size inAuthority (user ++ ':' :: password ++ '@' :: (host ++ ':' :: port)) ('/' :: name) with
      all | shorter
    · exact all
    · simp only [size_middle] at bytes shorter
      omega
  have taken : (user ++ ':' :: password ++ '@' :: (host ++ ':' :: port) ++ '/' :: name).takeWhile inAuthority =
      user ++ ':' :: password ++ '@' :: (host ++ ':' :: port) := by
    rw [List.takeWhile_append_of_pos inside]
    simp [inAuthority]
  have expected : splitLast '@' (user ++ ':' :: password ++ '@' :: (host ++ ':' :: port)) =
      some (user ++ ':' :: password, host ++ ':' :: port) :=
    (split_last_some '@' _ _ _).mpr ⟨rfl, unmarked⟩
  rw [taken, expected] at cut
  cases cut
  obtain ⟨rawUser, rawPassword, colon, unquotedUser, unquotedPassword⟩ := parse_userinfo_some _ read password readUser
  have userSize := unquote_size rawUser read unquotedUser
  have passwordSize := unquote_size rawPassword password unquotedPassword
  rcases first_colon user password rawUser rawPassword colon with ⟨absent, rfl, rfl⟩ | shorter
  · exact ⟨absent, fun c member => inside c (by simp [member]), fun c member => inside c (by simp [member]),
      userSize.2 long, passwordSize.2 (Nat.le_refl _)⟩
  · exact absurd (Nat.le_trans long userSize.1) (Nat.not_le.mpr shorter)

section Written

variable (scheme : Str) (plain : ':' ∉ scheme)

include plain

theorem parse_scheme (rest : Str) :
    parseUrl (scheme ++ "://".toList ++ rest) =
      (parseAuthority (rest.takeWhile inAuthority)).map (fun authority =>
        ⟨scheme, authority, (rest.dropWhile inAuthority).takeWhile inPath⟩) := by
  have cut : splitFirst ':' (scheme ++ "://".toList ++ rest) = some (scheme, '/' :: '/' :: rest) :=
    (split_first_some ':' _ scheme _).mpr ⟨by simp, plain⟩
  rw [parseUrl, cut]
  rfl

variable (host port name : Str) (digits : ∀ c ∈ port, c.isDigit = true)

theorem parsed_host_safe (rest : Str) (parsed : Url) (read : parseUrl (scheme ++ "://".toList ++ rest) = some parsed) :
    SafeHostinfo parsed.authority.host ∧ ∀ c ∈ parsed.path, inPath c = true := by
  rw [parse_scheme scheme plain rest] at read
  obtain ⟨authority, found, same⟩ := Option.map_eq_some_iff.mp read
  cases same
  obtain ⟨safe, mark, front, whole⟩ := parse_authority_some _ authority found
  refine ⟨⟨safe, mark, ?_⟩, fun c member => List.mem_takeWhile_imp member⟩
  intro c member
  have inside : c ∈ rest.takeWhile inAuthority := by
    rw [whole]
    simp [member]
  exact List.mem_takeWhile_imp inside

include digits

theorem written_authority (userinfo : Option (Str × Str)) (safe : ∀ c ∈ writeUserinfo userinfo, inAuthority c = true)
    (hostPlain : ∀ c ∈ host, inAuthority c = true) :
    parseUrl (writeUrl scheme userinfo host port ('/' :: name)) =
      (parseAuthority (writeUserinfo userinfo ++ host ++ ':' :: port)).map (fun authority =>
        ⟨scheme, authority, '/' :: name.takeWhile inPath⟩) := by
  have inside : ∀ c ∈ writeUserinfo userinfo ++ host ++ ':' :: port, inAuthority c = true := by
    intro c member
    simp only [List.mem_append, List.mem_cons] at member
    rcases member with (user | host) | (rfl | port)
    · exact safe c user
    · exact hostPlain c host
    · rfl
    · exact (digits_in_authority _ digits).1 c port
  have text : writeUrl scheme userinfo host port ('/' :: name) =
      scheme ++ "://".toList ++ (writeUserinfo userinfo ++ host ++ ':' :: port ++ '/' :: name) := by
    simp [writeUrl]
  have taken : (writeUserinfo userinfo ++ host ++ ':' :: port ++ '/' :: name).takeWhile inAuthority =
      writeUserinfo userinfo ++ host ++ ':' :: port := by
    rw [List.takeWhile_append_of_pos inside]
    simp [inAuthority]
  have dropped : (writeUserinfo userinfo ++ host ++ ':' :: port ++ '/' :: name).dropWhile inAuthority = '/' :: name := by
    rw [List.dropWhile_append_of_pos inside]
    simp [inAuthority]
  rw [text, parse_scheme scheme plain, taken, dropped]
  rfl

theorem parse_written (userinfo : Option (Str × Str))
    (safe : ∀ user password, userinfo = some (user, password) → SafeUserinfo user password) (hostSafe : SafeHostinfo host)
    (namePlain : ∀ c ∈ name, inPath c = true) :
    parseUrl (writeUrl scheme userinfo host port ('/' :: name)) =
      some ⟨scheme, ⟨userinfo.map Prod.fst, userinfo.map Prod.snd, host, some port⟩, '/' :: name⟩ := by
  have path : name.takeWhile inPath = name := List.takeWhile_eq_self_iff.mpr namePlain
  have read := parse_host_written host port hostSafe.form
  have unmarked : '@' ∉ host ++ ':' :: port := by
    simp [hostSafe.mark, (digits_in_authority port digits).2]
  cases userinfo with
  | none =>
      rw [written_authority scheme plain host port name digits none (by simp [writeUserinfo]) hostSafe.plain, path]
      have whole : splitLast '@' (host ++ ':' :: port) = none := (split_last_none '@' _).mpr unmarked
      simp [writeUserinfo, parseAuthority, whole, read]
  | some pair =>
      obtain ⟨user, password⟩ := pair
      have given := safe user password rfl
      have userPlain : ∀ c ∈ writeUserinfo (some (user, password)), inAuthority c = true := by
        intro c member
        simp only [writeUserinfo, List.mem_append, List.mem_cons, List.not_mem_nil, or_false] at member
        rcases member with (user | rfl | password) | rfl
        · exact given.userPlain c user
        · rfl
        · exact given.passwordPlain c password
        · rfl
      rw [written_authority scheme plain host port name digits _ userPlain hostSafe.plain, path]
      have cut : splitLast '@' (writeUserinfo (some (user, password)) ++ host ++ ':' :: port) =
          some (user ++ ':' :: password, host ++ ':' :: port) :=
        (split_last_some '@' _ _ _).mpr ⟨by simp [writeUserinfo], unmarked⟩
      have colon : splitFirst ':' (user ++ ':' :: password) = some (user, password) :=
        (split_first_some ':' _ user password).mpr ⟨rfl, given.colon⟩
      rw [parseAuthority, cut]
      simp [parseUserinfo, colon, unquote_plain user given.userEscapes, unquote_plain password given.passwordEscapes, read]

theorem written_userinfo_safe (user password : Str) (parsed : Url)
    (read : parseUrl (writeUrl scheme (some (user, password)) host port ('/' :: name)) = some parsed)
    (userLong : ∀ text, parsed.authority.user = some text → size user ≤ size text)
    (passwordSame : parsed.authority.password = some password) (hostSame : parsed.authority.host = host)
    (portSame : parsed.authority.port = some port) : SafeUserinfo user password := by
  have text : writeUrl scheme (some (user, password)) host port ('/' :: name) =
      scheme ++ "://".toList ++ ((user ++ ':' :: password ++ '@' :: (host ++ ':' :: port)) ++ '/' :: name) := by
    simp [writeUrl, writeUserinfo]
  rw [text] at read
  have hostSafe := (parsed_host_safe scheme plain _ parsed read).1
  rw [hostSame] at hostSafe
  have unmarked : '@' ∉ host ++ ':' :: port := by
    simp [hostSafe.mark, (digits_in_authority port digits).2]
  rw [parse_scheme scheme plain] at read
  obtain ⟨authority, found, same⟩ := Option.map_eq_some_iff.mp read
  cases same
  exact authority_userinfo_safe user password host port name authority found userLong passwordSame hostSame portSame unmarked

end Written

end Chassis.Urls
