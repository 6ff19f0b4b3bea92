import Chassis.AuthKey

set_option autoImplicit false

namespace Chassis.Auth

section Entries

variable {κ : Type} (library : JwtLibrary κ) (kid : Str)

def loadsKey : Json → Option κ
  | .object members => if hasKid members kid then (library.fromDict members).toOption else none
  | _ => none

def firstLoadable (entries : List Json) : Option κ := entries.findSome? (loadsKey library kid)

def stopsAt : Json → Bool
  | .object members => hasKid members kid
  | _ => true

def StopsWell (entries : List Json) : Prop :=
  ∀ entry, entries.find? (stopsAt kid) = some entry → (loadsKey library kid entry).isSome = true

theorem passed_loads_nothing (entry : Json) (passed : stopsAt kid entry = false) : loadsKey library kid entry = none := by
  cases entry with
  | object members =>
      have other : hasKid members kid = false := passed
      simp [loadsKey, other]
  | null => cases passed
  | bool value => cases passed
  | int value => cases passed
  | float value => cases passed
  | str text => cases passed
  | array items => cases passed

theorem key_for_kid_passed (entry : Json) (rest : List Json) (passed : stopsAt kid entry = false) :
    keyForKid library kid (entry :: rest) = keyForKid library kid rest := by
  cases entry with
  | object members =>
      have other : ¬ hasKid members kid = true := by simpa [stopsAt] using passed
      rw [keyForKid, if_neg other]
  | null => cases passed
  | bool value => cases passed
  | int value => cases passed
  | float value => cases passed
  | str text => cases passed
  | array items => cases passed

theorem key_for_kid_stopped (entry : Json) (rest : List Json) (stopped : stopsAt kid entry = true) :
    match loadsKey library kid entry with
    | some key => keyForKid library kid (entry :: rest) = .ok (some key)
    | none => ∃ failure, keyForKid library kid (entry :: rest) = .error failure := by
  cases entry with
  | object members =>
      have named : hasKid members kid = true := stopped
      rw [loadsKey, if_pos named, keyForKid, if_pos named]
      cases library.fromDict members with
      | ok key => rfl
      | error failure => exact ⟨failure, rfl⟩
  | null => exact ⟨.other, rfl⟩
  | bool value => exact ⟨.other, rfl⟩
  | int value => exact ⟨.other, rfl⟩
  | float value => exact ⟨.other, rfl⟩
  | str text => exact ⟨.other, rfl⟩
  | array items => exact ⟨.other, rfl⟩

theorem key_for_kid_iff (entries : List Json) :
    keyForKid library kid entries = .ok (firstLoadable library kid entries) ↔ StopsWell library kid entries := by
  induction entries with
  | nil => simp [keyForKid, firstLoadable, StopsWell]
  | cons entry rest ih =>
      cases stopped : stopsAt kid entry with
      | false =>
          have skipped : firstLoadable library kid (entry :: rest) = firstLoadable library kid rest := by
            rw [firstLoadable, List.findSome?_cons, passed_loads_nothing library kid entry stopped]
            rfl
          have later : StopsWell library kid (entry :: rest) ↔ StopsWell library kid rest := by
            simp [StopsWell, stopped]
          rw [key_for_kid_passed library kid entry rest stopped, skipped, later]
          exact ih
      | true =>
          have here : StopsWell library kid (entry :: rest) ↔ (loadsKey library kid entry).isSome = true := by
            simp [StopsWell, stopped]
          have ended := key_for_kid_stopped library kid entry rest stopped
          rw [here]
          cases loaded : loadsKey library kid entry with
          | some key =>
              rw [loaded] at ended
              refine iff_of_true ?_ rfl
              rw [ended, firstLoadable, List.findSome?_cons, loaded]
          | none =>
              rw [loaded] at ended
              obtain ⟨failure, raised⟩ := ended
              simp [raised]

theorem refresh_resolves (fetch : Bool → Except Failure Jwks) (jwks refreshed : Jwks) (key : κ)
    (first : fetch false = .ok jwks) (missed : getJwkKeyForKid library jwks kid = .ok none)
    (second : fetch true = .ok refreshed) (found : getJwkKeyForKid library refreshed kid = .ok (some key)) :
    resolveJwksKey library fetch kid = .ok (.jwk key) := by
  have absent : lookupKey library fetch kid false = .ok none := by
    rw [lookupKey, first]
    exact missed
  have present : lookupKey library fetch kid true = .ok (some key) := by
    rw [lookupKey, second]
    exact found
  simp [resolveJwksKey, absent, present]

def BadEntriesSkipped (jwks : Jwks) : Prop :=
  getJwkKeyForKid library jwks kid = .ok (firstLoadable library kid jwks.keys) ∧
    (firstLoadable library kid jwks.keys = none → ∀ fetch refreshed key, fetch false = .ok jwks →
      fetch true = .ok refreshed → getJwkKeyForKid library refreshed kid = .ok (some key) →
      resolveJwksKey library fetch kid = .ok (.jwk key))

theorem bad_entries_skipped_iff (jwks : Jwks) :
    BadEntriesSkipped library kid jwks ↔ StopsWell library kid jwks.keys := by
  have listed := key_for_kid_iff library kid jwks.keys
  constructor
  · intro skipped
    exact listed.mp skipped.1
  · intro stops
    have found : getJwkKeyForKid library jwks kid = .ok (firstLoadable library kid jwks.keys) := listed.mpr stops
    refine ⟨found, ?_⟩
    intro missing fetch refreshed key first second loaded
    rw [missing] at found
    exact refresh_resolves library kid fetch jwks refreshed key first found second loaded

end Entries

def brokenEntry : Json := .null

def brokenSet : Jwks where
  members := [("keys".toList, .array (brokenEntry :: oneKeySet.keys))]
  keys := brokenEntry :: oneKeySet.keys
  found := rfl
  nonempty := List.cons_ne_nil _ _

theorem broken_entry_hides_key :
    validateJwksPayload (.object brokenSet.members) = .ok brokenSet ∧
      firstLoadable oneKeyLibrary "k1".toList brokenSet.keys = some () ∧
      getJwkKeyForKid oneKeyLibrary brokenSet "k1".toList = .error .other ∧
      ¬ ∀ (κ : Type) (library : JwtLibrary κ) (kid : Str) (jwks : Jwks), BadEntriesSkipped library kid jwks := by
  have raised : getJwkKeyForKid oneKeyLibrary brokenSet "k1".toList = .error .other := rfl
  refine ⟨rfl, rfl, raised, ?_⟩
  intro claim
  have found := (claim Unit oneKeyLibrary "k1".toList brokenSet).1
  rw [raised] at found
  cases found

end Chassis.Auth
