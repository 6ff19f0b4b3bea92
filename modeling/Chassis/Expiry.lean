import Chassis.Dict
import Mathlib.Data.List.MinMax

set_option autoImplicit false

namespace Chassis.Expiry

variable {κ ν τ : Type} [LinearOrder τ]

def live (now : τ) (entries : Dict κ (ν × τ)) : Dict κ (ν × τ) :=
  entries.filter (fun _ entry => decide (now < entry.2))

def earliest (entries : Dict κ (ν × τ)) : Option κ :=
  (entries.items.argmin (fun item => item.2.2)).map Prod.fst

theorem live_size_le (now : τ) (entries : Dict κ (ν × τ)) : (live now entries).size ≤ entries.size :=
  Dict.filter_size _ entries

def NoTies (entries : Dict κ (ν × τ)) : Prop := (entries.items.map (fun item => item.2.2)).Nodup

instance (entries : Dict κ (ν × τ)) : Decidable (NoTies entries) := inferInstanceAs (Decidable (List.Nodup _))

variable [DecidableEq κ]

def dropEarliest (entries : Dict κ (ν × τ)) : Dict κ (ν × τ) :=
  match earliest entries with
  | none => entries
  | some key => entries.pop key

def makeRoom (capacity : Nat) (key : κ) (entries : Dict κ (ν × τ)) : Dict κ (ν × τ) :=
  if capacity ≤ entries.size ∧ key ∉ entries.keys then dropEarliest entries else entries

def insertBounded (capacity : Nat) (key : κ) (entry : ν × τ) (entries : Dict κ (ν × τ)) : Dict κ (ν × τ) :=
  (makeRoom capacity key entries).set key entry

theorem get_live (now : τ) (entries : Dict κ (ν × τ)) (key : κ) :
    (live now entries).get key = (entries.get key).filter (fun entry => decide (now < entry.2)) :=
  Dict.get_filter _ entries key

theorem live_get_some (now : τ) (entries : Dict κ (ν × τ)) (key : κ) (entry : ν × τ) :
    (live now entries).get key = some entry ↔ entries.get key = some entry ∧ now < entry.2 := by
  rw [get_live, Option.filter_eq_some_iff, decide_eq_true_eq]

omit [DecidableEq κ] in
theorem live_later (now later : τ) (entries : Dict κ (ν × τ)) (ordered : now ≤ later) :
    live later (live now entries) = live later entries := by
  apply Dict.ext_items
  simp only [live, Dict.filter, List.filter_filter]
  apply List.filter_congr
  intro item _
  by_cases alive : later < item.2.2
  · simp [alive, lt_of_le_of_lt ordered alive]
  · simp [alive]

theorem live_same (now : τ) (left right : Dict κ (ν × τ)) (same : Dict.Same left right) :
    Dict.Same (live now left) (live now right) := by
  intro key
  rw [get_live, get_live, same key]

omit [LinearOrder τ] in
theorem no_ties_unique (entries : Dict κ (ν × τ)) (noTies : NoTies entries) (left right : κ) (first second : ν × τ)
    (leftHeld : entries.get left = some first) (rightHeld : entries.get right = some second)
    (tie : first.2 = second.2) : left = right := by
  have leftMember := (Dict.get_eq_some entries left first).mp leftHeld
  have rightMember := (Dict.get_eq_some entries right second).mp rightHeld
  exact congrArg Prod.fst (List.inj_on_of_nodup_map noTies leftMember rightMember tie)

omit [LinearOrder τ] in
theorem no_ties_same (left right : Dict κ (ν × τ)) (same : Dict.Same left right) (noTies : NoTies left) :
    NoTies right :=
  ((Dict.same_items left right same).map _).nodup noTies

theorem earliest_least (entries : Dict κ (ν × τ)) (key : κ) (found : earliest entries = some key) :
    ∃ entry, entries.get key = some entry ∧
      ∀ other stored, entries.get other = some stored → entry.2 ≤ stored.2 := by
  obtain ⟨item, least, rfl⟩ := Option.map_eq_some_iff.mp found
  refine ⟨item.2, (Dict.get_eq_some entries _ _).mpr (List.argmin_mem least), ?_⟩
  intro other stored held
  have below := List.le_of_mem_argmin ((Dict.get_eq_some entries other stored).mp held) least
  exact below

theorem earliest_exists (entries : Dict κ (ν × τ)) (key : κ) (entry : ν × τ) (held : entries.get key = some entry) :
    ∃ least, earliest entries = some least := by
  cases found : entries.items.argmin (fun item => item.2.2) with
  | none =>
      have member := (Dict.get_eq_some entries key entry).mp held
      rw [List.argmin_eq_none.mp found] at member
      cases member
  | some item => exact ⟨item.1, by simp [earliest, found]⟩

theorem drop_earliest_get (entries : Dict κ (ν × τ)) (key : κ) :
    (dropEarliest entries).get key = if earliest entries = some key then none else entries.get key := by
  unfold dropEarliest
  cases found : earliest entries with
  | none => simp
  | some least => simp [Dict.get_pop, eq_comm]

theorem earliest_same (left right : Dict κ (ν × τ)) (same : Dict.Same left right) (noTies : NoTies left) :
    earliest left = earliest right := by
  cases fromLeft : earliest left with
  | none =>
      cases fromRight : earliest right with
      | none => rfl
      | some key =>
          obtain ⟨entry, held, _⟩ := earliest_least right key fromRight
          obtain ⟨least, found⟩ := earliest_exists left key entry ((same key).trans held)
          rw [fromLeft] at found
          cases found
  | some key =>
      obtain ⟨entry, held, least⟩ := earliest_least left key fromLeft
      obtain ⟨other, found⟩ := earliest_exists right key entry ((same key).symm.trans held)
      obtain ⟨stored, otherHeld, otherLeast⟩ := earliest_least right other found
      have otherInLeft := (same other).trans otherHeld
      have tie : entry.2 = stored.2 :=
        le_antisymm (least other stored otherInLeft) (otherLeast key entry ((same key).symm.trans held))
      rw [found, no_ties_unique left noTies key other entry stored held otherInLeft tie]

theorem drop_earliest_same (left right : Dict κ (ν × τ)) (same : Dict.Same left right) (noTies : NoTies left) :
    Dict.Same (dropEarliest left) (dropEarliest right) := by
  intro key
  rw [drop_earliest_get, drop_earliest_get, earliest_same left right same noTies, same key]

theorem drop_earliest_expired (now : τ) (entries : Dict κ (ν × τ)) (key : κ) (entry : ν × τ)
    (held : entries.get key = some entry) (expired : entry.2 ≤ now) :
    Dict.Same (live now (dropEarliest entries)) (live now entries) := by
  intro other
  rw [get_live, get_live, drop_earliest_get]
  by_cases dropped : earliest entries = some other
  · obtain ⟨stored, otherHeld, least⟩ := earliest_least entries other dropped
    have old : stored.2 ≤ now := le_trans (least key entry held) expired
    simp [dropped, otherHeld, Option.filter, not_lt.mpr old]
  · rw [if_neg dropped]

theorem live_size_lt (now : τ) (entries : Dict κ (ν × τ)) (key : κ) (entry : ν × τ)
    (held : entries.get key = some entry) (expired : entry.2 ≤ now) : (live now entries).size < entries.size := by
  apply List.length_filter_lt_length_iff_exists.mpr
  exact ⟨(key, entry), (Dict.get_eq_some entries key entry).mp held, by simpa using expired⟩

theorem all_live (now : τ) (entries : Dict κ (ν × τ))
    (fresh : ∀ key entry, entries.get key = some entry → now < entry.2) : live now entries = entries := by
  apply Dict.ext_items
  apply List.filter_eq_self.mpr
  intro item member
  simpa using fresh item.1 item.2 ((Dict.get_eq_some entries item.1 item.2).mpr member)

theorem expired_or_live (now : τ) (entries : Dict κ (ν × τ)) :
    (∃ key entry, entries.get key = some entry ∧ entry.2 ≤ now) ∨ live now entries = entries := by
  by_cases expired : ∃ key entry, entries.get key = some entry ∧ entry.2 ≤ now
  · exact .inl expired
  · refine .inr (all_live now entries ?_)
    intro key entry held
    exact not_le.mp (fun old => expired ⟨key, entry, held, old⟩)

theorem drop_earliest_size (entries : Dict κ (ν × τ)) (nonempty : 0 < entries.size) :
    (dropEarliest entries).size < entries.size := by
  obtain ⟨item, member⟩ := List.exists_mem_of_length_pos nonempty
  obtain ⟨least, found⟩ := earliest_exists entries item.1 item.2 ((Dict.get_eq_some entries _ _).mpr member)
  obtain ⟨entry, held, _⟩ := earliest_least entries least found
  have dropped : dropEarliest entries = entries.pop least := by simp [dropEarliest, found]
  have popped := Dict.pop_size entries least ((Dict.mem_keys entries least).mpr ⟨entry, held⟩)
  rw [dropped]
  omega

theorem insert_bounded_size (capacity : Nat) (key : κ) (entry : ν × τ) (entries : Dict κ (ν × τ)) (positive : 0 < capacity)
    (bounded : entries.size ≤ capacity) : (insertBounded capacity key entry entries).size ≤ capacity := by
  unfold insertBounded makeRoom
  rw [Dict.set_size]
  by_cases full : capacity ≤ entries.size ∧ key ∉ entries.keys
  · rw [if_pos full]
    have smaller := drop_earliest_size entries (lt_of_lt_of_le positive full.1)
    split <;> omega
  · rw [if_neg full]
    split
    next => exact bounded
    next absent =>
        have room : ¬ capacity ≤ entries.size := fun reached => full ⟨reached, absent⟩
        omega

theorem make_room_live (capacity : Nat) (now : τ) (key : κ) (entries fresh : Dict κ (ν × τ))
    (bounded : entries.size ≤ capacity) (noTies : NoTies (live now entries)) (same : Dict.Same (live now entries) fresh)
    (other : κ) :
    (live now (makeRoom capacity key entries)).get other = (live now (makeRoom capacity key fresh)).get other := by
  have sizes := Dict.same_size _ _ same
  have shrinks := live_size_le now entries
  have freshLive : Dict.Same (live now entries) (live now fresh) := by
    intro name
    rw [← live_later now now entries le_rfl]
    exact live_same now _ _ same name
  by_cases stored : key ∈ entries.keys
  · have keptFresh : makeRoom capacity key fresh = fresh := by
      apply if_neg
      intro full
      obtain ⟨entry, held⟩ := (Dict.mem_keys entries key).mp stored
      have gone : ¬ now < entry.2 := fun alive => full.2 ((Dict.mem_keys fresh key).mpr
        ⟨entry, (same key).symm.trans ((live_get_some now entries key entry).mpr ⟨held, alive⟩)⟩)
      have smaller := live_size_lt now entries key entry held (not_lt.mp gone)
      omega
    have kept : makeRoom capacity key entries = entries := if_neg (fun full => full.2 stored)
    rw [kept, keptFresh]
    exact freshLive other
  · have absent : key ∉ fresh.keys := by
      intro held
      obtain ⟨entry, found⟩ := (Dict.mem_keys fresh key).mp held
      have alive := (live_get_some now entries key entry).mp ((same key).trans found)
      exact stored ((Dict.mem_keys entries key).mpr ⟨entry, alive.1⟩)
    by_cases full : capacity ≤ entries.size
    · have dropped : makeRoom capacity key entries = dropEarliest entries := if_pos ⟨full, stored⟩
      rw [dropped]
      cases expired_or_live now entries with
      | inl garbage =>
          obtain ⟨old, entry, held, expired⟩ := garbage
          have smaller := live_size_lt now entries old entry held expired
          have kept : makeRoom capacity key fresh = fresh := if_neg (fun excess => by omega)
          rw [kept, drop_earliest_expired now entries old entry held expired other]
          exact freshLive other
      | inr allLive =>
          rw [allLive] at same noTies sizes
          have droppedFresh : makeRoom capacity key fresh = dropEarliest fresh := if_pos ⟨by omega, absent⟩
          rw [droppedFresh]
          exact live_same now _ _ (drop_earliest_same entries fresh same noTies) other
    · have kept : makeRoom capacity key entries = entries := if_neg (fun excess => full excess.1)
      have keptFresh : makeRoom capacity key fresh = fresh := if_neg (fun excess => by omega)
      rw [kept, keptFresh]
      exact freshLive other

theorem insert_bounded_live (capacity : Nat) (now : τ) (key : κ) (entry : ν × τ) (entries fresh : Dict κ (ν × τ))
    (bounded : entries.size ≤ capacity) (noTies : NoTies (live now entries)) (same : Dict.Same (live now entries) fresh) :
    Dict.Same (live now (insertBounded capacity key entry entries)) (live now (insertBounded capacity key entry fresh)) := by
  intro other
  rw [get_live, get_live, insertBounded, insertBounded, Dict.get_set, Dict.get_set]
  by_cases written : other = key
  · rw [if_pos written, if_pos written]
  · rw [if_neg written, if_neg written, ← get_live, ← get_live]
    exact make_room_live capacity now key entries fresh bounded noTies same other

theorem insert_bounded_loses (capacity : Nat) (now : τ) (key other : κ) (entry stored : ν × τ) (entries : Dict κ (ν × τ))
    (held : entries.get other = some stored) (alive : now < stored.2)
    (lost : (insertBounded capacity key entry entries).get other ≠ some stored) :
    other = key ∨ (key ∉ entries.keys ∧ capacity ≤ entries.size ∧ live now entries = entries ∧
      earliest entries = some other) := by
  by_cases written : other = key
  · exact .inl written
  · refine .inr ?_
    rw [insertBounded, Dict.get_set, if_neg written] at lost
    by_cases full : capacity ≤ entries.size ∧ key ∉ entries.keys
    · have dropped : makeRoom capacity key entries = dropEarliest entries := if_pos full
      rw [dropped, drop_earliest_get] at lost
      have least : earliest entries = some other := by
        by_contra different
        rw [if_neg different] at lost
        exact lost held
      refine ⟨full.2, full.1, all_live now entries ?_, least⟩
      intro name fresh found
      obtain ⟨first, firstHeld, below⟩ := earliest_least entries other least
      have same : first = stored := Option.some.inj (firstHeld.symm.trans held)
      exact lt_of_lt_of_le (same ▸ alive) (below name fresh found)
    · have kept : makeRoom capacity key entries = entries := if_neg full
      rw [kept] at lost
      exact absurd held lost

end Chassis.Expiry
