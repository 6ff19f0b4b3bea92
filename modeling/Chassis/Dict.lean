import Mathlib.Data.List.Nodup
import Mathlib.Data.List.Lookmap
import Mathlib.Data.List.Induction

set_option autoImplicit false

namespace Chassis

theorem bind_ok {ε α β : Type} (first : Except ε α) (next : α → Except ε β) (result : β)
    (done : first >>= next = .ok result) : ∃ value, first = .ok value ∧ next value = .ok result := by
  cases first with
  | error message => cases done
  | ok value => exact ⟨value, rfl, done⟩

theorem map_error_ok {ε δ α : Type} (f : ε → δ) (result : Except ε α) (value : α) :
    result.mapError f = .ok value ↔ result = .ok value := by
  cases result <;> simp [Except.mapError]

theorem map_m_congr {m : Type → Type} [Monad m] [LawfulMonad m] {α β : Type} (f g : α → m β) (items : List α)
    (same : ∀ item ∈ items, f item = g item) : items.mapM f = items.mapM g := by
  induction items with
  | nil => rfl
  | cons item rest ih =>
      obtain ⟨here, later⟩ := List.forall_mem_cons.mp same
      rw [List.mapM_cons, List.mapM_cons, here, ih later]

theorem map_m_all {ε α β : Type} (f : α → Except ε β) (good : β → Prop) (values : List α) :
    (∃ results, values.mapM f = .ok results ∧ ∀ result ∈ results, good result) ↔
      ∀ value ∈ values, ∃ result, f value = .ok result ∧ good result := by
  induction values with
  | nil => exact ⟨fun _ value member => absurd member List.not_mem_nil, fun _ => ⟨[], rfl, by simp⟩⟩
  | cons value rest ih =>
      rw [List.forall_mem_cons, ← ih, List.mapM_cons]
      cases first : f value with
      | error raised => simp [bind, Except.bind]
      | ok result =>
          cases later : rest.mapM f with
          | error raised => simp [bind, Except.bind]
          | ok results => simp [bind, Except.bind, pure, Except.pure]

variable {κ ν : Type}

-- An insertion-ordered dictionary. The order is part of the value: an
-- iteration sees the items in it, and overwriting a key keeps its place.
structure Dict (κ ν : Type) where
  items : List (κ × ν)
  distinct : (items.map Prod.fst).Nodup

namespace Dict

def empty : Dict κ ν := ⟨[], List.nodup_nil⟩

def keys (dict : Dict κ ν) : List κ := dict.items.map Prod.fst

def size (dict : Dict κ ν) : Nat := dict.items.length

def filter (keep : κ → ν → Bool) (dict : Dict κ ν) : Dict κ ν :=
  ⟨dict.items.filter (fun item => keep item.1 item.2),
    dict.distinct.sublist ((List.filter_sublist).map Prod.fst)⟩

theorem filter_size (keep : κ → ν → Bool) (dict : Dict κ ν) : (dict.filter keep).size ≤ dict.size :=
  List.length_filter_le _ _

theorem append_distinct (items : List (κ × ν)) (key : κ) (value : ν)
    (distinct : (items.map Prod.fst).Nodup) (absent : key ∉ items.map Prod.fst) :
    ((items ++ [(key, value)]).map Prod.fst).Nodup := by
  rw [List.map_append, List.nodup_append]
  refine ⟨distinct, by simp, ?_⟩
  intro left leftMember right rightMember
  have same : right = key := by simpa using rightMember
  rw [same]
  exact fun eq => absent (eq ▸ leftMember)

variable [DecidableEq κ]

def get (dict : Dict κ ν) (key : κ) : Option ν := dict.items.lookup key

def overwrite (key : κ) (value : ν) (items : List (κ × ν)) : List (κ × ν) :=
  items.map (fun item => if item.1 = key then (key, value) else item)

theorem overwrite_keys (key : κ) (value : ν) (items : List (κ × ν)) :
    (overwrite key value items).map Prod.fst = items.map Prod.fst := by
  induction items with
  | nil => rfl
  | cons item tail ih =>
      by_cases same : item.1 = key <;> simp [overwrite, same] <;> simpa [overwrite] using ih

def set (dict : Dict κ ν) (key : κ) (value : ν) : Dict κ ν :=
  if present : key ∈ dict.items.map Prod.fst then
    ⟨overwrite key value dict.items, by rw [overwrite_keys]; exact dict.distinct⟩
  else
    ⟨dict.items ++ [(key, value)], append_distinct dict.items key value dict.distinct present⟩

def pop (dict : Dict κ ν) (key : κ) : Dict κ ν := dict.filter (fun other _ => other ≠ key)

def popAll (dict : Dict κ ν) (doomed : List κ) : Dict κ ν := doomed.foldl pop dict

theorem lookup_eq_some (items : List (κ × ν)) (distinct : (items.map Prod.fst).Nodup) (key : κ) (value : ν) :
    items.lookup key = some value ↔ (key, value) ∈ items := by
  induction items with
  | nil => simp
  | cons item tail ih =>
      obtain ⟨other, stored⟩ := item
      rw [List.map_cons, List.nodup_cons] at distinct
      by_cases same : key = other
      · subst key
        have absent : (other, value) ∉ tail := fun member =>
          distinct.1 (List.mem_map.mpr ⟨(other, value), member, rfl⟩)
        simp [absent, eq_comm]
      · have different : (key == other) = false := by simpa using same
        simp [List.lookup_cons, different, same, ih distinct.2]

theorem get_eq_some (dict : Dict κ ν) (key : κ) (value : ν) :
    dict.get key = some value ↔ (key, value) ∈ dict.items :=
  lookup_eq_some dict.items dict.distinct key value

theorem get_eq_none (dict : Dict κ ν) (key : κ) : dict.get key = none ↔ key ∉ dict.keys := by
  rw [Option.eq_none_iff_forall_ne_some]
  simp [get_eq_some, keys]

theorem mem_keys (dict : Dict κ ν) (key : κ) : key ∈ dict.keys ↔ ∃ value, dict.get key = some value := by
  simp [get_eq_some, keys]

theorem overwrite_mem (key other : κ) (value stored : ν) (items : List (κ × ν)) (present : key ∈ items.map Prod.fst) :
    (other, stored) ∈ overwrite key value items ↔
      (other = key ∧ stored = value) ∨ (other ≠ key ∧ (other, stored) ∈ items) := by
  obtain ⟨⟨held, old⟩, member, rfl⟩ := List.mem_map.mp present
  simp only [overwrite, List.mem_map, Prod.exists]
  constructor
  · rintro ⟨k, v, kept, eq⟩
    by_cases same : k = held
    · rw [if_pos same] at eq
      exact .inl ⟨(congrArg Prod.fst eq).symm, (congrArg Prod.snd eq).symm⟩
    · rw [if_neg same] at eq
      cases eq
      exact .inr ⟨same, kept⟩
  · rintro (⟨rfl, rfl⟩ | ⟨different, kept⟩)
    · exact ⟨other, old, member, by simp⟩
    · exact ⟨other, stored, kept, by simp [different]⟩

theorem set_mem (dict : Dict κ ν) (key other : κ) (value stored : ν) :
    (other, stored) ∈ (dict.set key value).items ↔
      (other = key ∧ stored = value) ∨ (other ≠ key ∧ (other, stored) ∈ dict.items) := by
  unfold set
  split
  next present => exact overwrite_mem key other value stored dict.items present
  next absent =>
      have kept (member : (other, stored) ∈ dict.items) : other ≠ key := by
        rintro rfl
        exact absent (List.mem_map.mpr ⟨(other, stored), member, rfl⟩)
      simp only [List.mem_append, List.mem_singleton, Prod.mk.injEq]
      tauto

theorem get_set (dict : Dict κ ν) (key other : κ) (value : ν) :
    (dict.set key value).get other = if other = key then some value else dict.get other := by
  apply Option.ext
  intro stored
  rw [get_eq_some, set_mem]
  by_cases same : other = key
  · simp [same, eq_comm]
  · simp [same, get_eq_some]

theorem get_filter (keep : κ → ν → Bool) (dict : Dict κ ν) (key : κ) :
    (dict.filter keep).get key = (dict.get key).filter (keep key) := by
  apply Option.ext
  intro stored
  rw [get_eq_some, Option.filter_eq_some_iff, get_eq_some]
  simp [filter]

theorem get_pop (dict : Dict κ ν) (key other : κ) :
    (dict.pop key).get other = if other = key then none else dict.get other := by
  rw [pop, get_filter]
  by_cases same : other = key <;> cases dict.get other <;> simp [same]

theorem pop_all_items (dict : Dict κ ν) (doomed : List κ) :
    (dict.popAll doomed).items = dict.items.filter (fun item => item.1 ∉ doomed) := by
  unfold popAll
  induction doomed generalizing dict with
  | nil => simp
  | cons key tail ih =>
      rw [List.foldl_cons, ih]
      simp only [pop, filter, List.filter_filter]
      congr 1
      funext item
      simp [Bool.and_comm]

omit [DecidableEq κ] in
theorem ext_items (left right : Dict κ ν) (same : left.items = right.items) : left = right := by
  cases left
  cases right
  cases same
  rfl

theorem pop_all_matching (dict : Dict κ ν) (doomed : κ → ν → Bool) :
    dict.popAll ((dict.items.filter (fun item => doomed item.1 item.2)).map Prod.fst) =
      dict.filter (fun key value => !doomed key value) := by
  apply ext_items
  rw [pop_all_items, filter]
  apply List.filter_congr
  intro item member
  have keyed : item.1 ∈ (dict.items.filter (fun item => doomed item.1 item.2)).map Prod.fst ↔
      doomed item.1 item.2 = true := by
    constructor
    · intro listed
      obtain ⟨other, found, same⟩ := List.mem_map.mp listed
      obtain ⟨inside, matched⟩ := List.mem_filter.mp found
      have equal : other = item := List.inj_on_of_nodup_map dict.distinct inside member same
      exact equal ▸ matched
    · intro matched
      exact List.mem_map_of_mem (List.mem_filter.mpr ⟨member, matched⟩)
  cases flag : doomed item.1 item.2 <;> simp [keyed, flag]

def Same (left right : Dict κ ν) : Prop := ∀ key, left.get key = right.get key

theorem same_items (left right : Dict κ ν) (same : Same left right) : left.items.Perm right.items := by
  apply (List.perm_ext_iff_of_nodup left.distinct.of_map right.distinct.of_map).mpr
  intro item
  rw [← get_eq_some left item.1 item.2, ← get_eq_some right item.1 item.2, same item.1]

theorem same_size (left right : Dict κ ν) (same : Same left right) : left.size = right.size :=
  (same_items left right same).length_eq

theorem set_size (dict : Dict κ ν) (key : κ) (value : ν) :
    (dict.set key value).size = if key ∈ dict.keys then dict.size else dict.size + 1 := by
  unfold set size keys
  split
  next present => simp [overwrite]
  next absent => simp

theorem pop_size (dict : Dict κ ν) (key : κ) (present : key ∈ dict.keys) : (dict.pop key).size + 1 = dict.size := by
  obtain ⟨value, held⟩ := (mem_keys dict key).mp present
  obtain ⟨before, after, split⟩ := List.append_of_mem ((get_eq_some dict key value).mp held)
  have distinct := dict.distinct
  rw [split, List.map_append, List.map_cons, List.nodup_middle, List.nodup_cons] at distinct
  have kept : ∀ item ∈ before ++ after, decide (item.1 ≠ key) = true := by
    intro item member
    apply decide_eq_true
    intro same
    apply distinct.1
    rw [← List.map_append]
    exact List.mem_map.mpr ⟨item, member, same⟩
  have survivors : (dict.pop key).items = before ++ after := by
    calc
      (dict.pop key).items = (before ++ (key, value) :: after).filter (fun item => decide (item.1 ≠ key)) := by
        rw [← split]
        rfl
      _ = (before ++ after).filter (fun item => decide (item.1 ≠ key)) := by simp [List.filter_append]
      _ = before ++ after := List.filter_eq_self.mpr kept
  rw [size, size, survivors, split, List.length_append, List.length_append, List.length_cons]
  rfl

-- A dictionary filled item by item, as a loop of assignments or a dict
-- comprehension does it.
def ofPairs (pairs : List (κ × ν)) : Dict κ ν := pairs.foldl (fun dict pair => dict.set pair.1 pair.2) empty

theorem of_pairs_snoc (pairs : List (κ × ν)) (pair : κ × ν) :
    ofPairs (pairs ++ [pair]) = (ofPairs pairs).set pair.1 pair.2 := by
  rw [ofPairs, List.foldl_append]
  rfl

theorem of_pairs_last (pairs : List (κ × ν)) (key : κ) (value : ν) :
    (ofPairs pairs).get key = some value ↔
      ∃ before after, pairs = before ++ (key, value) :: after ∧ key ∉ after.map Prod.fst := by
  induction pairs using List.reverseRecOn with
  | nil => simp [ofPairs, empty, get]
  | append_singleton front pair ih =>
      rw [of_pairs_snoc, get_set]
      by_cases same : key = pair.1
      · rw [if_pos same]
        constructor
        · intro last
          exact ⟨front, [], by rw [same, ← Option.some.inj last], List.not_mem_nil⟩
        · rintro ⟨before, after, split, absent⟩
          cases after using List.reverseRecOn with
          | nil =>
              have equal : pair = (key, value) := (List.append_inj' split rfl).2 |> List.singleton_inj.mp
              rw [equal]
          | append_singleton middle last =>
              have whole : front ++ [pair] = (before ++ (key, value) :: middle) ++ [last] := by simp [split]
              have equal : pair = last := List.singleton_inj.mp (List.append_inj' whole rfl).2
              exact absurd (by simp [same, equal]) absent
      · rw [if_neg same, ih]
        constructor
        · rintro ⟨before, after, split, absent⟩
          exact ⟨before, after ++ [pair], by simp [split], by simpa [same] using absent⟩
        · rintro ⟨before, after, split, absent⟩
          cases after using List.reverseRecOn with
          | nil =>
              have equal : pair = (key, value) := List.singleton_inj.mp (List.append_inj' split rfl).2
              exact absurd (congrArg Prod.fst equal).symm same
          | append_singleton middle last =>
              have whole : front ++ [pair] = (before ++ (key, value) :: middle) ++ [last] := by simp [split]
              have shorter := (List.append_inj' whole rfl).1
              exact ⟨before, middle, shorter, fun member => absent (by simp [List.map_append, member])⟩

theorem of_pairs_keys (pairs : List (κ × ν)) (key : κ) : key ∈ (ofPairs pairs).keys ↔ key ∈ pairs.map Prod.fst := by
  induction pairs using List.reverseRecOn with
  | nil => simp [ofPairs, empty, keys]
  | append_singleton before pair ih =>
      rw [of_pairs_snoc, mem_keys, List.map_append, List.mem_append, ← ih, mem_keys]
      by_cases same : key = pair.1 <;> simp [get_set, same]

theorem set_absent (dict : Dict κ ν) (key : κ) (value : ν) (absent : key ∉ dict.keys) :
    (dict.set key value).items = dict.items ++ [(key, value)] := by
  unfold set
  split
  next present => exact absurd present absent
  next => rfl

theorem of_pairs_items (pairs : List (κ × ν)) (distinct : (pairs.map Prod.fst).Nodup) :
    (ofPairs pairs).items = pairs := by
  induction pairs using List.reverseRecOn with
  | nil => rfl
  | append_singleton before pair ih =>
      rw [List.map_append, List.map_singleton, List.nodup_append] at distinct
      have absent : pair.1 ∉ (ofPairs before).keys := by
        rw [of_pairs_keys]
        exact fun member => distinct.2.2 pair.1 member pair.1 (by simp) rfl
      rw [of_pairs_snoc, set_absent _ _ _ absent, ih distinct.1]

theorem of_pairs_size (pairs : List (κ × ν)) : (ofPairs pairs).size ≤ pairs.length := by
  induction pairs using List.reverseRecOn with
  | nil => exact Nat.le_refl _
  | append_singleton before pair ih =>
      rw [of_pairs_snoc, set_size, List.length_append, List.length_singleton]
      split <;> omega

theorem of_pairs_full (pairs : List (κ × ν)) (full : (ofPairs pairs).size = pairs.length) :
    (pairs.map Prod.fst).Nodup := by
  induction pairs using List.reverseRecOn with
  | nil => exact List.nodup_nil
  | append_singleton before pair ih =>
      have most := of_pairs_size before
      rw [of_pairs_snoc, set_size, List.length_append, List.length_singleton] at full
      by_cases present : pair.1 ∈ (ofPairs before).keys
      · rw [if_pos present] at full
        omega
      · rw [if_neg present] at full
        rw [List.map_append, List.map_singleton, ← List.concat_eq_append]
        exact (ih (by omega)).concat (fun member => present ((of_pairs_keys before pair.1).mpr member))

end Dict

end Chassis
