import Chassis.RateLimitSurvivors

set_option autoImplicit false

namespace Chassis.RateLimit

open Text Transition

def allowedFor (inputs : List StoreHit) (decisions : List RateLimitDecision) (key : Str) (window : Int) : Nat :=
  ((inputs.zip decisions).filter (fun served =>
    (served.1.key, served.1.bucket) = (key, window) ∧ served.2.allowed = true)).length

def Uninterrupted (history : History) (key : Str) (window : Int) : Prop :=
  ∀ before later after, history = before ++ later :: after → window < later.2 → (key, window) ∈ before →
    (key, window) ∉ after

def steadyHits (limit windowSeconds : Int) (hits : List (WallClock × Str)) : List StoreHit :=
  hits.map (fun hit => ⟨hit.1, hit.2, limit, windowSeconds⟩)

theorem steady_buckets (limit windowSeconds : Int) (hits : List (WallClock × Str)) :
    bucketsOf (steadyHits limit windowSeconds hits) = historyOf windowSeconds hits := by
  rw [bucketsOf, steadyHits, historyOf, List.map_map]
  rfl

section Allowances

variable (limit : Int) (key : Str) (window : Int)

def allowances : Nat → History → Nat
  | _, [] => 0
  | count, entry :: rest =>
      let next := survive key window count entry
      (if entry = (key, window) ∧ (next : Int) ≤ limit then 1 else 0) + allowances next rest

theorem seen_cons (entry : Str × Int) (rest : History) :
    seen (entry :: rest) key window = (if entry = (key, window) then 1 else 0) + seen rest key window := by
  by_cases own : entry = (key, window)
  · simp [seen, own, Nat.add_comm]
  · simp [seen, own]

theorem survive_own (count : Nat) : survive key window count (key, window) = count + 1 := by
  rw [survive, if_neg (lt_irrefl window), if_pos rfl]

theorem survive_other (count : Nat) (entry : Str × Int) (other : ¬ entry = (key, window)) :
    survive key window count entry = if window < entry.2 then 0 else count := by
  rw [survive, if_neg other]

theorem allowances_own (count : Nat) (rest : History) :
    allowances limit key window count ((key, window) :: rest) =
      (if ((count + 1 : Nat) : Int) ≤ limit then 1 else 0) + allowances limit key window (count + 1) rest := by
  simp [allowances, survive_own]

theorem allowances_other (count : Nat) (entry : Str × Int) (rest : History) (other : ¬ entry = (key, window)) :
    allowances limit key window count (entry :: rest) =
      allowances limit key window (if window < entry.2 then 0 else count) rest := by
  simp [allowances, survive_other key window count entry other, other]

theorem allowances_append (count : Nat) (before after : History) :
    allowances limit key window count (before ++ after) =
      allowances limit key window count before +
        allowances limit key window (before.foldl (survive key window) count) after := by
  induction before generalizing count with
  | nil => simp [allowances]
  | cons entry rest ih =>
      rw [List.cons_append, allowances, allowances, ih, List.foldl_cons]
      simp only [Nat.add_assoc]

theorem allowances_at_most (count : Nat) (history : History) :
    allowances limit key window count history ≤ seen history key window := by
  induction history generalizing count with
  | nil => simp [allowances]
  | cons entry rest ih =>
      rw [seen_cons]
      by_cases own : entry = (key, window)
      · have later := ih (count + 1)
        rw [own, allowances_own, if_pos rfl]
        split <;> omega
      · rw [allowances_other limit key window count entry rest own, if_neg own, Nat.zero_add]
        exact ih _

theorem allowances_at_least (count : Nat) (history : History) :
    min (seen history key window) (limit.toNat - count) ≤ allowances limit key window count history := by
  induction history generalizing count with
  | nil => simp [seen]
  | cons entry rest ih =>
      rw [seen_cons]
      by_cases own : entry = (key, window)
      · have later := ih (count + 1)
        rw [own, allowances_own, if_pos rfl]
        split <;> omega
      · have later := ih (if window < entry.2 then 0 else count)
        rw [allowances_other limit key window count entry rest own, if_neg own]
        split at later <;> rename_i passed <;> simp only [passed, if_true, if_false] <;> omega

theorem allowances_settled (count : Nat) (history : History)
    (settled : ∀ before later after, history = before ++ later :: after → window < later.2 → (key, window) ∉ after) :
    allowances limit key window count history ≤ limit.toNat - count := by
  induction history generalizing count with
  | nil => simp [allowances]
  | cons entry rest ih =>
      have onward : ∀ before later after, rest = before ++ later :: after → window < later.2 → (key, window) ∉ after :=
        fun before later after split => settled (entry :: before) later after (by rw [split]; rfl)
      by_cases own : entry = (key, window)
      · have later := ih (count + 1) onward
        rw [own, allowances_own]
        split <;> omega
      · rw [allowances_other limit key window count entry rest own]
        by_cases passed : window < entry.2
        · have gone := settled [] entry rest rfl passed
          have none : seen rest key window = 0 := List.count_eq_zero.mpr gone
          have few := allowances_at_most limit key window (if window < entry.2 then 0 else count) rest
          omega
        · rw [if_neg passed]
          exact ih count onward

theorem allowances_uninterrupted (history : History) (uninterrupted : Uninterrupted history key window) :
    allowances limit key window 0 history ≤ limit.toNat := by
  induction history with
  | nil => simp [allowances]
  | cons entry rest ih =>
      by_cases own : entry = (key, window)
      · have settled := allowances_settled limit key window (0 + 1) rest (fun before later after split passed =>
          uninterrupted (entry :: before) later after (by rw [split]; rfl) passed (by simp [own]))
        rw [own, allowances_own]
        split <;> omega
      · rw [allowances_other limit key window 0 entry rest own, ite_self]
        apply ih
        intro before later after split passed member
        exact uninterrupted (entry :: before) later after (by rw [split]; rfl) passed (by simp [member])

theorem allowances_interrupted (before after : History) (later : Str × Int) (passed : window < later.2)
    (first : (key, window) ∈ before) (again : (key, window) ∈ after) (positive : 1 ≤ limit)
    (many : limit < seen (before ++ later :: after) key window) :
    limit < allowances limit key window 0 (before ++ later :: after) := by
  have other : ¬ later = (key, window) := by
    rintro rfl
    exact lt_irrefl window passed
  have early := allowances_at_least limit key window 0 before
  have late := allowances_at_least limit key window 0 after
  have hitBefore : 0 < seen before key window := (seen_positive before key window).mpr first
  have hitAfter : 0 < seen after key window := (seen_positive after key window).mpr again
  have total : seen (before ++ later :: after) key window = seen before key window + seen after key window := by
    simp [seen, other]
  rw [allowances_append, allowances_other limit key window _ later after other, if_pos passed]
  omega

theorem allowances_limit_iff (history : History) (positive : 1 ≤ limit) :
    (allowances limit key window 0 history : Int) ≤ limit ↔
      (seen history key window : Int) ≤ limit ∨ Uninterrupted history key window := by
  constructor
  · intro kept
    by_contra broken
    obtain ⟨many, interrupted⟩ := not_or.mp broken
    simp only [Uninterrupted, not_forall, not_not] at interrupted
    obtain ⟨before, later, after, split, passed, first, again⟩ := interrupted
    have excess := allowances_interrupted limit key window before after later passed first again positive
      (by rw [← split]; omega)
    rw [← split] at excess
    omega
  · rintro (few | uninterrupted)
    · have below := allowances_at_most limit key window 0 history
      omega
    · have below := allowances_uninterrupted limit key window history uninterrupted
      omega

end Allowances

theorem allowed_for_cons (input : StoreHit) (rest : List StoreHit) (decision : RateLimitDecision)
    (decisions : List RateLimitDecision) (key : Str) (window : Int) :
    allowedFor (input :: rest) (decision :: decisions) key window =
      (if (input.key, input.bucket) = (key, window) ∧ decision.allowed = true then 1 else 0) +
        allowedFor rest decisions key window := by
  rw [allowedFor, List.zip_cons_cons, List.filter_cons]
  by_cases counted : (input.key, input.bucket) = (key, window) ∧ decision.allowed = true
  · rw [if_pos (by simpa using counted), if_pos counted, List.length_cons, Nat.add_comm]
    rfl
  · rw [if_neg (by simpa using counted), if_neg counted, Nat.zero_add]
    rfl

theorem allowed_for_run (limit : Int) (key : Str) (window : Int) (past inputs : List StoreHit)
    (steady : ∀ input ∈ inputs, input.limit = limit) :
    allowedFor inputs (run survivorStep past inputs).2 key window =
      allowances limit key window (surviving (bucketsOf past) key window) (bucketsOf inputs) := by
  induction inputs generalizing past with
  | nil => rfl
  | cons input rest ih =>
      have onward := ih (past ++ [input]) (fun other member => steady other (by simp [member]))
      have remembered : (survivorStep past input).1 = past ++ [input] := rfl
      have next : surviving (bucketsOf (past ++ [input])) key window =
          survive key window (surviving (bucketsOf past) key window) (input.key, input.bucket) := by
        rw [buckets_snoc, surviving_snoc]
      have verdict : (survivorStep past input).2.allowed =
          decide ((surviving (bucketsOf (past ++ [input])) input.key input.bucket : Int) ≤ limit) := by
        rw [← steady input (by simp)]
        rfl
      have expanded : bucketsOf (input :: rest) = (input.key, input.bucket) :: bucketsOf rest := rfl
      rw [run_cons, remembered, allowed_for_cons, expanded, allowances, ← next, ← onward]
      by_cases own : (input.key, input.bucket) = (key, window)
      · cases own
        simp only [verdict, decide_eq_true_eq]
      · rw [if_neg (fun both => own both.1), if_neg (fun both => own both.1)]

theorem memory_limit_iff (limit windowSeconds : Int) (positive : 1 ≤ limit) (hits : List (WallClock × Str)) :
    (∀ key window,
        (allowedFor (steadyHits limit windowSeconds hits)
          (run storeStep emptyStore (steadyHits limit windowSeconds hits)).2 key window : Int) ≤ limit) ↔
      ∀ key window, (seen (historyOf windowSeconds hits) key window : Int) ≤ limit ∨
        Uninterrupted (historyOf windowSeconds hits) key window := by
  have counted (key : Str) (window : Int) :
      allowedFor (steadyHits limit windowSeconds hits)
          (run storeStep emptyStore (steadyHits limit windowSeconds hits)).2 key window =
        allowances limit key window 0 (historyOf windowSeconds hits) := by
    rw [run_survivors, allowed_for_run limit key window [] _ ?_, steady_buckets]
    · rfl
    · intro input member
      obtain ⟨hit, _, rfl⟩ := List.mem_map.mp member
      rfl
  simp only [counted, allowances_limit_iff limit _ _ _ positive]

def steppedBack : List (WallClock × Str) := [(58, ['a']), (61, ['a']), (58, ['a'])]

theorem memory_limit_iff_back :
    (∀ key window, (allowedFor (steadyHits 1 60 steppedBack)
        (run storeStep emptyStore (steadyHits 1 60 steppedBack)).2 key window : Int) ≤ 1) ↔
      ∀ key window, (seen (historyOf 60 steppedBack) key window : Int) ≤ 1 ∨
        Uninterrupted (historyOf 60 steppedBack) key window :=
  memory_limit_iff 1 60 (by decide) steppedBack

theorem window_allowed_again :
    ¬ ∀ (limit windowSeconds : Int) (hits : List (WallClock × Str)) (key : Str) (window : Int),
      1 ≤ limit → 1 ≤ windowSeconds →
      (allowedFor (steadyHits limit windowSeconds hits)
        (run storeStep emptyStore (steadyHits limit windowSeconds hits)).2 key window : Int) ≤ limit := by
  intro claim
  have twice : allowedFor (steadyHits 1 60 steppedBack)
      (run storeStep emptyStore (steadyHits 1 60 steppedBack)).2 ['a'] 0 = 2 := by decide +kernel
  have once := claim 1 60 steppedBack ['a'] 0 (by decide) (by decide)
  rw [twice] at once
  exact absurd once (by decide)

end Chassis.RateLimit
