import Chassis.RateLimitSurvivors

set_option autoImplicit false

namespace Chassis.RateLimit

open Text Transition

def callsFor (key : Str) (inputs : List StoreHit) : List StoreHit := inputs.filter (fun input => input.key = key)

def decisionsFor (key : Str) (inputs : List StoreHit) (decisions : List RateLimitDecision) : List RateLimitDecision :=
  ((inputs.zip decisions).filter (fun served => served.1.key = key)).map Prod.snd

-- One clock that never goes back, and one window length for each key.
structure Coherent (inputs : List StoreHit) : Prop where
  ordered : inputs.Pairwise (fun earlier later => earlier.time ≤ later.time)
  windows : ∀ first ∈ inputs, ∀ second ∈ inputs, first.key = second.key → first.windowSeconds = second.windowSeconds
  positive : ∀ input ∈ inputs, 0 < input.windowSeconds

-- No hit with a larger bucket number has come since the first one of the key
-- and window.
def Undisturbed (history : History) (key : Str) (window : Int) : Prop :=
  Always (fun before later => window < later.2 → (key, window) ∉ before) history

def KeepsCount (past : List StoreHit) (input : StoreHit) : Prop :=
  Undisturbed (bucketsOf past) input.key input.bucket ∨
    input.limit ≤ surviving (bucketsOf past) input.key input.bucket

theorem surviving_le_seen (history : History) (key : Str) (window : Int) :
    surviving history key window ≤ seen history key window := by
  induction history using List.reverseRecOn with
  | nil => exact Nat.le_refl _
  | append_singleton past entry ih =>
      obtain ⟨other, bucket⟩ := entry
      by_cases later : window < bucket
      · rw [surviving_pruned past key other window bucket later]
        exact Nat.zero_le _
      · by_cases own : (other, bucket) = (key, window)
        · cases own
          rw [surviving_own, seen_append, if_pos rfl]
          exact Nat.succ_le_succ ih
        · rw [surviving_kept past key other window bucket later own]
          exact Nat.le_trans ih (List.Sublist.count_le _ (List.sublist_append_left past _))

theorem undisturbed_iff (history : History) (key : Str) (window : Int) :
    surviving history key window = seen history key window ↔ Undisturbed history key window := by
  induction history using List.reverseRecOn with
  | nil => exact ⟨fun _ => always_nil _, fun _ => rfl⟩
  | append_singleton past entry ih =>
      obtain ⟨other, bucket⟩ := entry
      rw [Undisturbed, always_snoc_iff]
      change _ ↔ Undisturbed past key window ∧ _
      rw [← ih]
      by_cases own : (other, bucket) = (key, window)
      · cases own
        have same : seen (past ++ [(key, window)]) key window = seen past key window + 1 := by
          rw [seen_append, if_pos rfl]
        rw [surviving_own, same]
        simp
      · have same : seen (past ++ [(other, bucket)]) key window = seen past key window := by
          simp [seen, List.count_append, own]
        have below := surviving_le_seen past key window
        have present := seen_positive past key window
        rw [same]
        by_cases later : window < bucket
        · rw [surviving_pruned past key other window bucket later, ← present]
          simp only [later, true_implies]
          omega
        · rw [surviving_kept past key other window bucket later own]
          simp [later]

theorem surviving_settled (history : History) (key : Str) (window : Int) (settled : ∀ entry ∈ history, entry.2 ≤ window) :
    surviving history key window = seen history key window := by
  apply (undisturbed_iff history key window).mpr
  intro before later after split passed
  have bound := settled later (by simp [split])
  exact absurd passed (not_lt.mpr bound)

theorem seen_calls_for (key : Str) (past : List StoreHit) (window : Int) :
    seen (bucketsOf (callsFor key past)) key window = seen (bucketsOf past) key window := by
  induction past with
  | nil => rfl
  | cons input rest ih =>
      by_cases own : input.key = key
      · simp only [seen, bucketsOf, callsFor, List.filter_cons, own, decide_true, if_true, List.map_cons,
          List.count_cons] at ih ⊢
        rw [ih]
      · have other : ¬ ((input.key, input.bucket) == (key, window)) = true := by simp [own]
        simp only [seen, bucketsOf, callsFor, List.filter_cons, own, decide_false, List.map_cons, List.count_cons,
          other] at ih ⊢
        exact ih

theorem own_bucket_le (inputs : List StoreHit) (coherent : Coherent inputs) (earlier later : StoreHit)
    (first : earlier ∈ inputs) (second : later ∈ inputs) (sameKey : earlier.key = later.key)
    (ordered : earlier.time ≤ later.time) : earlier.bucket ≤ later.bucket := by
  have sameWindow := coherent.windows earlier first later second sameKey
  have positive := coherent.positive later second
  have monotone := hit_window_monotone later.windowSeconds positive (earlier.time, earlier.key) (later.time, later.key)
    ordered
  rw [StoreHit.bucket, sameWindow]
  exact monotone

theorem fresh_count (past rest : List StoreHit) (input : StoreHit) (coherent : Coherent (past ++ input :: rest)) :
    surviving (bucketsOf (callsFor input.key past ++ [input])) input.key input.bucket =
      seen (bucketsOf past) input.key input.bucket + 1 := by
  rw [buckets_snoc, surviving_own, surviving_settled, seen_calls_for]
  intro entry member
  obtain ⟨earlier, found, rfl⟩ := List.mem_map.mp member
  obtain ⟨before, own⟩ := List.mem_filter.mp found
  have ordered : earlier.time ≤ input.time :=
    (List.pairwise_append.mp coherent.ordered).2.2 earlier before input (by simp)
  exact own_bucket_le _ coherent earlier input (by simp [before]) (by simp) (by simpa using own) ordered

theorem same_decision_iff (kept all : Nat) (limit reset : Int) (fewer : kept ≤ all) :
    countDecision (kept + 1 : Nat) limit reset = countDecision (all + 1 : Nat) limit reset ↔
      kept = all ∨ limit ≤ kept := by
  constructor
  · intro same
    have verdict := congrArg RateLimitDecision.allowed same
    have remaining := congrArg RateLimitDecision.remaining same
    simp only [countDecision, decide_eq_decide] at verdict remaining
    omega
  · rintro (rfl | excess)
    · rfl
    · have refused : ¬ ((kept + 1 : Nat) : Int) ≤ limit := by omega
      have also : ¬ ((all + 1 : Nat) : Int) ≤ limit := by omega
      have nothing : max (limit - ((kept + 1 : Nat) : Int)) 0 = max (limit - ((all + 1 : Nat) : Int)) 0 := by omega
      rw [countDecision, countDecision, decide_eq_false refused, decide_eq_false also, nothing]

theorem own_decision_iff (past rest : List StoreHit) (input : StoreHit) (coherent : Coherent (past ++ input :: rest)) :
    (survivorStep past input).2 = (survivorStep (callsFor input.key past) input).2 ↔ KeepsCount past input := by
  have below := surviving_le_seen (bucketsOf past) input.key input.bucket
  have same := same_decision_iff _ _ input.limit ((input.bucket + 1) * input.windowSeconds) below
  simp only [survivorStep, fresh_count past rest input coherent]
  rw [buckets_snoc, surviving_own, same, undisturbed_iff, KeepsCount]

theorem independent_from (key : Str) (past inputs : List StoreHit) (coherent : Coherent (past ++ inputs)) :
    decisionsFor key inputs (run survivorStep past inputs).2 =
        (run survivorStep (callsFor key past) (callsFor key inputs)).2 ↔
      Always (fun before input => input.key = key → KeepsCount (past ++ before) input) inputs := by
  induction inputs generalizing past with
  | nil => exact ⟨fun _ => always_nil _, fun _ => rfl⟩
  | cons input rest ih =>
      have grown : past ++ input :: rest = past ++ [input] ++ rest := by simp
      have onward := ih (past ++ [input]) (grown ▸ coherent)
      have shifted (before : List StoreHit) : past ++ [input] ++ before = past ++ input :: before := by simp
      have remembered (spec : List StoreHit) : (survivorStep spec input).1 = spec ++ [input] := rfl
      simp only [shifted] at onward
      rw [always_cons_iff, ← onward, List.append_nil, run_cons, remembered]
      by_cases own : input.key = key
      · have mine : callsFor key (input :: rest) = input :: callsFor key rest := by simp [callsFor, own]
        have joined : callsFor key (past ++ [input]) = callsFor key past ++ [input] := by simp [callsFor, own]
        have split (decision : RateLimitDecision) (decisions : List RateLimitDecision) :
            decisionsFor key (input :: rest) (decision :: decisions) = decision :: decisionsFor key rest decisions := by
          simp [decisionsFor, own]
        subst own
        rw [mine, joined, split, run_cons, remembered, List.cons.injEq, own_decision_iff past rest input coherent]
        simp
      · have others : callsFor key (input :: rest) = callsFor key rest := by simp [callsFor, own]
        have joined : callsFor key (past ++ [input]) = callsFor key past := by simp [callsFor, own]
        have split (decision : RateLimitDecision) (decisions : List RateLimitDecision) :
            decisionsFor key (input :: rest) (decision :: decisions) = decisionsFor key rest decisions := by
          simp [decisionsFor, own]
        rw [others, joined, split]
        simp [own]

theorem keys_independent_iff (inputs : List StoreHit) (coherent : Coherent inputs) (key : Str) :
    decisionsFor key inputs (run storeStep emptyStore inputs).2 = (run storeStep emptyStore (callsFor key inputs)).2 ↔
      Always (fun before input => input.key = key → KeepsCount before input) inputs := by
  have independent := independent_from key [] inputs coherent
  simp only [List.nil_append] at independent
  rw [run_survivors, run_survivors]
  exact independent

def mixedWindows : List StoreHit := [⟨62, ['a'], 1, 60⟩, ⟨62, ['b'], 1, 1⟩, ⟨62, ['a'], 1, 60⟩]

theorem mixed_coherent : Coherent mixedWindows := by
  refine ⟨?_, ?_, ?_⟩
  · simp [mixedWindows]
  · simp [mixedWindows]
  · simp [mixedWindows]

theorem keys_independent_iff_mixed :
    decisionsFor ['a'] mixedWindows (run storeStep emptyStore mixedWindows).2 =
        (run storeStep emptyStore (callsFor ['a'] mixedWindows)).2 ↔
      Always (fun before input => input.key = ['a'] → KeepsCount before input) mixedWindows :=
  keys_independent_iff mixedWindows mixed_coherent ['a']

theorem short_window_prunes_long :
    ¬ ∀ (inputs : List StoreHit) (key : Str), Coherent inputs → (∀ input ∈ inputs, 1 ≤ input.limit) →
      decisionsFor key inputs (run storeStep emptyStore inputs).2 =
        (run storeStep emptyStore (callsFor key inputs)).2 := by
  intro claim
  have alone := claim mixedWindows ['a'] mixed_coherent (by simp [mixedWindows])
  have different : decisionsFor ['a'] mixedWindows (run storeStep emptyStore mixedWindows).2 ≠
      (run storeStep emptyStore (callsFor ['a'] mixedWindows)).2 := by decide +kernel
  exact different alone

end Chassis.RateLimit
