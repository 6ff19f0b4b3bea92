import Chassis.RateLimitKey
import Chassis.RateLimitStore
import Chassis.Transition
import Mathlib.Data.NNRat.Floor

set_option autoImplicit false

namespace Chassis.RateLimit

open Asgi Text Transition

-- time.time(): seconds since the Epoch, which int() rounds down.
abbrev WallClock := ℚ≥0

def epochSeconds (time : WallClock) : Int := (⌊time⌋₊ : Int)

-- One call of the middleware with the clock readings that it makes.
structure Request where
  scope : Scope
  hitTime : WallClock
  bodyTime : WallClock
  headerTime : WallClock

def decisionHeaders (decision : RateLimitDecision) (time : WallClock) : List (Str × Str) :=
  [("X-RateLimit-Limit".toList, intText decision.limit),
    ("X-RateLimit-Remaining".toList, intText decision.remaining),
    ("X-RateLimit-Reset".toList, intText decision.resetAtEpoch),
    ("Retry-After".toList, intText (max (decision.resetAtEpoch - epochSeconds time) 0))]

def rateLimitedResponse (decision : RateLimitDecision) (bodyTime headerTime : WallClock) : JsonResponse :=
  { statusCode := 429
    content := .object
      [("error".toList, Json.text "rate_limited"), ("detail".toList, Json.text "Request rate limit exceeded"),
        ("retry_after_seconds".toList, .int (max (decision.resetAtEpoch - epochSeconds bodyTime) 0))]
    headers := decisionHeaders decision headerTime }

-- What becomes of a request: the app runs on the bare connection, the app runs
-- behind send_wrapper, or the middleware answers itself.
inductive Handling where
  | passed
  | forwarded (decision : RateLimitDecision)
  | limited (decision : RateLimitDecision) (response : JsonResponse)

def isCounted (middleware : RateLimitMiddleware) (request : Request) : Bool :=
  request.scope.type = .http && request.scope.path.getD [] ∉ middleware.exemptPaths

def answer (decision : RateLimitDecision) (request : Request) : Handling :=
  if decision.allowed = false then
    .limited decision (rateLimitedResponse decision request.bodyTime request.headerTime)
  else .forwarded decision

def call (sha256 : Bytes → Bytes) (middleware : RateLimitMiddleware) (store : MemoryRateLimitStore)
    (request : Request) : MemoryRateLimitStore × Handling :=
  if request.scope.type ≠ .http then (store, .passed)
  else if request.scope.path.getD [] ∈ middleware.exemptPaths then (store, .passed)
  else
    let key := buildRateLimitKey sha256 middleware request.scope
    let (next, decision) := hit store (epochSeconds request.hitTime) key middleware.limit middleware.windowSeconds
    (next, answer decision request)

def serve (sha256 : Bytes → Bytes) (middleware : RateLimitMiddleware) (requests : List Request) :
    MemoryRateLimitStore × List Handling :=
  run (call sha256 middleware) emptyStore requests

section Limiter

variable (sha256 : Bytes → Bytes) (middleware : RateLimitMiddleware)

def requestKey (request : Request) : Str := buildRateLimitKey sha256 middleware request.scope

def requestWindow (request : Request) : Int := (epochSeconds request.hitTime).fdiv middleware.windowSeconds

def hits (requests : List Request) : History :=
  (requests.filter (isCounted middleware)).map
    (fun request => (requestKey sha256 middleware request, requestWindow middleware request))

-- The counted requests so far with the key and in the window of this one.
def sameWindow (requests : List Request) (request : Request) : List Request :=
  (requests.filter (isCounted middleware)).filter (fun other =>
    requestKey sha256 middleware other = requestKey sha256 middleware request ∧
      requestWindow middleware other = requestWindow middleware request)

def decisionFor (count : Nat) (request : Request) : RateLimitDecision :=
  ⟨decide ((count : Int) ≤ middleware.limit), middleware.limit, max (middleware.limit - count) 0,
    (requestWindow middleware request + 1) * middleware.windowSeconds⟩

def ClockOrdered (requests : List Request) : Prop :=
  (requests.filter (isCounted middleware)).Pairwise (fun earlier later => earlier.hitTime ≤ later.hitTime)

theorem same_window_seen (requests : List Request) (request : Request) :
    (sameWindow sha256 middleware requests request).length =
      seen (hits sha256 middleware requests) (requestKey sha256 middleware request)
        (requestWindow middleware request) := by
  rw [sameWindow, seen, hits, List.count_eq_countP, List.countP_map, List.countP_eq_length_filter]
  congr 1
  apply List.filter_congr
  intro other _
  simp [Prod.ext_iff, Bool.beq_eq_decide_eq]

theorem call_counted (store : MemoryRateLimitStore) (request : Request)
    (counted : isCounted middleware request = true) :
    call sha256 middleware store request =
      let hitting := hit store (epochSeconds request.hitTime) (requestKey sha256 middleware request)
        middleware.limit middleware.windowSeconds
      (hitting.1, answer hitting.2 request) := by
  obtain ⟨http, path⟩ : request.scope.type = .http ∧ request.scope.path.getD [] ∉ middleware.exemptPaths := by
    simpa [isCounted] using counted
  rw [call, if_neg (not_not.mpr http), if_neg path]
  rfl

theorem call_uncounted (store : MemoryRateLimitStore) (request : Request)
    (uncounted : isCounted middleware request = false) : call sha256 middleware store request = (store, .passed) := by
  by_cases http : request.scope.type = .http
  · have exempt : request.scope.path.getD [] ∈ middleware.exemptPaths := by simpa [isCounted, http] using uncounted
    rw [call, if_neg (not_not.mpr http), if_pos exempt]
  · rw [call, if_pos http]

-- The limiter as it is meant: it remembers every request and counts.
def referenceCall (past : List Request) (request : Request) : List Request × Handling :=
  let requests := past ++ [request]
  (requests,
    if isCounted middleware request then
      answer (decisionFor middleware (sameWindow sha256 middleware requests request).length request) request
    else .passed)

def Remembers (store : MemoryRateLimitStore) (past : List Request) : Prop :=
  ∃ current, Tracks (hits sha256 middleware past) current store

def InOrder (past : List Request) (request : Request) : Prop :=
  isCounted middleware request = true →
    ∀ earlier ∈ past.filter (isCounted middleware), earlier.hitTime ≤ request.hitTime

theorem window_monotone (earlier later : Request) (positive : 0 < middleware.windowSeconds)
    (ordered : earlier.hitTime ≤ later.hitTime) :
    requestWindow middleware earlier ≤ requestWindow middleware later := by
  have floors : epochSeconds earlier.hitTime ≤ epochSeconds later.hitTime :=
    Int.ofNat_le.mpr (Nat.floor_mono ordered)
  rw [requestWindow, requestWindow, Int.fdiv_eq_ediv_of_nonneg _ positive.le,
    Int.fdiv_eq_ediv_of_nonneg _ positive.le]
  exact Int.ediv_le_ediv positive floors

theorem hits_counted (past : List Request) (request : Request) (counted : isCounted middleware request = true) :
    hits sha256 middleware (past ++ [request]) =
      hits sha256 middleware past ++ [(requestKey sha256 middleware request, requestWindow middleware request)] := by
  simp [hits, counted]

theorem hits_uncounted (past : List Request) (request : Request)
    (uncounted : isCounted middleware request = false) :
    hits sha256 middleware (past ++ [request]) = hits sha256 middleware past := by
  simp [hits, uncounted]

theorem hits_ordered (past : List Request) (request : Request) (positive : 0 < middleware.windowSeconds)
    (ordered : ∀ earlier ∈ past.filter (isCounted middleware), earlier.hitTime ≤ request.hitTime) :
    ∀ hit ∈ hits sha256 middleware past, hit.2 ≤ requestWindow middleware request := by
  intro hit member
  obtain ⟨earlier, found, same⟩ := List.mem_map.mp member
  rw [← same]
  exact window_monotone middleware earlier request positive (ordered earlier found)

theorem call_refines (positive : 0 < middleware.windowSeconds) :
    Simulates (call sha256 middleware) (referenceCall sha256 middleware)
      (InOrder middleware) (Remembers sha256 middleware) := by
  intro store past request remembers inOrder
  obtain ⟨current, tracks⟩ := remembers
  cases counted : isCounted middleware request with
  | false =>
      rw [call_uncounted sha256 middleware store request counted]
      refine ⟨⟨current, ?_⟩, by simp [referenceCall, counted]⟩
      simpa [referenceCall, hits_uncounted sha256 middleware past request counted] using tracks
  | true =>
      have ordered := hits_ordered sha256 middleware past request positive (inOrder counted)
      have decided := hit_decision _ current _ store (requestKey sha256 middleware request) middleware.limit
        middleware.windowSeconds tracks ordered
      have tracked := hit_tracks _ current _ store (requestKey sha256 middleware request) middleware.limit
        middleware.windowSeconds tracks ordered
      have count := same_window_seen sha256 middleware (past ++ [request]) request
      rw [hits_counted sha256 middleware past request counted] at count
      rw [call_counted sha256 middleware store request counted]
      constructor
      · refine ⟨requestWindow middleware request, ?_⟩
        simp only [referenceCall, hits_counted sha256 middleware past request counted]
        exact tracked
      · simp only [referenceCall, counted, if_true, decisionFor, count, decided, requestWindow]

theorem ordered_admitted (past requests : List Request) (ordered : ClockOrdered middleware (past ++ requests)) :
    Admitted (referenceCall sha256 middleware) (InOrder middleware) past requests := by
  induction requests generalizing past with
  | nil => trivial
  | cons request rest ih =>
      constructor
      · intro counted earlier member
        have pairwise := ordered
        rw [ClockOrdered, List.filter_append, List.pairwise_append] at pairwise
        exact pairwise.2.2 earlier member request (by simp [counted])
      · apply ih
        simpa [referenceCall] using ordered

theorem reference_past (past requests : List Request) :
    (run (referenceCall sha256 middleware) past requests).1 = past ++ requests := by
  induction requests generalizing past with
  | nil => simp [run]
  | cons request rest ih =>
      rw [run_cons, ih]
      simp [referenceCall]

theorem serve_refines (positive : 0 < middleware.windowSeconds) (requests : List Request)
    (ordered : ClockOrdered middleware requests) :
    Remembers sha256 middleware (serve sha256 middleware requests).1 requests ∧
      (serve sha256 middleware requests).2 = (run (referenceCall sha256 middleware) [] requests).2 := by
  have refined := simulates_run _ _ _ _ (call_refines sha256 middleware positive) emptyStore [] requests
    ⟨0, tracks_empty⟩ (ordered_admitted sha256 middleware [] requests ordered)
  rw [reference_past, List.nil_append] at refined
  exact refined

theorem tracks_current (history : History) (key : Str) (current window : Int) (store : MemoryRateLimitStore)
    (tracks : Tracks (history ++ [(key, window)]) current store) (ordered : ∀ hit ∈ history, hit.2 ≤ window) :
    current = window := by
  have reached := tracks.latest (key, window) (by simp)
  obtain ⟨found, member, at_current⟩ := tracks.attained (by simp)
  cases List.mem_append.mp member with
  | inl earlier => exact le_antisymm (at_current ▸ ordered found earlier) reached
  | inr last =>
      rw [List.mem_singleton.mp last] at at_current
      exact at_current.symm

end Limiter

theorem fixed_window_exact (sha256 : Bytes → Bytes) (middleware : RateLimitMiddleware)
    (positive : 0 < middleware.windowSeconds) (before : List Request) (request : Request)
    (ordered : ClockOrdered middleware (before ++ [request])) :
    let store := (serve sha256 middleware before).1
    let after := (serve sha256 middleware (before ++ [request])).1
    let count := (sameWindow sha256 middleware (before ++ [request]) request).length
    let window := requestWindow middleware request
    (isCounted middleware request = true →
      (call sha256 middleware store request).2 = answer (decisionFor middleware count request) request ∧
      ((∃ decision, (call sha256 middleware store request).2 = .forwarded decision) ↔
        (count : Int) ≤ middleware.limit) ∧
      after.buckets.keys.Perm
        ((keysIn (hits sha256 middleware (before ++ [request])) window).map (fun key => bucketKey key window))) ∧
    (isCounted middleware request = false → call sha256 middleware store request = (store, .passed)) ∧
    store = (serve sha256 middleware (before.filter (isCounted middleware))).1 := by
  intro store after count window
  have beforeOrdered : ClockOrdered middleware before := by
    rw [ClockOrdered, List.filter_append] at ordered
    exact (List.pairwise_append.mp ordered).1
  have remembers := (serve_refines sha256 middleware positive before beforeOrdered).1
  have inOrder : InOrder middleware before request := by
    intro counted earlier member
    rw [ClockOrdered, List.filter_append, List.pairwise_append] at ordered
    exact ordered.2.2 earlier member request (by simp [counted])
  have step := call_refines sha256 middleware positive store before request remembers inOrder
  refine ⟨?_, call_uncounted sha256 middleware store request, ?_⟩
  · intro counted
    have handled : (call sha256 middleware store request).2 = answer (decisionFor middleware count request) request := by
      rw [step.2]
      simp [referenceCall, counted, count]
    refine ⟨handled, ?_, ?_⟩
    · rw [handled, answer]
      by_cases within : (count : Int) ≤ middleware.limit
      · simp [decisionFor, within]
      · simp [decisionFor, within]
    · have stepped : after = (call sha256 middleware store request).1 := run_snoc _ _ before request
      obtain ⟨current, tracks⟩ := step.1
      have recorded := hits_counted sha256 middleware before request counted
      have past : (referenceCall sha256 middleware before request).1 = before ++ [request] := rfl
      rw [past, recorded] at tracks
      have latest := tracks_current _ _ current _ _ tracks
        (hits_ordered sha256 middleware before request positive (inOrder counted))
      rw [stepped, recorded, show window = current from latest.symm]
      exact tracks_keys _ current _ tracks
  · apply run_skip
    intro state input uncounted
    rw [call_uncounted sha256 middleware state input uncounted]

def peerRequest (time : WallClock) : Request :=
  ⟨{ type := .http, client := some ("192.0.2.7".toList, 5000) }, time, time, time⟩
def oneAMinute : RateLimitMiddleware := ⟨1, 60, .ip, false, [], [], []⟩

theorem fixed_window_exact_second :
    ¬ ∃ decision, (call id oneAMinute (serve id oneAMinute [peerRequest 61]).1 (peerRequest 62)).2 =
      .forwarded decision := by
  have ordered : ClockOrdered oneAMinute ([peerRequest 61] ++ [peerRequest 62]) := by
    simp [ClockOrdered, isCounted, peerRequest, oneAMinute]
    norm_num
  have exact := (fixed_window_exact id oneAMinute (by decide) [peerRequest 61] (peerRequest 62) ordered).1 (by decide)
  rw [exact.2.1]
  decide +kernel

end Chassis.RateLimit
