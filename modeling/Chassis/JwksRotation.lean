import Chassis.JwksReadiness

set_option autoImplicit false

namespace Chassis.Auth

open Transition

section Sets

variable {κ : Type} (library : JwtLibrary κ) (kid : Str)

def WellFormed (jwks : Jwks) : Prop :=
  ∀ entry ∈ jwks.keys, ∃ members key, entry = .object members ∧ library.fromDict members = .ok key

def entryHasKid : Json → Bool
  | .object members => hasKid members kid
  | _ => false

def Publishes (jwks : Jwks) : Prop := ∃ entry ∈ jwks.keys, entryHasKid kid entry = true

def FirstEntry (jwks : Jwks) (key : κ) : Prop :=
  ∃ members, jwks.keys.find? (entryHasKid kid) = some (.object members) ∧ library.fromDict members = .ok key

theorem well_formed_entries (entries : List Json)
    (wellFormed : ∀ entry ∈ entries, ∃ members key, entry = .object members ∧ library.fromDict members = .ok key) :
    (∃ members key, entries.find? (entryHasKid kid) = some (.object members) ∧ library.fromDict members = .ok key ∧
        keyForKid library kid entries = .ok (some key)) ∨
      ((∀ entry ∈ entries, entryHasKid kid entry = false) ∧ keyForKid library kid entries = .ok none) := by
  induction entries with
  | nil => exact .inr ⟨by simp, rfl⟩
  | cons entry rest ih =>
      obtain ⟨members, key, same, loaded⟩ := wellFormed entry (by simp)
      subst same
      by_cases named : hasKid members kid = true
      · refine .inl ⟨members, key, ?_, loaded, ?_⟩
        · exact List.find?_cons_of_pos named
        · rw [keyForKid, if_pos named, loaded]
          rfl
      · have passed : entryHasKid kid (.object members) = false := by simpa [entryHasKid] using named
        have skipped : (Json.object members :: rest).find? (entryHasKid kid) = rest.find? (entryHasKid kid) :=
          List.find?_cons_of_neg (by simp [passed])
        rw [skipped, keyForKid, if_neg named]
        obtain found | ⟨absent, missed⟩ := ih (fun other member => wellFormed other (by simp [member]))
        · exact .inl found
        · refine .inr ⟨?_, missed⟩
          intro other member
          cases List.mem_cons.mp member with
          | inl same => exact same ▸ passed
          | inr later => exact absent other later

theorem well_formed_lookup (jwks : Jwks) (wellFormed : WellFormed library jwks) :
    (∃ key, getJwkKeyForKid library jwks kid = .ok (some key) ∧ Publishes kid jwks ∧ FirstEntry library kid jwks key) ∨
      (getJwkKeyForKid library jwks kid = .ok none ∧ ¬ Publishes kid jwks) := by
  obtain ⟨members, key, first, loaded, found⟩ | ⟨absent, missed⟩ :=
    well_formed_entries library kid jwks.keys wellFormed
  · have listed := List.mem_of_find?_eq_some first
    have named := List.find?_some first
    exact .inl ⟨key, found, ⟨_, listed, named⟩, members, first, loaded⟩
  · refine .inr ⟨missed, ?_⟩
    intro published
    obtain ⟨entry, listed, named⟩ := published
    rw [absent entry listed] at named
    cases named

end Sets

section Rotation

variable {κ : Type} (settings : Settings) (library : JwtLibrary κ) (describe : Failure → Str)

def isCall (task : Nat) : TaskEvent κ → Bool
  | .called other _ => other = task
  | _ => false

def isForcedCall (task : Nat) : TaskEvent κ → Bool
  | .called other forceRefresh => other = task && forceRefresh
  | _ => false

def KeyFound (kid : Str) (task : Nat) (trace : List (TaskEvent κ)) (accepts : Jwks → Prop) : Prop :=
  (∃ now jwks, .fetch (.returned (firstCall task) now jwks) ∈ trace ∧ accepts jwks) ∨
    ∃ now jwks later refreshed, .fetch (.returned (firstCall task) now jwks) ∈ trace ∧ ¬ Publishes kid jwks ∧
      .fetch (.returned (forcedCall task) later refreshed) ∈ trace ∧ accepts refreshed

def ProviderPublishes (kid : Str) (task : Nat) (trace : List (TaskEvent κ)) : Prop :=
  ∀ call, call = firstCall task ∨ call = forcedCall task →
    (∀ now, .fetch (.refreshFailed call now) ∉ trace) ∧
      ∀ now jwks, .fetch (.refreshed call now jwks) ∈ trace → Publishes kid jwks

structure Rotates (kid : Str) (task : Nat) (trace : List (TaskEvent κ)) : Prop where
  calls : (trace.filter (isCall task)).length ≤ 2
  forcedCalls : (trace.filter (isForcedCall task)).length ≤ 1
  forcedOnMiss : ∀ before after, trace = before ++ .called task true :: after →
    ∃ now jwks, .fetch (.returned (firstCall task) now jwks) ∈ before ∧ ¬ Publishes kid jwks
  resolved : ∀ result, .finished task (.resolved result) ∈ trace →
    ((∃ key, result = .ok key) ↔ KeyFound kid task trace (Publishes kid))
  chosen : ∀ key, .finished task (.resolved (.ok key)) ∈ trace →
    ∃ entry, key = .jwk entry ∧ KeyFound kid task trace (fun jwks => FirstEntry library kid jwks entry)
  current : ProviderPublishes kid task trace → ∀ result, .finished task (.resolved result) ∈ trace →
    ∃ key, result = .ok key

theorem ends_returned (call : Nat) (forceRefresh flag : Bool) (result : CallResult) (events : List FetchEvent)
    (ends : CallEnds call forceRefresh result flag events) (jwks : Jwks) :
    (∃ now, .returned call now jwks ∈ events) ↔ result = .returned jwks := by
  cases ends <;> simp [eq_comm]

theorem ends_unfailed (call : Nat) (forceRefresh flag : Bool) (result : CallResult) (events : List FetchEvent)
    (ends : CallEnds call forceRefresh result flag events) (unfailed : ∀ now, .refreshFailed call now ∉ events) :
    (∃ jwks, result = .returned jwks ∧ (forceRefresh = true → ∃ now, .refreshed call now jwks ∈ events)) ∨
      result = .cancelled := by
  cases ends with
  | cached now jwks free => exact .inl ⟨jwks, rfl, by simp [free]⟩
  | fetched now jwks => exact .inl ⟨jwks, rfl, fun _ => ⟨now, by simp⟩⟩
  | stale now jwks => exact absurd (by simp) (unfailed now)
  | raised now failure flag => exact absurd (by simp) (unfailed now)
  | cancelled flag => exact .inr rfl

theorem calls_apart (task : Nat) : firstCall task ≠ forcedCall task := by
  unfold firstCall forcedCall
  omega

theorem fetch_elsewhere (call other : Nat) (forceRefresh flag : Bool) (result : CallResult) (events : List FetchEvent)
    (ends : CallEnds call forceRefresh result flag events) (event : FetchEvent) (belongs : event.call = other)
    (apart : other ≠ call) : event ∉ events := by
  intro member
  exact apart (belongs.symm.trans (call_ends_call call forceRefresh flag result events ends event member))

theorem first_entry_published (kid : Str) (jwks : Jwks) (key : κ) (first : FirstEntry library kid jwks key) :
    Publishes kid jwks := by
  obtain ⟨members, found, _⟩ := first
  exact ⟨_, List.mem_of_find?_eq_some found, List.find?_some found⟩

theorem answer_of_set (kid : Str) (jwks : Jwks) (wellFormed : WellFormed library jwks) (stage : Stage κ)
    (looks : stage = .lookingUp kid ∨ stage = .refreshing kid) (flag : Bool) (outcome : Outcome κ)
    (answer : continueWith library describe stage flag (.returned jwks) = .done outcome) :
    (∃ entry, outcome = .resolved (.ok (.jwk entry)) ∧ Publishes kid jwks ∧ FirstEntry library kid jwks entry) ∨
      (∃ failure, outcome = .resolved (.error failure) ∧ ¬ Publishes kid jwks ∧ stage = .refreshing kid) := by
  obtain ⟨key, found, published, first⟩ | ⟨missed, unpublished⟩ := well_formed_lookup library kid jwks wellFormed
  · refine .inl ⟨key, ?_, published, first⟩
    cases looks with
    | inl same =>
        subst same
        simpa [continueWith, found, eq_comm] using answer
    | inr same =>
        subst same
        simpa [continueWith, found, eq_comm] using answer
  · refine .inr ⟨.noMatchingKey, ?_, unpublished, ?_⟩
    · cases looks with
      | inl same =>
          subst same
          simp [continueWith, missed] at answer
      | inr same =>
          subst same
          simpa [continueWith, missed, eq_comm] using answer
    · cases looks with
      | inl same =>
          subst same
          simp [continueWith, missed] at answer
      | inr same => exact same

@[simp] theorem fetch_events_calls (task : Nat) (events : List FetchEvent) :
    (events.map (TaskEvent.fetch (κ := κ))).filter (isCall task) = [] := by
  simp [List.filter_eq_nil_iff, isCall]

@[simp] theorem fetch_events_forced (task : Nat) (events : List FetchEvent) :
    (events.map (TaskEvent.fetch (κ := κ))).filter (isForcedCall task) = [] := by
  simp [List.filter_eq_nil_iff, isForcedCall]

structure Sees (task : Nat) (history : List (TaskEvent κ)) (first forced : Jwks → Prop) : Prop where
  first : ∀ jwks, (∃ now, .fetch (.returned (firstCall task) now jwks) ∈ history) ↔ first jwks
  forced : ∀ jwks, (∃ now, .fetch (.returned (forcedCall task) now jwks) ∈ history) ↔ forced jwks

theorem key_found_iff (kid : Str) (task : Nat) (history : List (TaskEvent κ)) (first forced accepts : Jwks → Prop)
    (sees : Sees task history first forced) :
    KeyFound kid task history accepts ↔ (∃ jwks, first jwks ∧ accepts jwks) ∨
      ∃ jwks refreshed, first jwks ∧ ¬ Publishes kid jwks ∧ forced refreshed ∧ accepts refreshed := by
  constructor
  · rintro (⟨now, jwks, member, accepted⟩ | ⟨now, jwks, later, refreshed, member, unpublished, again, accepted⟩)
    · exact .inl ⟨jwks, (sees.first jwks).mp ⟨now, member⟩, accepted⟩
    · exact .inr ⟨jwks, refreshed, (sees.first jwks).mp ⟨now, member⟩, unpublished,
        (sees.forced refreshed).mp ⟨later, again⟩, accepted⟩
  · rintro (⟨jwks, seen, accepted⟩ | ⟨jwks, refreshed, seen, unpublished, again, accepted⟩)
    · obtain ⟨now, member⟩ := (sees.first jwks).mpr seen
      exact .inl ⟨now, jwks, member, accepted⟩
    · obtain ⟨now, member⟩ := (sees.first jwks).mpr seen
      obtain ⟨later, more⟩ := (sees.forced refreshed).mpr again
      exact .inr ⟨now, jwks, later, refreshed, member, unpublished, more, accepted⟩

structure Answers (kid : Str) (first forced : Jwks → Prop) (outcome : Outcome κ) : Prop where
  resolved : ∀ result, outcome = .resolved result → ((∃ key, result = .ok key) ↔
    (∃ jwks, first jwks ∧ Publishes kid jwks) ∨
      ∃ jwks refreshed, first jwks ∧ ¬ Publishes kid jwks ∧ forced refreshed ∧ Publishes kid refreshed)
  chosen : ∀ key, outcome = .resolved (.ok key) → ∃ entry, key = .jwk entry ∧
    ((∃ jwks, first jwks ∧ FirstEntry library kid jwks entry) ∨
      ∃ jwks refreshed, first jwks ∧ ¬ Publishes kid jwks ∧ forced refreshed ∧ FirstEntry library kid refreshed entry)

theorem once_answers (kid : Str) (flag : Bool) (result : CallResult) (outcome : Outcome κ)
    (wellFormed : ∀ jwks, result = .returned jwks → WellFormed library jwks)
    (answer : continueWith library describe (.lookingUp kid) flag result = .done outcome) :
    Answers library kid (fun jwks => result = .returned jwks) (fun _ => False) outcome := by
  cases result with
  | cancelled =>
      have same : outcome = .cancelled := by simpa [continueWith, eq_comm] using answer
      subst same
      exact ⟨by simp, by simp⟩
  | raised failure =>
      have same : outcome = .resolved (.error (.raised failure)) := by simpa [continueWith, eq_comm] using answer
      subst same
      exact ⟨by simp, by simp⟩
  | returned jwks =>
      obtain ⟨entry, same, published, first⟩ | ⟨_, _, _, other⟩ :=
        answer_of_set library describe kid jwks (wellFormed jwks rfl) _ (.inl rfl) flag outcome answer
      · subst same
        refine ⟨?_, ?_⟩
        · intro result reached
          cases reached
          exact iff_of_true ⟨_, rfl⟩ (.inl ⟨jwks, rfl, published⟩)
        · intro key reached
          cases reached
          exact ⟨entry, rfl, .inl ⟨jwks, rfl, first⟩⟩
      · cases other

theorem twice_answers (kid : Str) (jwks : Jwks) (unpublished : ¬ Publishes kid jwks) (flag : Bool)
    (result : CallResult) (outcome : Outcome κ)
    (wellFormed : ∀ refreshed, result = .returned refreshed → WellFormed library refreshed)
    (answer : continueWith library describe (.refreshing kid) flag result = .done outcome) :
    Answers library kid (fun other => other = jwks) (fun refreshed => result = .returned refreshed) outcome := by
  have foreign (entry : κ) : ¬ FirstEntry library kid jwks entry := fun first =>
    unpublished (first_entry_published library kid jwks entry first)
  cases result with
  | cancelled =>
      have same : outcome = .cancelled := by simpa [continueWith, eq_comm] using answer
      subst same
      exact ⟨by simp, by simp⟩
  | raised failure =>
      have same : outcome = .resolved (.error (.raised failure)) := by simpa [continueWith, eq_comm] using answer
      subst same
      exact ⟨by simp [unpublished], by simp⟩
  | returned refreshed =>
      obtain ⟨entry, same, published, first⟩ | ⟨failure, same, absent, _⟩ :=
        answer_of_set library describe kid refreshed (wellFormed refreshed rfl) _ (.inr rfl) flag outcome answer
      · subst same
        refine ⟨?_, ?_⟩
        · intro result reached
          cases reached
          exact iff_of_true ⟨_, rfl⟩ (.inr ⟨jwks, refreshed, rfl, unpublished, rfl, published⟩)
        · intro key reached
          cases reached
          exact ⟨entry, rfl, .inr ⟨jwks, refreshed, rfl, unpublished, rfl, first⟩⟩
      · subst same
        refine ⟨?_, by simp⟩
        intro result reached
        cases reached
        simp [unpublished, absent]

theorem absent_unpublished (kid : Str) (jwks : Jwks) (wellFormed : WellFormed library jwks)
    (absent : getJwkKeyForKid library jwks kid = .ok none) : ¬ Publishes kid jwks := by
  obtain ⟨key, found, _⟩ | ⟨_, unpublished⟩ := well_formed_lookup library kid jwks wellFormed
  · rw [absent] at found
    cases found
  · exact unpublished

theorem cut_unique {α : Type} (mark : α → Bool) (before after left right : List α) (event other : α)
    (same : before ++ event :: after = left ++ other :: right) (marked : mark event = true)
    (leftClear : ∀ item ∈ left, mark item = false) (rightClear : ∀ item ∈ right, mark item = false) : before = left := by
  cases List.append_eq_append_iff.mp same with
  | inl longer =>
      obtain ⟨gap, reached, rest⟩ := longer
      cases gap with
      | nil => simp [reached]
      | cons head tail =>
          have first : event = head := (List.cons.inj rest).1
          have clear := leftClear head (by simp [reached])
          rw [← first, marked] at clear
          cases clear
  | inr shorter =>
      obtain ⟨gap, reached, rest⟩ := shorter
      cases gap with
      | nil => simp [reached]
      | cons head tail =>
          have inRight : event ∈ right := by simp [(List.cons.inj rest).2]
          rw [rightClear event inRight] at marked
          cases marked

def WellFormedSeen (task : Nat) (history : List (TaskEvent κ)) : Prop :=
  ∀ call now jwks, call = firstCall task ∨ call = forcedCall task →
    .fetch (.returned call now jwks) ∈ history → WellFormed library jwks

theorem once_sees (task : Nat) (before after : List (TaskEvent κ)) (forceRefresh flag : Bool) (result : CallResult)
    (events : List FetchEvent) (ends : CallEnds (firstCall task) forceRefresh result flag events)
    (quietBefore : ∀ event, TaskEvent.fetch event ∉ before) (quietAfter : ∀ event, TaskEvent.fetch event ∉ after) :
    Sees task (before ++ (events.map .fetch ++ after)) (fun jwks => result = .returned jwks) (fun _ => False) := by
  have inside (event : FetchEvent) : TaskEvent.fetch event ∈ before ++ (events.map .fetch ++ after) ↔ event ∈ events := by
    simp [quietBefore, quietAfter]
  constructor
  · intro jwks
    simp only [inside]
    exact ends_returned _ _ _ _ _ ends jwks
  · intro jwks
    simp only [inside, iff_false, not_exists]
    exact fun now => fetch_elsewhere _ _ _ _ _ _ ends _ rfl (calls_apart task).symm

theorem twice_sees (task : Nat) (before middle after : List (TaskEvent κ)) (jwks : Jwks) (flag again : Bool)
    (result : CallResult) (events more : List FetchEvent)
    (ends : CallEnds (firstCall task) false (.returned jwks) flag events)
    (refresh : CallEnds (forcedCall task) true result again more)
    (quietBefore : ∀ event, TaskEvent.fetch event ∉ before) (quietMiddle : ∀ event, TaskEvent.fetch event ∉ middle)
    (quietAfter : ∀ event, TaskEvent.fetch event ∉ after) :
    Sees task ((before ++ (events.map .fetch ++ middle)) ++ (more.map .fetch ++ after)) (fun other => other = jwks)
      (fun refreshed => result = .returned refreshed) := by
  have inside (event : FetchEvent) :
      TaskEvent.fetch event ∈ (before ++ (events.map .fetch ++ middle)) ++ (more.map .fetch ++ after) ↔
        event ∈ events ∨ event ∈ more := by
    simp [quietBefore, quietMiddle, quietAfter]
  constructor
  · intro other
    have elsewhere (now : Rat) : FetchEvent.returned (firstCall task) now other ∉ more :=
      fetch_elsewhere _ _ _ _ _ _ refresh _ rfl (calls_apart task)
    have own := ends_returned _ _ _ _ _ ends other
    simp only [inside, elsewhere, or_false, own, CallResult.returned.injEq]
    exact eq_comm
  · intro refreshed
    have elsewhere (now : Rat) : FetchEvent.returned (forcedCall task) now refreshed ∉ events :=
      fetch_elsewhere _ _ _ _ _ _ ends _ rfl (calls_apart task).symm
    simp only [inside, elsewhere, false_or]
    exact ends_returned _ _ _ _ _ refresh refreshed

theorem answered_rotates (kid : Str) (task : Nat) (history : List (TaskEvent κ)) (first forced : Jwks → Prop)
    (outcome : Outcome κ) (finished : ∀ other, .finished task other ∈ history → other = outcome)
    (sees : Sees task history first forced) (answers : Answers library kid first forced outcome) :
    (∀ result, .finished task (.resolved result) ∈ history →
        ((∃ key, result = .ok key) ↔ KeyFound kid task history (Publishes kid))) ∧
      ∀ key, .finished task (.resolved (.ok key)) ∈ history →
        ∃ entry, key = .jwk entry ∧ KeyFound kid task history (fun jwks => FirstEntry library kid jwks entry) := by
  constructor
  · intro result member
    rw [key_found_iff kid task history first forced _ sees]
    exact answers.resolved result (finished _ member).symm
  · intro key member
    obtain ⟨entry, same, found⟩ := answers.chosen key (finished _ member).symm
    exact ⟨entry, same, (key_found_iff kid task history first forced _ sees).mpr found⟩

theorem unfinished_rotates (kid : Str) (task : Nat) (history : List (TaskEvent κ))
    (calls : (history.filter (isCall task)).length ≤ 2) (forcedCalls : (history.filter (isForcedCall task)).length ≤ 1)
    (forcedOnMiss : ∀ before after, history = before ++ .called task true :: after →
      ∃ now jwks, .fetch (.returned (firstCall task) now jwks) ∈ before ∧ ¬ Publishes kid jwks)
    (unfinished : ∀ outcome, .finished task outcome ∉ history) : Rotates library kid task history :=
  ⟨calls, forcedCalls, forcedOnMiss, fun _ member => absurd member (unfinished _),
    fun _ member => absurd member (unfinished _), fun _ _ member => absurd member (unfinished _)⟩

theorem unforced_history (kid : Str) (task : Nat) (history : List (TaskEvent κ))
    (unforced : (history.filter (isForcedCall task)).length = 0) (before after : List (TaskEvent κ))
    (split : history = before ++ .called task true :: after) :
    ∃ now jwks, .fetch (.returned (firstCall task) now jwks) ∈ before ∧ ¬ Publishes kid jwks := by
  rw [split] at unforced
  simp [isForcedCall] at unforced

theorem once_rotates (kid : Str) (task : Nat) (purpose : Purpose) (flag : Bool) (result : CallResult)
    (events : List FetchEvent) (outcome : Outcome κ)
    (ends : CallEnds (firstCall task) false result flag events)
    (answer : continueWith library describe (.lookingUp kid) flag result = .done outcome)
    (wellFormed : WellFormedSeen library task
      ([TaskEvent.started task purpose, TaskEvent.called task false] ++ (events.map TaskEvent.fetch ++ [TaskEvent.finished task outcome]))) :
    Rotates library kid task
      ([TaskEvent.started task purpose, TaskEvent.called task false] ++ (events.map TaskEvent.fetch ++ [TaskEvent.finished task outcome])) := by
  have sees := once_sees task [TaskEvent.started task purpose, .called task false] [TaskEvent.finished task outcome] false flag
    result events ends (by simp) (by simp)
  have seen : ∀ jwks, result = .returned jwks → WellFormed library jwks := by
    intro jwks returned
    obtain ⟨now, member⟩ := (sees.first jwks).mpr returned
    exact wellFormed _ now jwks (.inl rfl) member
  have answers := once_answers library describe kid flag result outcome seen answer
  obtain ⟨resolved, chosen⟩ := answered_rotates library kid task _ _ _ outcome (by simp) sees answers
  have forced : (List.filter (isForcedCall task)
      ([TaskEvent.started task purpose, .called task false] ++ (events.map TaskEvent.fetch ++ [TaskEvent.finished task outcome]))).length =
      0 := by
    simp [isForcedCall]
  refine ⟨by simp [isCall], by simp [isForcedCall], unforced_history kid task _ forced, resolved, chosen, ?_⟩
  intro provider reached member
  have unfailed : ∀ now, FetchEvent.refreshFailed (firstCall task) now ∉ events := by
    intro now failed
    exact (provider (firstCall task) (.inl rfl)).1 now (by simp [failed])
  have same : outcome = .resolved reached := by simpa [eq_comm] using member
  obtain ⟨jwks, returned, _⟩ | cancelled := ends_unfailed _ _ _ _ _ ends unfailed
  · subst returned
    obtain ⟨entry, settled, _⟩ | ⟨_, _, _, other⟩ :=
      answer_of_set library describe kid jwks (seen jwks rfl) _ (.inl rfl) flag outcome answer
    · rw [same] at settled
      cases settled
      exact ⟨_, rfl⟩
    · cases other
  · subst cancelled
    rw [same] at answer
    cases answer

theorem fetch_unforced (task : Nat) (events : List FetchEvent) :
    ∀ event ∈ events.map (TaskEvent.fetch (κ := κ)), isForcedCall task event = false := by
  intro event member
  obtain ⟨inner, _, same⟩ := List.mem_map.mp member
  rw [← same]
  rfl

theorem missed_cut (kid : Str) (task : Nat) (purpose : Purpose) (jwks : Jwks) (flag : Bool)
    (events : List FetchEvent) (ends : CallEnds (firstCall task) false (.returned jwks) flag events)
    (unpublished : ¬ Publishes kid jwks) (rest : List (TaskEvent κ)) (quiet : ∀ event ∈ rest, isForcedCall task event = false)
    (before after : List (TaskEvent κ))
    (split : ([TaskEvent.started task purpose, TaskEvent.called task false] ++ (events.map TaskEvent.fetch ++ [TaskEvent.called task true])) ++ rest =
      before ++ TaskEvent.called task true :: after) :
    ∃ now jwks, .fetch (.returned (firstCall task) now jwks) ∈ before ∧ ¬ Publishes kid jwks := by
  obtain ⟨now, member⟩ := (ends_returned _ _ _ _ _ ends jwks).mpr rfl
  have shape : before ++ TaskEvent.called task true :: after =
      ([TaskEvent.started task purpose, TaskEvent.called task false] ++ events.map TaskEvent.fetch) ++ TaskEvent.called task true :: rest := by
    simp [← split]
  have clear : ∀ event ∈ [TaskEvent.started (κ := κ) task purpose, .called task false] ++ events.map TaskEvent.fetch,
      isForcedCall task event = false := by
    intro event inside
    cases List.mem_append.mp inside with
    | inl start =>
        simp only [List.mem_cons, List.not_mem_nil, or_false] at start
        rcases start with rfl | rfl
        · rfl
        · simp [isForcedCall]
    | inr fetched => exact fetch_unforced task events event fetched
  have same := cut_unique (isForcedCall task) before after _ rest _ _ shape (by simp [isForcedCall]) clear quiet
  exact ⟨now, jwks, by simp [same, member], unpublished⟩

theorem twice_rotates (kid : Str) (task : Nat) (purpose : Purpose) (jwks : Jwks) (flag again : Bool)
    (result : CallResult) (events more : List FetchEvent) (outcome : Outcome κ)
    (ends : CallEnds (firstCall task) false (.returned jwks) flag events)
    (absent : getJwkKeyForKid library jwks kid = .ok none)
    (refresh : CallEnds (forcedCall task) true result again more)
    (answer : continueWith library describe (.refreshing kid) again result = .done outcome)
    (wellFormed : WellFormedSeen library task
      (([TaskEvent.started task purpose, TaskEvent.called task false] ++ (events.map TaskEvent.fetch ++ [TaskEvent.called task true])) ++
        (more.map TaskEvent.fetch ++ [TaskEvent.finished task outcome]))) :
    Rotates library kid task
      (([TaskEvent.started task purpose, TaskEvent.called task false] ++ (events.map TaskEvent.fetch ++ [TaskEvent.called task true])) ++
        (more.map TaskEvent.fetch ++ [TaskEvent.finished task outcome])) := by
  have sees := twice_sees task [TaskEvent.started task purpose, .called task false] [TaskEvent.called task true]
    [TaskEvent.finished task outcome] jwks flag again result events more ends refresh (by simp) (by simp) (by simp)
  have firstWellFormed : WellFormed library jwks := by
    obtain ⟨now, member⟩ := (sees.first jwks).mpr rfl
    exact wellFormed _ now jwks (.inl rfl) member
  have unpublished := absent_unpublished library kid jwks firstWellFormed absent
  have seen : ∀ refreshed, result = .returned refreshed → WellFormed library refreshed := by
    intro refreshed returned
    obtain ⟨now, member⟩ := (sees.forced refreshed).mpr returned
    exact wellFormed _ now refreshed (.inr rfl) member
  have answers := twice_answers library describe kid jwks unpublished again result outcome seen answer
  obtain ⟨resolved, chosen⟩ := answered_rotates library kid task _ _ _ outcome (by simp) sees answers
  have quiet : ∀ event ∈ more.map TaskEvent.fetch ++ [TaskEvent.finished task outcome],
      isForcedCall task event = false := by
    intro event inside
    cases List.mem_append.mp inside with
    | inl fetched => exact fetch_unforced task more event fetched
    | inr finished =>
        rw [List.mem_singleton.mp finished]
        rfl
  refine ⟨by simp [isCall], by simp [isForcedCall],
    missed_cut kid task purpose jwks flag events ends unpublished _ quiet, resolved, chosen, ?_⟩
  intro provider reached member
  have unfailed : ∀ now, FetchEvent.refreshFailed (forcedCall task) now ∉ more := by
    intro now failed
    exact (provider (forcedCall task) (.inr rfl)).1 now (by simp [failed])
  have same : outcome = .resolved reached := by simpa [eq_comm] using member
  obtain ⟨refreshed, returned, fetched⟩ | cancelled := ends_unfailed _ _ _ _ _ refresh unfailed
  · subst returned
    obtain ⟨now, brought⟩ := fetched rfl
    have published := (provider (forcedCall task) (.inr rfl)).2 now refreshed (by simp [brought])
    obtain ⟨entry, settled, _⟩ | ⟨_, _, missing, _⟩ :=
      answer_of_set library describe kid refreshed (seen refreshed rfl) _ (.inr rfl) again outcome answer
    · rw [same] at settled
      cases settled
      exact ⟨_, rfl⟩
    · exact absurd published missing
  · subst cancelled
    rw [same] at answer
    cases answer

theorem history_rotates (token kid : Str) (task : Nat) (stage : Stage κ) (history : List (TaskEvent κ))
    (enters : enter settings library (.authenticate token) = .lookingUp kid)
    (progress : Progress settings library describe task stage history)
    (started : .started task (.authenticate token) ∈ history) (wellFormed : WellFormedSeen library task history) :
    Rotates library kid task history := by
  cases progress with
  | idle => cases started
  | direct purpose outcome entered =>
      have same : purpose = .authenticate token := by simpa [eq_comm] using started
      rw [same, enters] at entered
      cases entered
  | first purpose stage entered awaits =>
      have same : purpose = .authenticate token := by simpa [eq_comm] using started
      rw [same, enters] at entered
      subst entered
      have unforced : (List.filter (isForcedCall task) [TaskEvent.started (κ := κ) task purpose, .called task false]).length =
          0 := by
        simp [isForcedCall]
      exact unfinished_rotates library kid task _ (by simp [isCall]) ((Nat.le_of_eq unforced).trans (Nat.zero_le 1))
        (unforced_history kid task _ unforced) (by simp)
  | once purpose stage outcome result flag events entered awaits ends answer =>
      have same : purpose = .authenticate token := by simpa [eq_comm] using started
      rw [same, enters] at entered
      subst entered
      exact once_rotates library describe kid task purpose flag result events outcome ends answer wellFormed
  | missed purpose other jwks flag events entered ends absent =>
      have same : purpose = .authenticate token := by simpa [eq_comm] using started
      rw [same, enters] at entered
      cases entered
      obtain ⟨now, returned⟩ := (ends_returned _ _ _ _ _ ends jwks).mpr rfl
      have firstWellFormed := wellFormed _ now jwks (.inl rfl) (by simp [returned])
      have unpublished := absent_unpublished library kid jwks firstWellFormed absent
      refine unfinished_rotates library kid task _ (by simp [isCall]) (by simp [isForcedCall]) ?_ (by simp)
      intro before after split
      exact missed_cut kid task purpose jwks flag events ends unpublished [] (by simp) before after (by simpa using split)
  | twice purpose other jwks flag events outcome result again more entered ends absent refresh answer =>
      have same : purpose = .authenticate token := by simpa [eq_comm] using started
      rw [same, enters] at entered
      cases entered
      exact twice_rotates library describe kid task purpose jwks flag again result events more outcome ends absent refresh
        answer wellFormed

theorem filter_own (task : Nat) (trace : List (TaskEvent κ)) (counts : TaskEvent κ → Bool)
    (owns : ∀ event, counts event = true → event.owner = task) : (own task trace).filter counts = trace.filter counts := by
  rw [own, List.filter_filter]
  refine List.filter_congr ?_
  intro event _
  cases counted : counts event with
  | false => rfl
  | true => simp [owns event counted]

theorem mem_own_fetch (task : Nat) (trace : List (TaskEvent κ)) (event : FetchEvent)
    (owned : event.call = firstCall task ∨ event.call = forcedCall task) :
    TaskEvent.fetch event ∈ trace ↔ TaskEvent.fetch event ∈ own task trace := by
  refine mem_own task trace _ ?_
  cases owned with
  | inl first =>
      rw [TaskEvent.owner, first, firstCall]
      omega
  | inr forced =>
      rw [TaskEvent.owner, forced, forcedCall]
      omega

theorem key_found_own (kid : Str) (task : Nat) (trace : List (TaskEvent κ)) (accepts : Jwks → Prop) :
    KeyFound kid task (own task trace) accepts ↔ KeyFound kid task trace accepts := by
  have first (now : Rat) (jwks : Jwks) :=
    mem_own_fetch task trace (.returned (firstCall task) now jwks) (.inl rfl)
  have forced (now : Rat) (jwks : Jwks) :=
    mem_own_fetch task trace (.returned (forcedCall task) now jwks) (.inr rfl)
  simp only [KeyFound, first, forced]

theorem rotates_in_trace (kid : Str) (task : Nat) (trace : List (TaskEvent κ))
    (rotates : Rotates library kid task (own task trace)) : Rotates library kid task trace := by
  have mine (outcome : Outcome κ) := mem_own task trace (.finished task outcome) rfl
  refine ⟨?_, ?_, ?_, ?_, ?_, ?_⟩
  · have calls := rotates.calls
    rwa [filter_own task trace _ (by intro event; cases event <;> simp [isCall, TaskEvent.owner])] at calls
  · have calls := rotates.forcedCalls
    rwa [filter_own task trace _ (by
      intro event
      cases event <;> simp +contextual [isForcedCall, TaskEvent.owner])] at calls
  · intro before after split
    have cut : own task trace = own task before ++ .called task true :: own task after := by
      simp [own, split, TaskEvent.owner]
    obtain ⟨now, jwks, member, unpublished⟩ := rotates.forcedOnMiss _ _ cut
    exact ⟨now, jwks, (mem_own_fetch task before _ (.inl rfl)).mpr member, unpublished⟩
  · intro result member
    rw [rotates.resolved result ((mine _).mp member)]
    exact key_found_own kid task trace _
  · intro key member
    obtain ⟨entry, same, found⟩ := rotates.chosen key ((mine _).mp member)
    exact ⟨entry, same, (key_found_own kid task trace _).mp found⟩
  · intro provider result member
    refine rotates.current ?_ result ((mine _).mp member)
    intro call which
    obtain ⟨unfailed, brought⟩ := provider call which
    refine ⟨?_, ?_⟩
    · intro now failed
      exact unfailed now ((mem_own_fetch task trace (.refreshFailed call now) which).mpr failed)
    · intro now jwks refreshed
      exact brought now jwks ((mem_own_fetch task trace (.refreshed call now jwks) which).mpr refreshed)

end Rotation

end Chassis.Auth
