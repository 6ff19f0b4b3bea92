import Chassis.CacheBackends
import Chassis.Json

set_option autoImplicit false

namespace Chassis.Cache

open Expiry Redis Text Transition

inductive CacheBackend where
  | memory
  | redis
deriving DecidableEq

structure CacheSettings where
  cacheEnabled : Bool
  cacheBackend : CacheBackend
  cacheDefaultTtlSeconds : Int
  cacheMaxEntries : Nat
  cacheKeyPrefix : Str

inductive CacheStore (τ : Type) where
  | memory (store : MemoryCacheStore)
  | redis (store : RedisCacheStore) (database : CacheDatabase τ)

abbrev Answered := (Rat × Call) × Except RedisError Answer

section Store

variable {τ : Type} (longestTtl : Int)

def createCacheStore (settings : CacheSettings) (database : CacheDatabase τ) : CacheStore τ :=
  if settings.cacheBackend = .redis then .redis ⟨settings.cacheKeyPrefix⟩ database
  else .memory (emptyStore settings.cacheMaxEntries)

def cacheStep : CacheStore τ → Rat × Call → CacheStore τ × Except RedisError Answer
  | .memory store, input => (.memory (step store input).1, .ok (step store input).2)
  | .redis store database, input =>
      (.redis store (redisCacheStep longestTtl store database input).1,
        (redisCacheStep longestTtl store database input).2)

def remember (key : Str) (known : Option (Bytes × Rat)) (call : Answered) : Option (Bytes × Rat) :=
  match call.1.2, call.2 with
  | .set other value ttlSeconds, .ok _ => if other = key then some (value, call.1.1 + ttlSeconds) else known
  | .delete other, .ok _ => if other = key then none else known
  | .clear, .ok _ => none
  | _, _ => known

def lastWrite (key : Str) (past : List Answered) : Option (Bytes × Rat) := past.foldl (remember key) none

def Overwrites (key : Str) (call : Answered) : Prop :=
  match call.1.2, call.2 with
  | .set other _ _, .ok _ => other = key
  | .delete other, .ok _ => other = key
  | .clear, .ok _ => True
  | _, _ => False

def Recalls (key : Str) : CacheStore τ → List Answered → Prop
  | .memory store, past => ∀ entry, store.data.get key = some entry → lastWrite key past = some entry
  | .redis store database, past => ∀ entry, database.get (store.prefixed key) = some entry →
      ∃ kept, lastWrite key past = some kept ∧ entry = stored kept

theorem last_write_snoc (key : Str) (past : List Answered) (call : Answered) :
    lastWrite key (past ++ [call]) = remember key (lastWrite key past) call := by
  rw [lastWrite, List.foldl_append]
  rfl

theorem remember_cases (key : Str) (known : Option (Bytes × Rat)) (call : Answered) (entry : Bytes × Rat)
    (after : remember key known call = some entry) :
    (∃ (value : Bytes) (ttlSeconds : Int) (answer : Answer), call = ((call.1.1, .set key value ttlSeconds), .ok answer) ∧
        entry = (value, call.1.1 + ttlSeconds)) ∨
      (known = some entry ∧ ¬ Overwrites key call) := by
  obtain ⟨⟨now, called⟩, answer⟩ := call
  cases answer with
  | error raised => cases called <;> exact .inr ⟨after, id⟩
  | ok answer =>
      cases called with
      | get other => exact .inr ⟨after, id⟩
      | «exists» other => exact .inr ⟨after, id⟩
      | clear => cases after
      | delete other =>
          by_cases same : other = key
          · simp [remember, same] at after
          · simp only [remember, if_neg same] at after
            exact .inr ⟨after, same⟩
      | set other value ttlSeconds =>
          by_cases same : other = key
          · simp only [remember, if_pos same] at after
            exact .inl ⟨value, ttlSeconds, answer, by rw [same], (Option.some.inj after).symm⟩
          · simp only [remember, if_neg same] at after
            exact .inr ⟨after, same⟩

theorem last_write_some (key : Str) (past : List Answered) (entry : Bytes × Rat)
    (written : lastWrite key past = some entry) :
    ∃ (before : List Answered) (now : Rat) (value : Bytes) (ttlSeconds : Int) (answer : Answer) (after : List Answered),
      past = before ++ ((now, .set key value ttlSeconds), .ok answer) :: after ∧ entry = (value, now + ttlSeconds) ∧
        ∀ call ∈ after, ¬ Overwrites key call := by
  induction past using List.reverseRecOn with
  | nil => cases written
  | append_singleton past call ih =>
      rw [last_write_snoc] at written
      rcases remember_cases key _ call entry written with ⟨value, ttlSeconds, answer, same, held⟩ | ⟨known, kept⟩
      · exact ⟨past, call.1.1, value, ttlSeconds, answer, [], by rw [← same], held, by simp⟩
      · obtain ⟨before, now, value, ttlSeconds, answer, after, split, held, unwritten⟩ := ih known
        refine ⟨before, now, value, ttlSeconds, answer, after ++ [call], by simp [split], held, ?_⟩
        intro other member
        cases List.mem_append.mp member with
        | inl earlier => exact unwritten other earlier
        | inr last => exact List.mem_singleton.mp last ▸ kept

theorem recalls_created (settings : CacheSettings) (database : CacheDatabase τ) (key : Str)
    (unwritten : database.get (RedisCacheStore.prefixed ⟨settings.cacheKeyPrefix⟩ key) = none) :
    Recalls key (createCacheStore settings database) [] := by
  unfold createCacheStore
  split
  · intro entry held
    rw [unwritten] at held
    cases held
  · intro entry held
    cases held

theorem memory_recalls (key : Str) (store : MemoryCacheStore) (past : List Answered) (input : Rat × Call)
    (recalls : Recalls key (.memory store : CacheStore τ) past) :
    Recalls key (.memory (step store input).1 : CacheStore τ) (past ++ [(input, .ok (step store input).2)]) := by
  intro entry held
  rw [last_write_snoc]
  obtain ⟨now, call⟩ := input
  have kept (other : Str) (read : (get store now other).1.data.get key = some entry) : store.data.get key = some entry := by
    cases get_shape store now other with
    | inl same => rwa [same] at read
    | inr purged =>
        rw [purged, Dict.get_pop] at read
        split at read
        · cases read
        · exact read
  cases call with
  | get other => exact recalls entry (kept other held)
  | «exists» other => exact recalls entry (kept other held)
  | clear => cases held
  | delete other =>
      simp only [step, delete, Dict.get_pop] at held
      by_cases same : key = other
      · rw [if_pos same] at held
        cases held
      · rw [if_neg same] at held
        simp only [remember, if_neg (Ne.symm same)]
        exact recalls entry held
  | set other value ttlSeconds =>
      simp only [step, set_inserts, insertBounded, Dict.get_set] at held
      by_cases same : key = other
      · rw [if_pos same] at held
        simp only [remember, if_pos same.symm]
        exact held
      · rw [if_neg same] at held
        simp only [remember, if_neg (Ne.symm same)]
        exact recalls entry (make_room_remembers _ _ _ _ _ held)

theorem redis_recalls (key : Str) (store : RedisCacheStore) (database : CacheDatabase τ) (past : List Answered)
    (input : Rat × Call) (recalls : Recalls key (.redis store database) past) :
    Recalls key (.redis store (redisCacheStep longestTtl store database input).1)
      (past ++ [(input, (redisCacheStep longestTtl store database input).2)]) := by
  intro entry held
  rw [last_write_snoc]
  obtain ⟨now, call⟩ := input
  have name (other : Str) (different : key ≠ other) : store.prefixed key ≠ store.prefixed other :=
    fun same => different (prefixed_injective store key other same)
  cases call with
  | get other =>
      have read := recalls entry held
      cases answer : (redisCacheStep longestTtl store database (now, .get other)).2 <;> simpa only [remember] using read
  | «exists» other => exact recalls entry held
  | clear => cases held
  | delete other =>
      simp only [redisCacheStep, RedisCacheStore.delete, Dict.get_pop] at held
      by_cases same : key = other
      · rw [if_pos (congrArg _ same)] at held
        cases held
      · rw [if_neg (name other same)] at held
        simp only [redisCacheStep, remember, if_neg (Ne.symm same)]
        exact recalls entry held
  | set other value ttlSeconds =>
      by_cases taken : 0 < ttlSeconds ∧ ttlSeconds ≤ longestTtl
      · simp only [redisCacheStep, RedisCacheStore.set, if_pos taken, setex, Dict.get_set] at held ⊢
        by_cases same : key = other
        · rw [if_pos (congrArg _ same)] at held
          simp only [remember, if_pos same.symm]
          exact ⟨_, rfl, (Option.some.inj held).symm⟩
        · rw [if_neg (name other same)] at held
          simp only [remember, if_neg (Ne.symm same)]
          exact recalls entry held
      · simp only [redisCacheStep, RedisCacheStore.set, if_neg taken] at held ⊢
        exact recalls entry held

theorem cache_recalls (key : Str) (store : CacheStore τ) (past : List Answered) (input : Rat × Call)
    (recalls : Recalls key store past) :
    Recalls key (cacheStep longestTtl store input).1 (past ++ [(input, (cacheStep longestTtl store input).2)]) := by
  cases store with
  | memory store => exact memory_recalls key store past input recalls
  | redis store database => exact redis_recalls longestTtl key store database past input recalls

theorem found_recalled (store : CacheStore τ) (past : List Answered) (now : Rat) (key : Str) (value : Bytes)
    (recalls : Recalls key store past)
    (found : (cacheStep longestTtl store (now, .get key)).2 = .ok (.value (some value))) :
    ∃ expiry, lastWrite key past = some (value, expiry) ∧ now ≤ expiry := by
  cases store with
  | memory store =>
      have read : (get store now key).2 = some value := by
        simpa only [cacheStep, step, Except.ok.injEq, Answer.value.injEq] using found
      rw [get_answers] at read
      obtain ⟨entry, held, same⟩ := Option.map_eq_some_iff.mp read
      obtain ⟨inside, alive⟩ := (live_get_some now store.data key entry).mp held
      exact ⟨entry.2, by rw [recalls entry inside, ← same], alive.le⟩
  | redis store database =>
      simp only [cacheStep, redisCacheStep, RedisCacheStore.get] at found
      split at found
      · cases found
      next bytes expiry held =>
          cases found
          obtain ⟨inside, alive⟩ := (find_eq_some now database _ _).mp held
          obtain ⟨kept, last, same⟩ := recalls _ inside
          cases same
          exact ⟨kept.2, last, WithTop.coe_le_coe.mp alive⟩
      · cases found

end Store

-- Where a request of get_cached_time is between two of its awaits. A request
-- that ends early while its SETEX is on the way leaves the write behind.
inductive Stage where
  | arrived
  | missed
  | storing (time : Str)
  | orphaned (time : Str)
  | ended
deriving DecidableEq

inductive Turn where
  | lookUp (request : Nat) (now : Rat)
  | readClock (request : Nat) (time : Str)
  | write (request : Nat) (now : Rat)
  | abort (request : Nat)
  | elsewhere (now : Rat) (call : Call)

inductive TimeEvent where
  | called (request : Option Nat) (call : Answered)
  | read (request : Nat) (time : Str)
  | answered (request : Nat) (content : Json)
  | failed (request : Nat)

structure Service (τ : Type) where
  store : CacheStore τ
  stage : Nat → Stage

def cachedTimeKey : Str := "example:current_time".toList

def disabledAnswer (time : Str) : Json :=
  .object [("time".toList, .str time), ("source".toList, .text "live"), ("cache".toList, .text "disabled")]

def cachedAnswer (time : Str) : Json := .object [("time".toList, .str time), ("source".toList, .text "cache")]

def liveAnswer (time : Str) : Json := .object [("time".toList, .str time), ("source".toList, .text "live")]

section Service

variable {τ : Type} (longestTtl : Int) (settings : CacheSettings)

def Service.enter (service : Service τ) (store : CacheStore τ) (request : Nat) (stage : Stage) : Service τ :=
  ⟨store, Function.update service.stage request stage⟩

-- Other code of the application may use the store as well, under other keys.
def Elsewhere : Call → Prop
  | .set key _ _ => key ≠ cachedTimeKey
  | _ => True

instance (call : Call) : Decidable (Elsewhere call) :=
  match call with
  | .set _ _ _ => instDecidableNot
  | .get _ => .isTrue trivial
  | .exists _ => .isTrue trivial
  | .delete _ => .isTrue trivial
  | .clear => .isTrue trivial

def lookUp (service : Service τ) (request : Nat) (now : Rat) : Service τ × List TimeEvent :=
  let input := (now, Call.get cachedTimeKey)
  let (store, answer) := cacheStep longestTtl service.store input
  let looked := TimeEvent.called (some request) (input, answer)
  match answer with
  | .ok (.value (some cached)) =>
      match decodeUtf8 cached with
      | some time => (service.enter store request .ended, [looked, .answered request (cachedAnswer time)])
      | none => (service.enter store request .ended, [looked, .failed request])
  | .ok _ => (service.enter store request .missed, [looked])
  | .error _ => (service.enter store request .ended, [looked, .failed request])

def write (service : Service τ) (request : Nat) (time : Str) (now : Rat) : Service τ × TimeEvent × Bool :=
  let input := (now, Call.set cachedTimeKey (utf8 time) settings.cacheDefaultTtlSeconds)
  let (store, answer) := cacheStep longestTtl service.store input
  (service.enter store request .ended, .called (some request) (input, answer), answer.toBool)

-- get_cached_time in any number of requests, at once and interleaved.
def timeStep (service : Service τ) : Turn → Option (Service τ × List TimeEvent)
  | .lookUp request now =>
      match service.stage request with
      | .arrived => if settings.cacheEnabled then some (lookUp longestTtl service request now) else none
      | _ => none
  | .readClock request time =>
      match service.stage request with
      | .arrived =>
          if settings.cacheEnabled then none
          else some (service.enter service.store request .ended,
            [.read request time, .answered request (disabledAnswer time)])
      | .missed => some (service.enter service.store request (.storing time), [.read request time])
      | _ => none
  | .write request now =>
      match service.stage request with
      | .storing time =>
          let (next, event, stored) := write longestTtl settings service request time now
          some (next, [event, if stored then .answered request (liveAnswer time) else .failed request])
      | .orphaned time =>
          let (next, event, _) := write longestTtl settings service request time now
          some (next, [event])
      | _ => none
  | .abort request =>
      match service.stage request with
      | .arrived => some (service.enter service.store request .ended, [.failed request])
      | .missed => some (service.enter service.store request .ended, [.failed request])
      | .storing time => some (service.enter service.store request (.orphaned time), [.failed request])
      | _ => none
  | .elsewhere now call =>
      if Elsewhere call then
        let (store, answer) := cacheStep longestTtl service.store (now, call)
        some (⟨store, service.stage⟩, [.called none ((now, call), answer)])
      else none

def history (past : List TimeEvent) : List Answered :=
  past.filterMap (fun event => match event with
    | .called _ call => some call
    | _ => none)

def ServedFresh (past : List TimeEvent) (request : Nat) (time : Str) : Prop :=
  ∃ (before after : List TimeEvent) (writer : Nat) (written now : Rat) (answer : Answer),
    past = before ++
        .called (some writer) ((written, .set cachedTimeKey (utf8 time) settings.cacheDefaultTtlSeconds), .ok answer) ::
        after ++ [.called (some request) ((now, .get cachedTimeKey), .ok (.value (some (utf8 time))))] ∧
      now ≤ written + settings.cacheDefaultTtlSeconds ∧ .read writer time ∈ before ∧ writer ≠ request ∧
      ∀ who call, .called who call ∈ after → ¬ Overwrites cachedTimeKey call

def FitsTime (past : List TimeEvent) : TimeEvent → Prop
  | .called who call => ∀ value ttlSeconds, call.1.2 = .set cachedTimeKey value ttlSeconds →
      ∃ request time, who = some request ∧ value = utf8 time ∧ ttlSeconds = settings.cacheDefaultTtlSeconds ∧
        .read request time ∈ past
  | .answered request content => ∃ time,
      (content = cachedAnswer time ∧ ServedFresh settings past request time) ∨
        ((content = liveAnswer time ∨ content = disabledAnswer time) ∧ .read request time ∈ past)
  | _ => True

structure Accounted (past : List TimeEvent) (service : Service τ) : Prop where
  recalls : Recalls cachedTimeKey service.store (history past)
  read : ∀ request time, service.stage request = .storing time ∨ service.stage request = .orphaned time →
    .read request time ∈ past
  unread : ∀ request, service.stage request = .arrived ∨ service.stage request = .missed →
    ∀ time, .read request time ∉ past
  fits : Always (FitsTime settings) past

theorem history_append (past events : List TimeEvent) : history (past ++ events) = history past ++ history events :=
  List.filterMap_append

theorem accounted_enter (past events : List TimeEvent) (service : Service τ) (store : CacheStore τ) (request : Nat)
    (stage : Stage) (accounted : Accounted settings past service) (recalls : Recalls cachedTimeKey store (history (past ++ events)))
    (fits : Always (FitsTime settings) (past ++ events))
    (own : ∀ other time, .read other time ∈ events → other = request)
    (read : ∀ time, stage = .storing time ∨ stage = .orphaned time → .read request time ∈ past ++ events)
    (unread : stage = .missed → ∀ time, .read request time ∉ past ++ events) (left : stage ≠ .arrived) :
    Accounted settings (past ++ events) (service.enter store request stage) := by
  refine ⟨recalls, ?_, ?_, fits⟩
  · intro other time holding
    by_cases same : other = request
    · rw [same] at holding ⊢
      simp only [Service.enter, Function.update_self] at holding
      exact read time holding
    · simp only [Service.enter, Function.update_of_ne same] at holding
      exact List.mem_append_left _ (accounted.read other time holding)
  · intro other waiting time
    by_cases same : other = request
    · rw [same] at waiting ⊢
      simp only [Service.enter, Function.update_self] at waiting
      exact unread (waiting.resolve_left left) time
    · simp only [Service.enter, Function.update_of_ne same] at waiting
      intro member
      cases List.mem_append.mp member with
      | inl earlier => exact accounted.unread other waiting time earlier
      | inr new => exact same (own other time new)

theorem found_served (past : List TimeEvent) (service : Service τ) (request : Nat) (now : Rat) (time : Str)
    (accounted : Accounted settings past service)
    (unread : ∀ time, .read request time ∉ past)
    (found : (cacheStep longestTtl service.store (now, .get cachedTimeKey)).2 = .ok (.value (some (utf8 time)))) :
    ServedFresh settings
      (past ++ [.called (some request) ((now, .get cachedTimeKey), .ok (.value (some (utf8 time))))]) request time := by
  obtain ⟨expiry, last, alive⟩ := found_recalled longestTtl service.store _ now cachedTimeKey _ accounted.recalls found
  obtain ⟨before, written, value, ttlSeconds, answer, after, split, entry, kept⟩ := last_write_some _ _ _ last
  obtain ⟨earlier, rest, whole, _, later⟩ := List.filterMap_eq_append_iff.mp split
  obtain ⟨skipped, event, onward, restSplit, quiet, noted, afterward⟩ := List.filterMap_eq_cons_iff.mp later
  have wrote : ∃ who, event = .called who ((written, .set cachedTimeKey value ttlSeconds), .ok answer) := by
    cases event with
    | called who call => exact ⟨who, by rw [Option.some.inj noted]⟩
    | _ => cases noted
  obtain ⟨who, rfl⟩ := wrote
  have pastSplit : past = (earlier ++ skipped) ++
      .called who ((written, .set cachedTimeKey value ttlSeconds), .ok answer) :: onward := by
    rw [whole, restSplit, List.append_assoc]
  obtain ⟨writer, stored, rfl, rfl, rfl, byWriter⟩ := accounted.fits _ _ _ pastSplit value ttlSeconds rfl
  obtain ⟨sameValue, sameExpiry⟩ := Prod.mk.inj entry
  have sameTime : time = stored := by
    have decoded := congrArg decodeUtf8 sameValue
    rw [decode_utf8, decode_utf8] at decoded
    exact Option.some.inj decoded
  subst sameTime
  refine ⟨earlier ++ skipped, onward, writer, written, now, answer, ?_, ?_, byWriter, ?_, ?_⟩
  · rw [pastSplit]
  · rw [← sameExpiry]
    exact alive
  · intro same
    apply unread time
    rw [pastSplit, ← same]
    exact List.mem_append_left _ byWriter
  · intro other call member
    apply kept call
    rw [← afterward]
    exact List.mem_filterMap.mpr ⟨_, member, rfl⟩

theorem called_recalls (past more : List TimeEvent) (service : Service τ) (who : Option Nat) (input : Rat × Call)
    (recalls : Recalls cachedTimeKey service.store (history past)) (silent : history more = []) :
    Recalls cachedTimeKey (cacheStep longestTtl service.store input).1
      (history (past ++ .called who (input, (cacheStep longestTtl service.store input).2) :: more)) := by
  have noted : history (.called who (input, (cacheStep longestTtl service.store input).2) :: more) =
      [(input, (cacheStep longestTtl service.store input).2)] := congrArg (_ :: ·) silent
  rw [history_append, noted]
  exact cache_recalls longestTtl cachedTimeKey service.store _ input recalls

theorem accounted_end (past events : List TimeEvent) (service : Service τ) (store : CacheStore τ) (request : Nat)
    (accounted : Accounted settings past service) (recalls : Recalls cachedTimeKey store (history (past ++ events)))
    (fits : Always (FitsTime settings) (past ++ events)) (silent : ∀ other time, .read other time ∉ events) :
    Accounted settings (past ++ events) (service.enter store request .ended) := by
  apply accounted_enter settings past events service store request .ended accounted recalls fits
  · intro other time member
    exact absurd member (silent other time)
  · intro time holding
    cases holding <;> contradiction
  · intro missed
    cases missed
  · exact Stage.noConfusion

theorem look_up_accounted (past : List TimeEvent) (service : Service τ) (request : Nat) (now : Rat)
    (accounted : Accounted settings past service) (arrived : service.stage request = .arrived) :
    Accounted settings (past ++ (lookUp longestTtl service request now).2) (lookUp longestTtl service request now).1 := by
  have unread := accounted.unread request (.inl arrived)
  have recalls := fun more silent =>
    called_recalls longestTtl past more service (some request) (now, .get cachedTimeKey) accounted.recalls silent
  have looked : FitsTime settings past (.called (some request) ((now, .get cachedTimeKey),
      (cacheStep longestTtl service.store (now, .get cachedTimeKey)).2)) := by
    intro value ttlSeconds called
    cases called
  have serves := fun time => found_served longestTtl settings past service request now time accounted unread
  unfold lookUp
  cases answer : (cacheStep longestTtl service.store (now, .get cachedTimeKey)).2 with
  | error raised =>
      rw [answer] at recalls looked
      simp only [answer]
      apply accounted_end settings past _ service _ request accounted (recalls _ rfl)
      · exact always_pair _ past _ _ accounted.fits looked trivial
      · simp
  | ok found =>
      rw [answer] at recalls looked
      have missed : Accounted settings (past ++ [.called (some request) ((now, .get cachedTimeKey), .ok found)])
          (service.enter (cacheStep longestTtl service.store (now, .get cachedTimeKey)).1 request .missed) := by
        apply accounted_enter settings past _ service _ request .missed accounted (recalls [] rfl)
        · exact always_snoc _ past _ accounted.fits looked
        · simp
        · simp
        · simpa using unread
        · exact Stage.noConfusion
      cases found with
      | present found => simpa only [answer] using missed
      | done => simpa only [answer] using missed
      | value found =>
          cases found with
          | none => simpa only [answer] using missed
          | some cached =>
              cases decoded : decodeUtf8 cached with
              | none =>
                  simp only [answer, decoded]
                  apply accounted_end settings past _ service _ request accounted (recalls _ rfl)
                  · exact always_pair _ past _ _ accounted.fits looked trivial
                  · simp
              | some time =>
                  have same := utf8_decoded cached time decoded
                  subst same
                  simp only [answer, decoded]
                  apply accounted_end settings past _ service _ request accounted (recalls _ rfl)
                  · exact always_pair _ past _ _ accounted.fits looked ⟨time, .inl ⟨rfl, serves time answer⟩⟩
                  · simp

theorem write_accounted (past : List TimeEvent) (service : Service τ) (request : Nat) (time : Str) (now : Rat)
    (accounted : Accounted settings past service) (read : .read request time ∈ past) (more : List TimeEvent)
    (silent : history more = []) (unread : ∀ other time, .read other time ∉ more)
    (fits : ∀ earlier, .read request time ∈ earlier → Always (FitsTime settings) earlier →
      Always (FitsTime settings) (earlier ++ more)) :
    Accounted settings (past ++ (write longestTtl settings service request time now).2.1 :: more)
      (write longestTtl settings service request time now).1 := by
  apply accounted_end settings past _ service _ request accounted
  · exact called_recalls longestTtl past more service (some request) _ accounted.recalls silent
  · rw [← List.singleton_append, ← List.append_assoc]
    apply fits
    · exact List.mem_append_left _ read
    · apply always_snoc _ past _ accounted.fits
      intro value ttlSeconds called
      cases called
      exact ⟨request, time, rfl, rfl, rfl, read⟩
  · intro other time member
    cases member with
    | tail _ later => exact unread other time later

theorem time_step_accounted (past : List TimeEvent) (service : Service τ) (turn : Turn) (next : Service τ)
    (events : List TimeEvent)
    (accounted : Accounted settings past service)
    (stepped : timeStep longestTtl settings service turn = some (next, events)) :
    Accounted settings (past ++ events) next := by
  have unchanged (more : List TimeEvent) (silent : history more = []) :
      Recalls cachedTimeKey service.store (history (past ++ more)) := by
    rw [history_append, silent, List.append_nil]
    exact accounted.recalls
  have giveUp (request : Nat) : Always (FitsTime settings) (past ++ [.failed request]) :=
    always_snoc _ past _ accounted.fits trivial
  cases turn with
  | lookUp request now =>
      simp only [timeStep] at stepped
      split at stepped
      next arrived =>
          split at stepped
          · have done := look_up_accounted longestTtl settings past service request now accounted arrived
            have both : lookUp longestTtl service request now = (next, events) := Option.some.inj stepped
            rw [both] at done
            exact done
          · cases stepped
      · cases stepped
  | readClock request time =>
      simp only [timeStep] at stepped
      split at stepped
      next arrived =>
          split at stepped
          · cases stepped
          · cases stepped
            apply accounted_enter settings past _ service _ request .ended accounted (unchanged _ rfl)
            · have readIt : FitsTime settings past (.read request time) := trivial
              exact always_pair _ past _ _ accounted.fits readIt ⟨time, .inr ⟨.inr rfl, by simp⟩⟩
            · intro other reading member
              simp at member
              exact member.1
            · intro other holding
              cases holding <;> contradiction
            · intro missed
              cases missed
            · exact Stage.noConfusion
      next missed =>
          cases stepped
          apply accounted_enter settings past _ service _ request (.storing time) accounted (unchanged _ rfl)
          · exact always_snoc _ past _ accounted.fits trivial
          · intro other reading member
            simp at member
            exact member.1
          · intro other holding
            cases holding with
            | inl same =>
                cases same
                simp
            | inr different => cases different
          · intro missed
            cases missed
          · exact Stage.noConfusion
      · cases stepped
  | write request now =>
      simp only [timeStep] at stepped
      split at stepped
      next time storing =>
          cases stepped
          have read := accounted.read request time (.inl storing)
          apply write_accounted longestTtl settings past service request time now accounted read
          · split <;> rfl
          · intro other reading member
            split at member <;> simp at member
          · intro earlier known always
            apply always_snoc _ earlier _ always
            split
            · exact ⟨time, .inr ⟨.inl rfl, known⟩⟩
            · trivial
      next time orphaned =>
          cases stepped
          have read := accounted.read request time (.inr orphaned)
          apply write_accounted longestTtl settings past service request time now accounted read [] rfl (by simp)
          intro earlier _ always
          rwa [List.append_nil]
      · cases stepped
  | abort request =>
      simp only [timeStep] at stepped
      split at stepped
      · cases stepped
        exact accounted_end settings past _ service _ request accounted (unchanged _ rfl) (giveUp request) (by simp)
      · cases stepped
        exact accounted_end settings past _ service _ request accounted (unchanged _ rfl) (giveUp request) (by simp)
      next time storing =>
          cases stepped
          apply accounted_enter settings past _ service _ request (.orphaned time) accounted (unchanged _ rfl)
            (giveUp request)
          · simp
          · intro other holding
            cases holding with
            | inl different => cases different
            | inr same =>
                cases same
                exact List.mem_append_left _ (accounted.read request _ (.inl storing))
          · intro missed
            cases missed
          · exact Stage.noConfusion
      · cases stepped
  | elsewhere now call =>
      simp only [timeStep] at stepped
      split at stepped
      next other =>
          cases stepped
          refine ⟨?_, ?_, ?_, ?_⟩
          · exact called_recalls longestTtl past [] service none (now, call) accounted.recalls rfl
          · intro request time holding
            exact List.mem_append_left _ (accounted.read request time holding)
          · intro request waiting time member
            apply accounted.unread request waiting time
            simpa using member
          · apply always_snoc _ past _ accounted.fits
            intro value ttlSeconds called
            have same : call = .set cachedTimeKey value ttlSeconds := called
            rw [same] at other
            exact absurd rfl other
      · cases stepped

theorem cached_time_fresh (database : CacheDatabase τ) (turns : List Turn) (last : Service τ) (trace : List TimeEvent)
    (unwritten : database.get (RedisCacheStore.prefixed ⟨settings.cacheKeyPrefix⟩ cachedTimeKey) = none)
    (ran : exec (timeStep longestTtl settings) ⟨createCacheStore settings database, fun _ => .arrived⟩ turns =
      some (last, trace)) : Always (FitsTime settings) trace := by
  have start : Accounted settings [] (⟨createCacheStore settings database, fun _ => .arrived⟩ : Service τ) := by
    refine ⟨recalls_created settings database cachedTimeKey unwritten, ?_, ?_, always_nil _⟩
    · intro request time holding
      cases holding <;> contradiction
    · intro request _ time member
      cases member
  have whole := exec_invariant (timeStep longestTtl settings) (Accounted settings)
    (time_step_accounted longestTtl settings) _ last [] trace turns start ran
  exact whole.fits

end Service

def memorySettings : CacheSettings := ⟨true, .memory, 300, 10, "cache:".toList⟩

def twoRequests : List Turn := [.lookUp 0 0, .lookUp 1 1, .readClock 0 ['t'], .write 0 2, .abort 1, .lookUp 2 3]

def answeredRequest : TimeEvent → Option Nat
  | .answered request _ => some request
  | _ => none

theorem cached_time_fresh_two :
    ∃ (last : Service Unit) (trace : List TimeEvent),
      exec (timeStep 86400 memorySettings) ⟨createCacheStore memorySettings Dict.empty, fun _ => .arrived⟩ twoRequests =
          some (last, trace) ∧
        trace.filterMap answeredRequest = [0, 2] ∧ Always (FitsTime memorySettings) trace :=
  ⟨_, _, rfl, by decide +kernel,
    cached_time_fresh 86400 memorySettings Dict.empty twoRequests _ _ rfl rfl⟩

end Chassis.Cache
