import Chassis.SecurityHeaders
import Chassis.TracingIds

set_option autoImplicit false

namespace Chassis.Headers

open Asgi Security Text Tracing

-- Each of the lines is there once under its name, and under every other name
-- nothing has changed.
structure Stamped (lines : List (Bytes × Bytes)) (old new : RawHeaders) : Prop where
  once : ∀ line ∈ lines, named line.1 new = [line.2]
  kept : ∀ name, (∀ line ∈ lines, lower line.1 ≠ lower name) → named name new = named name old

-- Names are in lower case, as a server expects them; only the tracing ids may
-- be written otherwise, and each comes at most once.
structure Proper (headers : RawHeaders) : Prop where
  lowered : ∀ line ∈ headers, lower line.1 = line.1 ∨ lower line.1 = lower headerName ∨
    lower line.1 = lower correlationHeaderName
  single : Single headers

theorem lower_lower (raw : Bytes) : lower (lower raw) = lower raw := by
  simp only [lower, List.map_map]
  apply List.map_congr_left
  intro byte _
  simp only [Function.comp_apply]
  by_cases upper : 65 ≤ byte ∧ byte ≤ 90
  · rw [if_pos upper, if_neg]
    have bounds : 65 ≤ byte.toNat ∧ byte.toNat ≤ 90 := upper
    intro again
    have sum : (byte + 32).toNat = byte.toNat + 32 := by
      rw [UInt8.toNat_add]
      have thirtyTwo : (32 : UInt8).toNat = 32 := rfl
      rw [thirtyTwo]
      omega
    have high : (byte + 32).toNat ≤ 90 := again.2
    omega
  · rw [if_neg upper, if_neg upper]

theorem stamped_nil (headers : RawHeaders) : Stamped [] headers headers :=
  ⟨fun _ member => absurd member List.not_mem_nil, fun _ _ => rfl⟩

theorem stamped_trans (first second : List (Bytes × Bytes)) (old middle new : RawHeaders)
    (early : Stamped first old middle) (late : Stamped second middle new)
    (apart : ∀ one ∈ first, ∀ other ∈ second, lower other.1 ≠ lower one.1) : Stamped (first ++ second) old new := by
  constructor
  · intro line member
    cases List.mem_append.mp member with
    | inl inFirst => rw [late.kept line.1 (fun other found => apart line inFirst other found), early.once line inFirst]
    | inr inSecond => exact late.once line inSecond
  · intro name other
    rw [late.kept name (fun line found => other line (List.mem_append_right _ found)),
      early.kept name (fun line found => other line (List.mem_append_left _ found))]

theorem assign_named_other (key value name : Bytes) (headers : RawHeaders) (different : lower key ≠ lower name) :
    named name (assign key value headers) = named name headers := by
  have filtered (rest : RawHeaders) : named name (rest.filter (fun other => other.1 ≠ key)) = named name rest := by
    rw [named, named, List.filter_filter]
    congr 1
    apply List.filter_congr
    intro line _
    by_cases same : lower line.1 = lower name
    · have other : line.1 ≠ key := fun eq => different (eq ▸ same)
      simp [same, other]
    · simp [same]
  induction headers with
  | nil => rw [assign, named_cons, if_neg different]
  | cons line rest ih =>
      rw [assign]
      by_cases same : line.1 = key
      · rw [if_pos same, named_cons, if_neg different, filtered, named_cons, if_neg (same ▸ different)]
      · rw [if_neg same, named_cons, named_cons, ih]

theorem named_absent (name : Bytes) (headers : RawHeaders) (absent : ∀ line ∈ headers, lower line.1 ≠ lower name) :
    named name headers = [] := by
  rw [named, List.map_eq_nil_iff, List.filter_eq_nil_iff]
  intro line member
  simpa using absent line member

theorem named_distinct (lines : RawHeaders) (distinct : (lines.map (fun line => lower line.1)).Nodup)
    (line : Bytes × Bytes) (member : line ∈ lines) : named line.1 lines = [line.2] := by
  induction lines with
  | nil => cases member
  | cons first rest ih =>
      obtain ⟨alone, onward⟩ := List.nodup_cons.mp distinct
      rw [named_cons]
      cases List.mem_cons.mp member with
      | inl same =>
          rw [same, if_pos rfl, named_absent]
          intro other found equal
          exact alone (List.mem_map.mpr ⟨other, found, equal⟩)
      | inr later =>
          have apart : lower first.1 ≠ lower line.1 := fun equal => alone (List.mem_map.mpr ⟨line, later, equal.symm⟩)
          rw [if_neg apart]
          exact ih onward later

theorem assign_named_self (key value : Bytes) (headers : RawHeaders)
    (spelled : ∀ line ∈ headers, lower line.1 = lower key → line.1 = key) :
    named key (assign key value headers) = [value] := by
  induction headers with
  | nil => rw [assign, named_cons, if_pos rfl, named_nil]
  | cons line rest ih =>
      rw [assign]
      by_cases same : line.1 = key
      · rw [if_pos same, named_cons, if_pos rfl, named_absent]
        intro other member equal
        obtain ⟨inside, different⟩ := List.mem_filter.mp member
        exact (of_decide_eq_true different) (spelled other (List.mem_cons_of_mem _ inside) equal)
      · have other : lower line.1 ≠ lower key := fun equal => same (spelled line (List.mem_cons_self ..) equal)
        rw [if_neg same, named_cons, if_neg other]
        exact ih (fun later member => spelled later (List.mem_cons_of_mem _ member))

theorem assign_stamped (key value : Bytes) (headers : RawHeaders)
    (spelled : ∀ line ∈ headers, lower line.1 = lower key → line.1 = key) :
    Stamped [(key, value)] headers (assign key value headers) := by
  constructor
  · intro line member
    rw [List.mem_singleton.mp member]
    exact assign_named_self key value headers spelled
  · intro name other
    exact assign_named_other key value name headers (other (key, value) (List.mem_singleton_self _))

theorem assign_members (key value : Bytes) (headers : RawHeaders) :
    ∀ line ∈ assign key value headers, line = (key, value) ∨ line ∈ headers := by
  induction headers with
  | nil => exact fun line member => .inl (List.mem_singleton.mp member)
  | cons first rest ih =>
      intro line member
      rw [assign] at member
      by_cases same : first.1 = key
      · rw [if_pos same] at member
        cases List.mem_cons.mp member with
        | inl new => exact .inl new
        | inr kept => exact .inr (List.mem_cons_of_mem _ (List.mem_filter.mp kept).1)
      · rw [if_neg same] at member
        cases List.mem_cons.mp member with
        | inl this => exact .inr (this ▸ List.mem_cons_self ..)
        | inr later => exact (ih line later).imp_right (List.mem_cons_of_mem _)

theorem upsert_members (headers : RawHeaders) (key value : Bytes) :
    ∀ line ∈ upsertHeader headers key value, lower line.1 = lower key ∨ line ∈ headers := by
  induction headers with
  | nil => exact fun line member => .inl (congrArg (fun found => lower found.1) (List.mem_singleton.mp member))
  | cons first rest ih =>
      obtain ⟨name, old⟩ := first
      intro line member
      rw [upsertHeader] at member
      by_cases same : lower name = lower key
      · rw [if_pos same] at member
        cases List.mem_cons.mp member with
        | inl new => exact .inl (new ▸ same)
        | inr kept => exact .inr (List.mem_cons_of_mem _ kept)
      · rw [if_neg same] at member
        cases List.mem_cons.mp member with
        | inl this => exact .inr (this ▸ List.mem_cons_self ..)
        | inr later => exact (ih line later).imp_right (List.mem_cons_of_mem _)

def IsIdName (name : Bytes) : Prop := lower name = lower headerName ∨ lower name = lower correlationHeaderName

instance (name : Bytes) : Decidable (IsIdName name) := inferInstanceAs (Decidable (_ ∨ _))

theorem assign_proper (key value : Bytes) (headers : RawHeaders) (proper : Proper headers) (lowerCase : lower key = key)
    (other : ¬ IsIdName key) : Proper (assign key value headers) ∧ Stamped [(key, value)] headers (assign key value headers) := by
  have request : lower key ≠ lower headerName := fun same => other (.inl same)
  have correlation : lower key ≠ lower correlationHeaderName := fun same => other (.inr same)
  refine ⟨⟨?_, ?_⟩, ?_⟩
  · intro line member
    cases assign_members key value headers line member with
    | inl new => exact .inl (new ▸ lowerCase)
    | inr old => exact proper.lowered line old
  · rw [Single, assign_named_other key value _ headers request, assign_named_other key value _ headers correlation]
    exact proper.single
  · apply assign_stamped
    intro line member same
    rcases proper.lowered line member with plain | isRequest | isCorrelation
    · rw [← plain, same, lowerCase]
    · exact absurd (same.symm.trans isRequest) request
    · exact absurd (same.symm.trans isCorrelation) correlation

def lineOf (line : String × Str) : Bytes × Bytes := (lower (ascii line.1), (encodeLatin1 line.2).getD [])

theorem set_all_stamped (lines : List (String × Str)) (headers secured : RawHeaders) (proper : Proper headers)
    (distinct : (lines.map (fun line => lower (ascii line.1))).Nodup) (others : ∀ line ∈ lines, ¬ IsIdName (ascii line.1))
    (done : setAll lines headers = some secured) : Proper secured ∧ Stamped (lines.map lineOf) headers secured := by
  induction lines generalizing headers with
  | nil =>
      cases done
      exact ⟨proper, stamped_nil _⟩
  | cons first rest ih =>
      obtain ⟨next, set, later⟩ := Option.bind_eq_some_iff.mp done
      obtain ⟨encoded, fits, assigned⟩ := Option.map_eq_some_iff.mp set
      obtain ⟨alone, onward⟩ := List.nodup_cons.mp distinct
      have notId : ¬ IsIdName (lower (ascii first.1)) := by
        rw [IsIdName, lower_lower]
        exact others first (List.mem_cons_self ..)
      obtain ⟨nextProper, stamped⟩ := assign_proper _ encoded headers proper (lower_lower _) notId
      rw [assigned] at nextProper stamped
      obtain ⟨lastProper, more⟩ := ih next nextProper onward (fun line member => others line (List.mem_cons_of_mem _ member))
        later
      refine ⟨lastProper, ?_⟩
      have same : lineOf first = (lower (ascii first.1), encoded) := by rw [lineOf, fits, Option.getD_some]
      rw [List.map_cons, ← List.singleton_append, same]
      apply stamped_trans _ _ headers next secured stamped more
      intro one member other found equal
      rw [List.mem_singleton.mp member] at equal
      obtain ⟨line, inside, rfl⟩ := List.mem_map.mp found
      apply alone
      rw [lineOf, lower_lower, lower_lower] at equal
      exact List.mem_map.mpr ⟨line, inside, equal⟩

def idLines (ids : TraceIds) : List (Bytes × Bytes) :=
  [(headerName, utf8 ids.requestId), (correlationHeaderName, utf8 ids.correlationId)]

theorem stamp_proper (ids : TraceIds) (status : Nat) (headers : RawHeaders) (proper : Proper headers) :
    ∃ stamped, stamp ids (.responseStart status headers) = .responseStart status stamped ∧ Proper stamped ∧
      Stamped (idLines ids) headers stamped := by
  obtain ⟨stamped, same, request, correlation⟩ := stamp_start ids status headers
  have one : named headerName stamped = [utf8 ids.requestId] := by
    rw [request, (tail_of_short _ headers).mpr proper.single.1]
  have two : named correlationHeaderName stamped = [utf8 ids.correlationId] := by
    rw [correlation, (tail_of_short _ headers).mpr proper.single.2]
  have made : stamped = upsertHeader (upsertHeader headers headerName (utf8 ids.requestId)) correlationHeaderName
      (utf8 ids.correlationId) := by
    cases same
    rfl
  refine ⟨stamped, same, ⟨?_, ?_⟩, ⟨?_, ?_⟩⟩
  · intro line member
    rw [made] at member
    rcases upsert_members _ _ _ line member with isCorrelation | member
    · exact .inr (.inr isCorrelation)
    rcases upsert_members _ _ _ line member with isRequest | member
    · exact .inr (.inl isRequest)
    · exact proper.lowered line member
  · rw [Single, one, two]
    exact ⟨le_rfl, le_rfl⟩
  · intro line member
    simp only [idLines, List.mem_cons, List.not_mem_nil, or_false] at member
    rcases member with rfl | rfl
    · exact one
    · exact two
  · intro name other
    have request := other (headerName, utf8 ids.requestId) (by simp [idLines])
    have correlation := other (correlationHeaderName, utf8 ids.correlationId) (by simp [idLines])
    rw [made, upsert_other _ _ _ _ correlation, upsert_other _ _ _ _ request]

end Chassis.Headers
