import Chassis.Asgi
import Chassis.ClaimErrors
import Chassis.JsonRender

set_option autoImplicit false

namespace Chassis.Errors

open Asgi JsonRender JsonText

def inputKey : PyKey := .text "input"

def withoutInput (members : List (PyKey × PyValue)) : List (PyKey × PyValue) :=
  members.filter (fun member => member.1 ≠ inputKey)

-- One round of the loop over the errors; what is no dict is passed over.
def sanitizeError : PyValue → Option PyValue
  | .dict members => some (.dict (withoutInput members))
  | _ => none

def sanitizeValidationErrors (errors : List PyValue) : List PyValue := errors.filterMap sanitizeError

section Handler

variable (interpreter : Interpreter)

def validationContent (detail : List PyValue) (path : Str) : PyValue :=
  .dict [(.text "error", .text "validation_error"), (.text "detail", .list detail),
    (.text "path", .str (points path))]

-- The warning is logged before; logging keeps its own failures to itself.
def validationExceptionHandler (scope : Scope) (errors : List PyValue) :
    Except RenderError (RenderedResponse interpreter) :=
  jsonResponse interpreter 422 (validationContent (sanitizeValidationErrors errors) (getSanitizedScopePath scope))

def Reports (scope : Scope) (errors : List (List (PyKey × PyValue))) (response : RenderedResponse interpreter) : Prop :=
  response.statusCode = 422 ∧
    response.content = validationContent (errors.map (fun error => .dict (withoutInput error))) (getSanitizedScopePath scope)

theorem sanitize_dicts (errors : List (List (PyKey × PyValue))) :
    sanitizeValidationErrors (errors.map .dict) = errors.map (fun error => .dict (withoutInput error)) := by
  induction errors with
  | nil => rfl
  | cons error rest ih =>
      rw [List.map_cons, List.map_cons, ← ih]
      rfl

theorem without_input_members (members : List (PyKey × PyValue)) (holds : PyKey × PyValue → Prop) :
    (∀ member ∈ withoutInput members, holds member) ↔ ∀ member ∈ members, member.1 ≠ inputKey → holds member := by
  simp only [withoutInput, List.mem_filter, decide_eq_true_eq, and_imp]

theorem content_renderable (detail : List PyValue) (path : Str) (depth : Nat) :
    Renderable interpreter (depth + 2) (validationContent detail path) ↔
      ∀ error ∈ detail, Renderable interpreter depth error := by
  have pathText : Renderable interpreter (depth + 1) (.str (points path)) := points_encodable path
  have items : Renderable interpreter (depth + 1) (.list detail) ↔ ∀ error ∈ detail, Renderable interpreter depth error := by
    rw [Renderable]
  rw [validationContent, renderable_dict]
  simp [literal_key, literal_value, pathText, items]

theorem handler_answers_iff (depth : Nat) (room : interpreter.nesting = depth + 3) (scope : Scope)
    (errors : List (List (PyKey × PyValue))) :
    (∃ response, validationExceptionHandler interpreter scope (errors.map .dict) = .ok response) ↔
      ∀ error ∈ errors, ∀ member ∈ error, member.1 ≠ inputKey →
        KeyRenderable interpreter member.1 ∧ Renderable interpreter depth member.2 := by
  rw [validationExceptionHandler, json_response_built_iff, room, content_renderable, sanitize_dicts, List.forall_mem_map]
  simp only [renderable_dict, without_input_members]

theorem exception_context_raises (depth : Nat) (room : interpreter.nesting = depth + 3) (scope : Scope)
    (errors : List (List (PyKey × PyValue))) (error context : List (PyKey × PyValue)) (member : error ∈ errors)
    (carried : (.text "ctx", .dict context) ∈ error) (raised : (.text "error", .object .exception) ∈ context) :
    ∃ failure, validationExceptionHandler interpreter scope (errors.map .dict) = .error failure := by
  cases answered : validationExceptionHandler interpreter scope (errors.map .dict) with
  | error failure => exact ⟨failure, rfl⟩
  | ok response =>
      have renderable := (handler_answers_iff interpreter depth room scope errors).mp ⟨response, answered⟩
      have kept : PyKey.text "ctx" ≠ inputKey := by decide
      have nested := (renderable error member _ carried kept).2
      cases depth with
      | zero => cases nested
      | succ inner => exact absurd (nested _ raised).2 (object_unrenderable interpreter inner .exception)

theorem validation_reported_iff (depth : Nat) (room : interpreter.nesting = depth + 3) (scope : Scope)
    (errors : List (List (PyKey × PyValue))) :
    (∃ response, validationExceptionHandler interpreter scope (errors.map .dict) = .ok response ∧
        Reports interpreter scope errors response) ↔
      ∀ error ∈ errors, ∀ member ∈ error, member.1 ≠ inputKey →
        KeyRenderable interpreter member.1 ∧ Renderable interpreter depth member.2 := by
  rw [← handler_answers_iff interpreter depth room scope errors]
  constructor
  · rintro ⟨response, answered, _⟩
    exact ⟨response, answered⟩
  · rintro ⟨response, answered⟩
    obtain ⟨status, content⟩ := json_response_ok interpreter _ _ response answered
    rw [sanitize_dicts] at content
    exact ⟨response, answered, status, content⟩

end Handler

def valueError : List (PyKey × PyValue) :=
  [(.text "type", .text "value_error"), (.text "loc", .list [.text "body", .text "name"]),
    (.text "msg", .text "Value error, bad"), (.text "input", .text "secret"),
    (.text "ctx", .dict [(.text "error", .object .exception)])]

theorem validation_reported_iff_value_error :
    (∃ response, validationExceptionHandler Auth.cpython ⟨.http, none, none, [], none⟩ ([valueError].map .dict) =
        .ok response ∧ Reports Auth.cpython ⟨.http, none, none, [], none⟩ [valueError] response) ↔
      ∀ error ∈ [valueError], ∀ member ∈ error, member.1 ≠ inputKey →
        KeyRenderable Auth.cpython member.1 ∧ Renderable Auth.cpython 997 member.2 :=
  validation_reported_iff Auth.cpython 997 rfl ⟨.http, none, none, [], none⟩ [valueError]

theorem value_error_raises :
    validationExceptionHandler Auth.cpython ⟨.http, none, none, [], none⟩ ([valueError].map .dict) = .error .typeError ∧
    ¬ ∃ response, validationExceptionHandler Auth.cpython ⟨.http, none, none, [], none⟩ ([valueError].map .dict) =
        .ok response ∧ Reports Auth.cpython ⟨.http, none, none, [], none⟩ [valueError] response := by
  have raised : validationExceptionHandler Auth.cpython ⟨.http, none, none, [], none⟩ ([valueError].map .dict) =
      .error .typeError := by
    rfl
  refine ⟨raised, ?_⟩
  rintro ⟨response, answered, _⟩
  rw [raised] at answered
  cases answered

end Chassis.Errors
