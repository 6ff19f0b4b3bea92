import Chassis.Json

set_option autoImplicit false

namespace Chassis.Asgi

open Text

abbrev RawHeaders := List (Bytes × Bytes)

inductive ScopeType where
  | http
  | websocket
  | lifespan
deriving DecidableEq, Repr

-- The connection scope, restricted to the entries that the modelled code reads.
-- An optional field is a key the server may leave out.
structure Scope where
  type : ScopeType
  path : Option Str := none
  rootPath : Option Str := none
  headers : RawHeaders := []
  client : Option (Str × Nat) := none

inductive Message where
  | httpRequest (body : Option Bytes) (moreBody : Option Bool)
  | httpDisconnect
  | responseStart (status : Nat) (headers : RawHeaders)
  | responseBody (body : Option Bytes) (moreBody : Option Bool)
  | other (type : Str)
deriving DecidableEq, Repr

-- starlette.datastructures.Headers.get: the first line with that name, decoded.
-- Raw names are lower case, and so is every name the callers look up.
def headersGet (headers : RawHeaders) (name : Str) : Option Str :=
  (headers.find? (fun line => latin1 line.1 = name)).map (fun line => latin1 line.2)

-- get_sanitized_scope_path; an empty value counts as missing.
def getSanitizedScopePath (scope : Scope) : Str :=
  let path := scope.path.getD []
  scope.rootPath.getD [] ++ (if path = [] then ['/'] else path)

-- starlette.responses.JSONResponse before it is sent. How the body is rendered
-- and which headers are added to the given ones belongs to the writer.
structure JsonResponse where
  statusCode : Nat
  content : Json
  headers : List (Str × Str) := []

structure ResponseWriter where
  rawHeaders : JsonResponse → RawHeaders
  render : JsonResponse → Bytes

def ResponseWriter.messages (writer : ResponseWriter) (response : JsonResponse) : List Message :=
  [.responseStart response.statusCode (writer.rawHeaders response), .responseBody (some (writer.render response)) none]

inductive Raised where
  | requestTooLarge
  | timeout
  | cancelled
  | other (name : Str)
deriving DecidableEq, Repr

-- What an application does next: it waits for a message (or for the exception
-- that receive raises), sends one, returns, or raises.
inductive AppAction (σ : Type) where
  | receive (resume : Except Raised Message → σ)
  | send (message : Message) (next : σ)
  | finish
  | fail (error : Raised)

abbrev App (σ : Type) := σ → AppAction σ

end Chassis.Asgi
