import Toolbench.Adapter.Host
import Toolbench.Conversation.Backend
import Toolbench.Json.Parser
import Toolbench.Url.Endpoint

/-!
# Chat completions

The backend that holds a conversation over the web: each reply is asked for by
sending the whole conversation and the tools to the address of the completions.
-/

namespace Toolbench

structure Completions where
  endpoint : String
  model : String
  /-- The key that the service asks for. -/
  apiKey : Option String := none
  keyed : apiKey.all fun key => Header.isValue ("Bearer " ++ key)

namespace Completions

open Adapter

variable {ω : Type}

/-- A service, unless its key cannot stand in a header. -/
def ofKey (endpoint model : String) (apiKey : Option String) :
    Except ClientFault Completions :=
  if keyed : apiKey.all fun key => Header.isValue ("Bearer " ++ key) then
    .ok { endpoint, model, apiKey, keyed }
  else
    .error (.connection "Invalid authorization header: failed to parse header value")

def modelsAddress (service : Completions) : String :=
  let address := service.endpoint.toList
  let base :=
    if Endpoint.completions.isSuffixOf address then
      address.take (address.length - Endpoint.completions.length)
    else address
  String.ofList (Endpoint.trimSlashes base) ++ "/models"

def headers (service : Completions) : Headers :=
  let typed := Headers.set "content-type" "application/json" []
  match service.apiKey with
  | some key => typed.set "authorization" ("Bearer " ++ key)
  | none => typed

def send (service : Completions) (host : Host ω) (method address : String)
    (body : Option String) : StateM ω (Except SendFault HttpAnswer) := do
  match Url.parse address with
  | .error _ => return .error .noAddress
  | .ok url =>
      match ← host.deliver { method, url, headers := service.headers, body } none with
      | .answered answer => return .ok answer
      | .failed fault => return .error fault
      | .timedOut => return .error (.unsent url)

def statusPhrases : List (Nat × String) :=
  [(401, "Unauthorized"), (403, "Forbidden"), (500, "Internal Server Error"),
    (501, "Not Implemented"), (502, "Bad Gateway"), (503, "Service Unavailable"),
    (504, "Gateway Timeout"), (505, "HTTP Version Not Supported"),
    (506, "Variant Also Negotiates"), (507, "Insufficient Storage"), (508, "Loop Detected"),
    (510, "Not Extended"), (511, "Network Authentication Required")]

def statusText (status : Nat) : String :=
  toString status ++ " " ++ (statusPhrases.lookup status).getD "<unknown status code>"

/-- Whether an answer to the list of models lets a conversation start. -/
def checkStatus (address : String) (status : Nat) : Except ClientFault Unit :=
  if status = 401 ∨ status = 403 then
    .error (.connection
      (address ++ " rejected the API key (status " ++ statusText status ++ ")"))
  else if 500 ≤ status ∧ status < 600 then
    .error (.connection
      (address ++ " is unavailable (status " ++ statusText status ++ ")"))
  else .ok ()

/-- Asks for the list of models, which shows whether the service can be used. -/
def connect (service : Completions) (host : Host ω) : StateM ω (Except ClientFault Unit) := do
  let address := service.modelsAddress
  match ← service.send host "GET" address none with
  | .error fault => return .error (.connection (address ++ ": " ++ fault.message))
  | .ok answer => return checkStatus address answer.status

def requestBody (service : Completions) (messages : List Message)
    (tools : List FunctionEntry) : Json :=
  .object ([
    ("model", .string service.model),
    ("messages", .array (messages.map Message.toJson)),
    ("stream", .bool false)] ++
    if tools.isEmpty then [] else [("tools", .array (tools.map FunctionEntry.toJson))])

def jsonBody? (body : Option Text.Bytes) : Option Json := do
  let text ← Text.Utf8.decode? (← body)
  (Json.parse text).toOption

def replyOf (answer : HttpAnswer) : Except ClientFault Reply :=
  if answer.status < 200 ∨ 300 ≤ answer.status then
    let text := (answer.body.map Text.Utf8.decodeLossy).getD "Unknown error"
    .error (.backend ("API error (status " ++ toString answer.status ++ "): " ++ text))
  else
    match jsonBody? answer.body with
    | none => .error (.backend ("Invalid response body: " ++ SendFault.brokenBody.message))
    | some body =>
        match Reply.ofCompletion body with
        | .ok reply => .ok reply
        | .error fault => .error (.backend fault.message)

def complete (service : Completions) (host : Host ω) (messages : List Message)
    (tools : List FunctionEntry) : StateM ω (Except ClientFault Reply) := do
  let body := (service.requestBody messages tools).write
  match ← service.send host "POST" service.endpoint (some body) with
  | .error fault => return .error (.backend ("Network error: " ++ fault.message))
  | .ok answer => return replyOf answer

def backend (service : Completions) (host : Host ω) : Backend ω where
  connect := service.connect host
  complete := service.complete host

end Completions

end Toolbench
