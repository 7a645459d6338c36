import Toolbench.Environment.Basic
import Toolbench.Invocation.Body
import Toolbench.Invocation.Header
import Toolbench.Json.Parser
import Toolbench.Tool.Handler
import Toolbench.Url.Parser

/-!
# Web requests

A request is made from a handler and prepared arguments.  References to the
environment are expanded in the templates before arguments are filled in, so that no
argument can name a variable; in the address, arguments are percent-encoded.
-/

namespace Toolbench

/-- A request with every template filled. -/
structure Request where
  method : String
  url : Url
  headers : Headers
  body : Option String

namespace Request

inductive Fault where
  | method
  | pathValue (value : String)
  | url (text : String) (fault : Url.Fault)
  | headerName (name : String)
  | headerValue (name : String)
deriving DecidableEq

def Fault.message : Fault → String
  | method => "invalid method: invalid HTTP method"
  | pathValue value => "'" ++ value ++ "' is not a valid path value"
  | url text fault => "invalid URL '" ++ text ++ "': " ++ fault.message
  | headerName name => "invalid header '" ++ name ++ "': invalid HTTP header name"
  | headerValue name =>
      "invalid value for header '" ++ name ++ "': failed to parse header value"

def endsPath (c : Char) : Bool :=
  c = '?' || c = '#'

/-- An argument as an address holds it; one that would be a dot segment is refused in the path. -/
def urlImage (before : List Char) (value : Option Json) : Except Fault (List Char) :=
  let text := Template.argumentText value
  if !before.any endsPath && (text = ['.'] || text = ['.', '.']) then
    .error (.pathValue (String.ofList text))
  else .ok (Text.Percent.encode Text.Percent.isUnreserved text)

def urlText (template : String) (arguments : Arguments) : Except Fault String :=
  Template.renderWith urlImage template arguments

def renderUrl (environment : Environment) (template : String) (arguments : Arguments) :
    Except Fault Url := do
  let text ← urlText (environment.expand template) arguments
  match Url.parse text with
  | .ok url => .ok url
  | .error fault => .error (.url text fault)

def headerText (environment : Environment) (template : String) (arguments : Arguments) : String :=
  Template.render (environment.expand template) arguments

/-- Fills header templates in order; a later one takes the place of an earlier one of its name. -/
def renderHeaders (environment : Environment) (arguments : Arguments) (headers : Headers) :
    List (String × String) → Except Fault Headers
  | [] => .ok headers
  | (written, template) :: rest =>
      let value := headerText environment template arguments
      match Header.name? written with
      | none => .error (.headerName written)
      | some name =>
          if Header.isValue value then
            renderHeaders environment arguments (headers.set name value) rest
          else .error (.headerValue name)

def isJson (text : String) : Bool :=
  match Json.parse text with
  | .ok _ => true
  | .error _ => false

/-- The headers of a request with the given body, which is marked if it is JSON. -/
def markJson (headers : Headers) (body : Option String) : Headers :=
  match body with
  | some text =>
      if !headers.has "content-type" && isJson text then
        headers.set "content-type" "application/json"
      else headers
  | none => headers

def render (environment : Environment) (handler : HttpHandler) (arguments : Arguments) :
    Except Fault Request := do
  if !Header.isToken handler.method then throw .method
  let url ← renderUrl environment handler.url arguments
  let headers ← renderHeaders environment arguments [] handler.headers
  let body := handler.body.map fun template => Body.render template arguments
  .ok { method := handler.method, url, headers := markJson headers body, body }

end Request

end Toolbench
