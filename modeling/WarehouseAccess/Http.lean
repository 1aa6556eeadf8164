import WarehouseAccess.Json.Syntax
import WarehouseAccess.Text.Editing
/-!
# Requests and responses

What goes to a web service and what comes back.  Header names are compared without regard to letter
case, and of a repeated header the last counts.
-/

namespace WarehouseAccess

/-- The methods in use. -/
inductive HttpMethod where
  | get
  | post
  | patch
deriving DecidableEq, Repr

/-- The name of a method. -/
def HttpMethod.text : HttpMethod → String
  | get => "GET"
  | post => "POST"
  | patch => "PATCH"

/-- A request with an optional JSON body. -/
structure HttpRequest where
  method : HttpMethod
  url : String
  body : Option Json := none
deriving Repr

namespace HttpRequest

/-- A request for what stands at an address. -/
def get (url : String) : HttpRequest := ⟨.get, url, none⟩

/-- A request that makes something new. -/
def post (url : String) (body : Json) : HttpRequest := ⟨.post, url, some body⟩

/-- A request that changes something. -/
def patch (url : String) (body : Json) : HttpRequest := ⟨.patch, url, some body⟩

end HttpRequest

/-- A response. -/
structure HttpResponse where
  status : Nat
  headers : List (String × String)
  body : String
deriving DecidableEq, Repr

/-- What comes back: a response, or nothing because the request failed on the way. -/
inductive HttpReply where
  | response (r : HttpResponse)
  | failure (reason : String)
deriving DecidableEq, Repr

/-- A header name in lower case. -/
def headerKey (name : String) : String := String.ofList (name.toList.map Char.toLower)

namespace HttpResponse

/-- The value of a header. -/
def header (r : HttpResponse) (name : String) : Option String :=
  ((r.headers.reverse.find? fun h => headerKey h.1 == headerKey name)).map Prod.snd

/-- The status says that the request was carried out. -/
def isSuccess (r : HttpResponse) : Bool := 200 ≤ r.status && r.status < 300

/-- The body as JSON; a blank body is null. -/
def json? (r : HttpResponse) : Option Json :=
  if isBlankText r.body then some .null else Json.parse r.body

end HttpResponse

end WarehouseAccess
