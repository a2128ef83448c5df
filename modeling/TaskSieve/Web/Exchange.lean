import TaskSieve.Url.Address
import TaskSieve.Web.Status

/-!
# Requests and responses

A server answers each request by itself.  A server of rules answers with the
first rule whose path begins the target of the request.
-/

namespace TaskSieve.Web

/-- A request for a resource. -/
structure Request where
  url : Url
  apiKey : Option String := none
  userAgent : Option String := none
  deriving DecidableEq, Repr

/-- A response. -/
structure Response where
  status : Nat
  body : ByteArray := .empty
  /-- Whether the whole body arrived. -/
  complete : Bool := true

/-- Whoever answers requests.  A failure is one of the connection. -/
abbrev Server := Request → Except String Response

/-- A rule of a server: what it answers to targets that begin with a path. -/
structure Rule where
  path : String := "/"
  response : Response

/-- The response that reaches whoever asked: without a body where there is
none. -/
def Response.received (response : Response) : Response :=
  if hasNoBody response.status then { status := response.status } else response

/-- A server that follows rules and finds nothing where none applies. -/
def Server.ofRules (rules : List Rule) : Server := fun request =>
  let applies (rule : Rule) : Bool :=
    rule.path.toList.isPrefixOf request.url.target.toList
  match rules.find? applies with
  | some rule => .ok rule.response.received
  | none => .ok { status := 404 }

/-- The server of a network that cannot be reached. -/
def Server.unreachable : Server := fun request =>
  .error s!"error sending request for url ({request.url.text})"

/-- How many bytes the address of a request has at most. -/
def addressLimit : Nat := 65534

/-- Whether an address can be put into a request. -/
def isRequestable (url : Url) : Bool :=
  let isStrange (character : Char) :
      Bool := ['"', '\x60', '\x7b', '\x7d'].contains character
  (url.scheme == "http" || url.scheme == "https") &&
    !(url.host.getD "").toList.any isStrange
    && url.text.utf8ByteSize ≤ addressLimit

/-- The address of a request, when it is one that can be sent.  Credentials are
sent apart from it. -/
def requestUrl (text : String) : Except String Url :=
  match Url.parse text with
  | .error _ => .error "builder error"
  | .ok url =>
      let url := url.withoutCredentials
      if isRequestable url then
        .ok url else .error s!"builder error for url ({url.text})"

/-- Whether a text may be sent as the value of a header. -/
def isHeaderValue (text : String) : Bool :=
  text.toUTF8.toList.all fun byte => (0x20 ≤ byte && byte != 0x7F) ||
    byte == 0x09

/-- The value of a header as it arrives: without blanks around it. -/
def headerValue (text : String) : String := Text.trim text

end TaskSieve.Web
