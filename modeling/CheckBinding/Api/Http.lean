import CheckBinding.Api.Call
import CheckBinding.Duration
import CheckBinding.Text.Blank
import CheckBinding.Text.Lossy

/-!
The monitoring service over HTTP.

A client turns each operation into one request and reads the response. Whatever carries requests
and responses is a parameter: it answers with a response or with the reason why there is none.
-/

namespace CheckBinding.Api.Http

structure Options where
  url : String
  token : String
  app : String
  timeout : Duration
deriving DecidableEq

def defaultUrl : String := "https://api.circonus.com/v2"

def defaultApp : String := "hostagent"

def defaultTimeout : Duration := Duration.ofSeconds 10

structure Client where
  baseUrl : String
  token : String
  app : String
  timeout : Duration
deriving DecidableEq

/-- Whether a text can be the value of a header: no control characters but the tab. -/
def isHeaderValue (text : String) : Bool :=
  text.toList.all (fun character =>
    (32 ≤ character.toNat && character.toNat ≠ 127) || character = '\t')

/-- A client with the given options; the slashes at the end of the address are dropped. -/
def Client.make (options : Options) : Except Fault Client :=
  if options.token = "" then .error (.invalidArguments .tokenMissing)
  else if !isHeaderValue options.token then .error (.invalidArguments .tokenUnfit)
  else if !isHeaderValue options.app then .error (.invalidArguments .appUnfit)
  else
    .ok {
      baseUrl := String.ofList
        (Text.dropTail (fun character => character = '/') options.url.toList)
      token := options.token
      app := options.app
      timeout := options.timeout }

/-! ### Requests -/

inductive Method where
  | get
  | post
  | put
deriving DecidableEq

structure Request where
  method : Method
  url : String
  query : List (String × String)
  headers : List (String × String)
  body : Option ByteArray

def Client.headers (client : Client) : List (String × String) :=
  [("accept", "application/json"), ("x-circonus-auth-token", client.token),
    ("x-circonus-app-name", client.app)]

def Client.reading (client : Client) (path : String) (query : List (String × String)) :
    Request :=
  ⟨.get, client.baseUrl ++ path, query, client.headers, none⟩

def Client.submitting (client : Client) (method : Method) (path : String) (bundle : Bundle) :
    Request :=
  ⟨method, client.baseUrl ++ path, [], client.headers ++ [("content-type", "application/json")],
    some bundle.toJson.toBytes⟩

def searchQuery (criteria : String) (filter : Option SearchFilter) : List (String × String) :=
  ("search", criteria) ::
    match filter with
    | none => []
    | some filter =>
        filter.toList.flatMap (fun (field, values) =>
          values.map (fun value => ("f_" ++ field, value)))

/-- The request of an operation. A bundle without identifier has no place to be put to. -/
def Client.request (client : Client) : Call → Except Fault Request
  | .search criteria filter =>
      .ok (client.reading "/check_bundle" (searchQuery criteria filter))
  | .create draft => .ok (client.submitting .post "/check_bundle" draft)
  | .update bundle =>
      if bundle.cid = "" then .error (.invalidArguments .updateWithoutCid)
      else .ok (client.submitting .put bundle.cid bundle)
  | call => .ok (client.reading call.path [])

/-! ### Responses -/

structure Response where
  status : Nat
  body : ByteArray

def bodyOf (path : String) (response : Response) : Except Fault ByteArray :=
  if response.status = 404 then .error (.notFound path)
  else if 200 ≤ response.status ∧ response.status < 300 then .ok response.body
  else .error (.status response.status path (Text.lossy response.body))

def decode {Value : Type} (decoder : Json.Decoder Value) (body : ByteArray) :
    Except Fault Value :=
  (Json.decodeBytes decoder body).mapError .json

def payload [Pattern.Engine] : (call : Call) → ByteArray → call.Answer
  | .fetchBrokers, body => decode (Json.asList Broker.ofJson) body
  | .fetchBundle _, body => decode Bundle.ofJson body
  | .search _ _, body => decode (Json.asList Bundle.ofJson) body
  | .create _, body => decode Bundle.ofJson body
  | .update _, body => decode Bundle.ofJson body
  | .get _, body => .ok body

abbrev Transport (Line : Type) : Type := Line → Request → Except String Response × Line

def interpret [Pattern.Engine] (call : Call) : Except String Response → call.Answer
  | .error reason => .error (.http reason)
  | .ok response => (bodyOf call.path response).bind (payload call)

def Client.answer [Pattern.Engine] {Line : Type} (client : Client) (transport : Transport Line)
    (line : Line) (call : Call) : call.Answer × Line :=
  match client.request call with
  | .error fault => (.error fault, line)
  | .ok request =>
      let (reply, line) := transport line request
      (interpret call reply, line)

end CheckBinding.Api.Http
