import Stepwise.Action
import Stepwise.Json.Reader
import Stepwise.Text.Encoded

/-! # The HTTP client

The client behind the `http` collaborator. `Client.request` makes exactly one exchange over a
connection, which is either shared or opened for the request and closed after it. A list or an
object is sent as JSON, any other body but null as a text. An answer is read as JSON if it is that
and as text otherwise; `Client.send` reads it from bytes. A failure of the exchange itself is
reported as an external failure. -/

namespace Stepwise.Http

/-- What is sent with a request. -/
inductive Payload where
  /-- Nothing. -/
  | empty
  /-- A value as JSON. -/
  | json (value : Value)
  /-- A text. -/
  | content (text : String)
  deriving Repr

/-- The payload of a body: lists and objects are sent as JSON, null as nothing, the rest as text. -/
def Payload.ofBody : Value → Payload
  | .null => empty
  | body@(.list _) | body@(.object _) => json body
  | body => content body.toText

/-- A request as it is sent. -/
structure Exchange where
  /-- The method. -/
  method : String
  /-- The address. -/
  url : String
  /-- The headers. -/
  headers : Value
  /-- How long to wait for an answer, in seconds. -/
  timeout : Value
  /-- What is sent with the request. -/
  payload : Payload
  deriving Repr

/-- An answer as it comes in. -/
structure RawResponse where
  /-- The status code. -/
  status : Int
  /-- The bytes of the answer. -/
  bytes : List Nat
  deriving Repr

/-- An answer that has been read. -/
structure Answer where
  /-- The status code. -/
  status : Int
  /-- The value of its JSON text, if it is that. -/
  json? : Option Value
  /-- Its text. -/
  text : String
  deriving Repr

/-- The answer that some bytes are. -/
def RawResponse.read (raw : RawResponse) : Answer where
  status := raw.status
  json? := (Text.decodeJson? raw.bytes).bind Json.read?
  text := String.ofList (Text.utf8Lossy raw.bytes)

/-- The content of an answer: the value of its JSON text, or its text. -/
def Answer.body (answer : Answer) : Value := answer.json?.getD (.text answer.text)

/-- Why there is no answer. -/
inductive TransportFault where
  /-- The exchange failed. -/
  | exchange (reason : String)
  /-- Something else was raised. -/
  | other (fault : Fault)
  deriving Repr

/-- What happens on a connection. -/
inductive Traffic where
  /-- A connection is opened. -/
  | opened
  /-- A request is sent. -/
  | sent (exchange : Exchange)
  /-- A connection is closed. -/
  | closed
  deriving Repr

/-- How requests are made. -/
structure Client where
  /-- Whether the connection is shared by all requests. -/
  shared : Bool := true
  /-- How long to wait for an answer unless a request says otherwise, in seconds. -/
  timeout : Value := .float (.roundRatio false 30 1)
  deriving Repr

/-- What a request came to. -/
structure Delivery (σ : Type) where
  /-- The answer, or why there is none. -/
  result : Except Fault Response
  /-- The world afterwards. -/
  world : σ
  /-- What happened on the connection, in order. -/
  traffic : List Traffic
  /-- The notes left, in order. -/
  log : List Note := []

namespace Client

variable {σ : Type}

/-- The exchange of a request. -/
def exchange (client : Client) (method url : String) (headers body timeout : Value) : Exchange :=
  { method, url
    headers := headers.orElse (.object [])
    timeout := if timeout.isNull then client.timeout else timeout
    payload := .ofBody body }

/-- What happens on the connection of one exchange. -/
def traffic (client : Client) (exchange : Exchange) : List Traffic :=
  if client.shared then [.sent exchange] else [.opened, .sent exchange, .closed]

/-- Make a request over a transport that gives answers. -/
def request (client : Client) (transport : Exchange → σ → Except TransportFault Answer × σ)
    (method url : String) (headers body timeout : Value) (world : σ) : Delivery σ :=
  let exchange := client.exchange method url headers body timeout
  let traffic := client.traffic exchange
  match transport exchange world with
  | (.ok answer, world) => { result := .ok ⟨answer.status, answer.body⟩, world, traffic }
  | (.error (.exchange reason), world) =>
    { result := .error (.external s!"Request to {url} failed: {reason}"), world, traffic
      log := [.warning s!"HTTP {method} {url} failed: {reason}"] }
  | (.error (.other fault), world) => { result := .error fault, world, traffic }

/-- Make a request over a transport that gives bytes. -/
def send (client : Client)
    (transport : Exchange → σ → Except TransportFault RawResponse × σ)
    (method url : String) (headers body timeout : Value) (world : σ) : Delivery σ :=
  let reading (exchange : Exchange) (world : σ) : Except TransportFault Answer × σ :=
    let (raw, world) := transport exchange world
    (raw.map RawResponse.read, world)
  client.request reading method url headers body timeout world

end Client

end Stepwise.Http
