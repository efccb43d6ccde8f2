import ChainIndexer.Http.Retry
import ChainIndexer.Json.Reader
import ChainIndexer.Rpc.Error
import ChainIndexer.Text.Basic
import ChainIndexer.Text.LowerCase
import ChainIndexer.Url.Basic

/-!
# Requests over HTTP

One kind of request: the JSON document at a URL. What is at the other end is a `Network`, a
function from a URL and a state to a reply and a state, so that a server may answer differently
each time.

* `HttpFailure.toError` says how a failure on the way is told.
* `Transport.getOnce` sends one request, follows redirects, and judges the reply.
* `Transport.getJson` sends it again while failures are transient and the policy allows it.
-/

namespace ChainIndexer

open Json (Value)

/-! ## The other end -/

/-- The body of a response: a text, one that broke off for these causes, or one whose end did not
come in time. -/
inductive Body
  | text (s : String)
  | cut (causes : List String)
  | stalled
  deriving DecidableEq, Repr

/-- A response. -/
structure Response where
  status : Nat
  location : Option String
  body : Body
  deriving DecidableEq, Repr

/-- What becomes of a request: a response, a connection that failed for these causes, or no answer
in time. -/
inductive Reply
  | response (r : Response)
  | failed (causes : List String)
  | silent
  deriving DecidableEq, Repr

/-- The other end: how it replies, and what its clock shows. -/
structure Network (σ : Type) where
  reply : Url → σ → Reply × σ
  now : σ → Nat

/-- A network that no request reaches. -/
def Network.unreachable : Network Unit := ⟨fun _ s => (.failed [], s), fun _ => 0⟩

/-- A question to the other end: a failure or an answer, and the state after it. There is none
while the question still goes on after as many requests as it was given. -/
abbrev Query (σ α : Type) := ExceptT RpcError (StateT σ Option) α

/-- The question goes on. -/
def Query.stillRunning {σ α : Type} : Query σ α := fun _ => none

/-! ## Failures on the way -/

/-- What a request failed at: its time, its redirects, its URL, its sending, or the body of the
response. -/
inductive HttpFailure.Kind
  | timeout
  | redirect
  | builder
  | request
  | body
  deriving DecidableEq, Repr

/-- A request that brought no whole response: its wording, and those of what caused it, the nearest
cause first. -/
structure HttpFailure where
  kind : HttpFailure.Kind
  text : String
  causes : List String
  deriving DecidableEq, Repr

namespace HttpFailure

def about (kind : Kind) (what : String) (u : Url) (causes : List String) : HttpFailure :=
  ⟨kind, what ++ " for url (" ++ u.text ++ ")", causes⟩

/-- The URL has a scheme that no request is sent for. -/
def foreign (u : Url) : HttpFailure := about .builder "builder error" u ["URL scheme is not allowed"]

/-- The connection failed. -/
def unsent (u : Url) (causes : List String) : HttpFailure :=
  about .request "error sending request" u causes

/-- No answer came in time. -/
def unanswered (u : Url) : HttpFailure :=
  about .timeout "error sending request" u ["operation timed out"]

/-- One redirect more than allowed. -/
def misled (u : Url) : HttpFailure :=
  about .redirect "error following redirect" u ["too many redirects"]

/-- The wording of the failure or of a cause speaks of an encrypted connection. -/
def speaksOfTls (f : HttpFailure) : Bool :=
  (f.text :: f.causes).any fun s =>
    ["certificate", "tls", "handshake"].any (Text.contains (Text.lower s))

/-- How the failure of a request with so many milliseconds is told. -/
def toError (f : HttpFailure) (ms : UInt64) : RpcError :=
  if f.kind = .timeout then .timeout ms
  else if f.kind = .redirect then .redirect f.text
  else if f.kind = .builder then .invalidUrl f.text
  else if f.speaksOfTls then .tls f.text
  else if f.kind = .body then .deserialization f.text
  else .http f.text

end HttpFailure

def Body.read : Body → Except HttpFailure String
  | text s => .ok s
  | cut causes => .error ⟨.body, "error decoding response body", causes⟩
  | stalled => .error ⟨.timeout, "error decoding response body", ["operation timed out"]⟩

/-! ## Settings -/

/-- How a client sends requests; the time to wait for an answer is in milliseconds. -/
structure HttpConfig where
  retry : RetryConfig := {}
  requestTimeout : UInt64 := 30000
  maxRedirects : Nat := 5
  deriving DecidableEq, Repr

/-- A client of a base URL, below which all its requests are. -/
structure Transport where
  base : Url
  config : HttpConfig
  deriving DecidableEq, Repr

namespace Transport

/-- A client of the URL that a text names. -/
def create (url : String) (config : HttpConfig) : Except RpcError Transport := do
  let base ← (Url.parse url).mapError fun e => .invalidUrl (url ++ ": " ++ e.message)
  if base.scheme = "http" ∨ base.scheme = "https" then return ⟨base.asFolder, config⟩
  else throw (.unsupportedScheme base.scheme)

/-- The URL of a path below the base. -/
def endpoint (t : Transport) (path : String) : Except RpcError Url :=
  (t.base.join (String.ofList (path.toList.dropWhile (· = '/')))).mapError fun e =>
    .invalidUrl (path ++ ": " ++ e.message)

/-! ## Sending -/

/-- The statuses that send on to another URL. -/
def redirectStatuses : List Nat := [301, 302, 303, 307, 308]

def redirect? (u : Url) (r : Response) : Option Url :=
  if redirectStatuses.contains r.status then
    r.location.bind fun s => (u.join s).toOption
  else none

/-- Sends a request and follows redirects, at most so many. -/
def send {σ : Type} (net : Network σ) : Nat → Url → σ → Except HttpFailure Response × σ
  | left, u, s =>
    if u.scheme ≠ "http" ∧ u.scheme ≠ "https" then (.error (.foreign u), s)
    else match net.reply u s with
      | (.failed causes, s) => (.error (.unsent u causes), s)
      | (.silent, s) => (.error (.unanswered u), s)
      | (.response r, s) =>
        match redirect? u r with
        | none => (.ok r, s)
        | some next => match left with
          | 0 => (.error (.misled u), s)
          | left + 1 => send net left next s

/-! ## Judging a response -/

/-- The status says that another try may succeed. -/
def isTransient (status : Nat) : Bool := status == 429 || (500 ≤ status && status < 600)

/-- The status says that all went well. -/
def isSuccess (status : Nat) : Bool := 200 ≤ status && status < 300

/-- Takes whole characters while their bytes do not pass a limit. -/
def takeBytes : Nat → List Char → List Char
  | _, [] => []
  | limit, c :: cs => if c.utf8Size ≤ limit then c :: takeBytes (limit - c.utf8Size) cs else []

/-- The text, or its beginning with an ellipsis when it has more bytes than the limit. -/
def truncate (s : String) (limit : Nat) : String :=
  if s.utf8ByteSize ≤ limit then s
  else String.ofList (takeBytes limit s.toList) ++ "…"

/-- The error that a document carries, whatever the status. -/
def embeddedError? (v : Value) : Option RpcError :=
  let rpc? : Option RpcError := do
    let e ← v.get? "error"
    let _ ← e.object?
    let e ← (JsonRpcError.codec.decode e).toOption
    return .rpc e
  let api? : Option RpcError := do
    let code ← (← v.get? "code").int64?
    if code = 0 then none
    return .api code (((v.get? "message").bind Value.string?).getD "")
  rpc? <|> api?

/-- The error is one that the server's JSON-RPC side reports. -/
def isRpc : RpcError → Bool
  | .rpc _ => true
  | _ => false

/-- What a response with this status and body means. A node answers every error that it handled
itself with status 500, so that such an error is final there. -/
def judge (u : Url) (status : Nat) (body : String) : Except RpcError Value :=
  let json? := Json.parse? body
  let embedded? := json?.bind embeddedError?
  if isTransient status then
    match embedded?.filter fun e => isRpc e && status == 500 with
    | some e => .error e
    | none => .error (.status status (truncate body 512))
  else match embedded? with
    | some e => .error e
    | none =>
      if status = 404 then .error (.notFound u.pathText)
      else if !isSuccess status then .error (.status status (truncate body 512))
      else match json? with
        | some v => .ok v
        | none => .error (.deserialization
            ("non-JSON body from " ++ u.text ++ ": " ++ truncate body 128))

/-! ## Asking -/

/-- What the end of a request for this URL means. -/
def conclude (t : Transport) (u : Url) (sent : Except HttpFailure Response) :
    Except RpcError Value := do
  let r ← sent.mapError (·.toError t.config.requestTimeout)
  let body ← r.body.read.mapError (·.toError t.config.requestTimeout)
  judge u r.status body

/-- One request: sends it and judges the response. -/
def getOnce {σ : Type} (t : Transport) (net : Network σ) (u : Url) (s : σ) :
    Except RpcError Value × σ :=
  let (sent, s) := send net t.config.maxRedirects u.withoutCredentials s
  (t.conclude u sent, s)

/-- Repeats a step while its failures are transient and the policy allows it; `failures` counts
those so far. -/
def retrying {σ α : Type} (retry : RetryConfig) (step : σ → Except RpcError α × σ) :
    Nat → Nat → Query σ α
  | 0, _ => .stillRunning
  | fuel + 1, failures => fun s =>
    match step s with
    | (.ok a, s) => some (.ok a, s)
    | (.error e, s) =>
      if e.isRetryable && retry.shouldRetry (UInt32.ofNat (failures + 1)) then
        retrying retry step fuel (failures + 1) s
      else some (.error e, s)

/-- As many requests as the policy allows, or else as many as are given. -/
def tries (retry : RetryConfig) (fuel : Nat) : Nat :=
  match retry.maxRetries with
  | some max => max.toNat + 1
  | none => fuel

/-- The JSON document at a path below the base. -/
def getJson {σ : Type} (t : Transport) (net : Network σ) (fuel : Nat) (path : String)
    (query : List (String × String)) : Query σ Value := fun s =>
  match t.endpoint path with
  | .error e => some (.error e, s)
  | .ok u =>
    retrying t.config.retry (t.getOnce net (u.withQuery query)) (tries t.config.retry fuel) 0 s

end Transport

end ChainIndexer
