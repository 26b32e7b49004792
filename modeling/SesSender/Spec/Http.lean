import SesSender.Spec.Statistics

/-! `app.rs`, `auth_middlewares.rs`, `error.rs` and the HTTP side of the handlers:
which call reaches which handler, and what it sets off in the process. -/

namespace Ses

open Calendar

inductive Method where
  | get | head | post | delete | other
  deriving DecidableEq

/-- The headers, as they came. -/
abbrev HeaderMap := List (String × List UInt8)

/-- `HeaderMap::get`: the first value under the name, in upper or lower case. -/
def HeaderMap.get (headers : HeaderMap) (name : String) : Option (List UInt8) :=
  (headers.find? fun h => h.1.toList.map Char.toLower = name.toList.map Char.toLower).map Prod.snd

/-- `HeaderValue::to_str`: visible ASCII and tabs only. -/
def toStr (value : List UInt8) : Option String :=
  if value.all fun b => 32 ≤ b && b < 127 || b = 9 then
    some (String.ofList (value.map fun b => Char.ofNat b.toNat))
  else none

structure HttpRequest where
  method : Method
  /-- the segments of the path -/
  path : List String
  query : String
  headers : HeaderMap
  body : List UInt8

/-- A status code and the text under `"error"`. -/
structure ErrorResponse where
  status : ℕ
  error : String
  deriving DecidableEq

def AppError.intoResponse : AppError → ErrorResponse
  | .badRequest msg => ⟨400, msg⟩
  | .notFound msg => ⟨404, msg⟩
  | .database _ => ⟨500, "Database error occurred"⟩

/-- What the HTTP side takes from outside: the configured key and the library
calls that read a body or a path. -/
structure HttpEnv where
  /-- `APP_CONFIG.api_key` -/
  apiKey : String
  /-- the `Json<CreateMessageRequest>` extractor -/
  payload : HttpRequest → Option CreateMessageRequest
  /-- the `Path<String>` extractor on a segment -/
  topicId : String → Option String
  /-- `serde_json::from_slice`, with the keys of an object as often as they come -/
  fromSlice : List UInt8 → Option Value

/-! ## Who may call what -/

def API_KEY_HEADER : String := "X-API-KEY"

def apiKeyAuth (H : HttpEnv) (req : HttpRequest) : Except ErrorResponse Unit :=
  match (req.headers.get API_KEY_HEADER).bind toStr with
  | none => .error ⟨401, "Missing X-API-KEY header"⟩
  | some key =>
    if key = "" then .error ⟨401, "Empty API Key"⟩
    else if H.apiKey = "" ∨ key ≠ H.apiKey then .error ⟨401, "Invalid API Key"⟩
    else .ok ()

inductive Endpoint where
  | health | ready | createMessage
  | getTopic (segment : String)
  | stopTopic (segment : String)
  | trackOpen | getSentCount | handleSnsEvent

structure Route where
  endpoint : Endpoint
  /-- whether `api_key_auth` stands before the handler -/
  auth : Bool

/-- The router. A `get` route answers HEAD too, and a path parameter is not empty. -/
def app (method : Method) : List String → Option Route
  | ["health"] => if method = .get ∨ method = .head then some ⟨.health, false⟩ else none
  | ["ready"] => if method = .get ∨ method = .head then some ⟨.ready, false⟩ else none
  | ["v1", "messages"] => if method = .post then some ⟨.createMessage, true⟩ else none
  | ["v1", "topics", topicId] =>
    if topicId = "" then none
    else if method = .get ∨ method = .head then some ⟨.getTopic topicId, true⟩
    else if method = .delete then some ⟨.stopTopic topicId, true⟩
    else none
  | ["v1", "events", "open"] =>
    if method = .get ∨ method = .head then some ⟨.trackOpen, false⟩ else none
  | ["v1", "events", "counts", "sent"] =>
    if method = .get ∨ method = .head then some ⟨.getSentCount, true⟩ else none
  | ["v1", "events", "results"] =>
    if method = .post then some ⟨.handleSnsEvent, false⟩ else none
  | _ => none

/-- The handler the call gets to, past the middleware. -/
def HttpRequest.reaches (H : HttpEnv) (req : HttpRequest) : Option Endpoint :=
  (app req.method req.path).bind fun route =>
    if route.auth then (apiKeyAuth H req).toOption.map fun _ => route.endpoint
    else some route.endpoint

/-! ## The webhook -/

def MAX_BODY_SIZE : ℕ := 1024 * 1024

inductive SnsMessage where
  | subscriptionConfirmation (subscribeUrl : String)
  | notification (message messageId : String)
  | other

/-- A `String` field of a derived struct: a key that comes twice is refused. -/
def stringField (fields : List (String × Value)) (key : String) : Option String :=
  match fields.filter fun f => f.1 = key with
  | [(_, .string s)] => some s
  | _ => none

/-- `#[serde(untagged)]`: the first variant that fits. -/
def SnsMessage.ofValue : Value → SnsMessage
  | .object fields =>
    match stringField fields "SubscribeURL" with
    | some url => .subscriptionConfirmation url
    | none =>
      match stringField fields "Message", stringField fields "MessageId" with
      | some message, some messageId => .notification message messageId
      | _, _ => .other
  | _ => .other

/-- `handle_sns_event` up to the message it has read. -/
def snsMessage (H : HttpEnv) (bodyFails : Bool) (req : HttpRequest) :
    Except AppError SnsMessage :=
  let msgType := (req.headers.get "x-amz-sns-message-type").bind toStr
  if msgType ≠ some "Notification" ∧ msgType ≠ some "SubscriptionConfirmation" then
    .error (.badRequest "Invalid SNS Message Type")
  else if bodyFails ∨ req.body.length > MAX_BODY_SIZE then
    .error (.badRequest "Failed to read body")
  else match H.fromSlice req.body with
  | none => .error (.badRequest "Failed to parse message")
  | some v => .ok (.ofValue v)

/-- `handle_sns_event` as a whole: the `"status"` it answers. -/
def handleSnsEvent (E : Env) (H : HttpEnv) (now : Instant) (bodyFails lookupFails insertFails : Bool)
    (req : HttpRequest) (db : Db) : Except AppError String × Db :=
  match snsMessage H bodyFails req with
  | .error e => (.error e, db)
  | .ok (.subscriptionConfirmation _) => (.ok "subscription_confirmation_required", db)
  | .ok (.notification message _) =>
    let (answer, db) := processSesNotification E now lookupFails insertFails message db
    (answer.map fun _ => "ok", db)
  | .ok .other => (.ok "ok", db)

/-! ## The statistics of a topic -/

/-- `get_topic`. The two queries run side by side and may find different tables;
their groups come in the orders given. -/
def getTopic (topicId : String) (statuses : List (Int × Int)) (labels : List (String × Int))
    (db db' : Db) : Option (Except AppError (Counts × Counts)) :=
  if topicId = "" then some (.error (.badRequest "topic_id is required"))
  else do
    let requestResult ← EmailRequest.getRequestCountsByTopicId statuses topicId db.requests
    let resultResult ← EmailResult.getResultCountsByTopicId labels topicId db'
    some (do
      let requestCounts ← requestResult.mapError AppError.database
      let resultCounts ← resultResult.mapError AppError.database
      .ok (requestCounts, resultCounts))

/-! ## The process behind its router -/

/-- What the handler sets off: its first step that is not a read. `ok` is whether
its first SQL statement succeeds. -/
def Endpoint.event (H : HttpEnv) (req : HttpRequest) (bodyFails ok : Bool) :
    Endpoint → Option Event
  | .createMessage => (H.payload req).map .request
  | .stopTopic segment =>
    (H.topicId segment).bind fun topicId =>
      if topicId = "" then none else some (.stopTopic topicId ok)
  | .trackOpen => some (.getOpen req.query)
  | .handleSnsEvent =>
    match snsMessage H bodyFails req with
    | .ok (.notification message _) => some (.notify message ok)
    | _ => none
  | _ => none

def HttpRequest.event (H : HttpEnv) (bodyFails ok : Bool) (req : HttpRequest) : Option Event :=
  (req.reaches H).bind (Endpoint.event H req bodyFails ok)

/-- The events that only a call sets off. -/
def Event.entry : Event → Bool
  | .request _ => true
  | .stopTopic _ _ => true
  | .notify _ _ => true
  | .getOpen _ => true
  | _ => false

inductive HttpEvent where
  | call (req : HttpRequest) (bodyFails ok : Bool)
  | sys (e : Event)

def Sys.serve (E : Env) (H : HttpEnv) (s : Sys) : HttpEvent → Option Sys
  | .call req bodyFails ok => (req.event H bodyFails ok).elim (some s) (s.step E)
  | .sys e => if e.entry then none else s.step E e

/-- A run of the process in which every call comes through the router. -/
def Served (E : Env) (H : HttpEnv) (now₀ : Instant) (evs : List HttpEvent) (s : Sys) : Prop :=
  Exec.run (Sys.serve E H) (Sys.init now₀) evs = some s

end Ses
