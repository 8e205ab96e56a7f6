import Mathlib.Data.List.Basic

namespace SaleorWebhook

inductive EventDeliveryStatus where
  | pending | success | failed
  deriving DecidableEq, Repr

-- tasks.WebhookSchemes, a str enum: the dispatcher looks its members up by their values.
inductive WebhookSchemes where
  | http | https | awsSqs | googleCloudPubsub
  deriving DecidableEq, Repr

def WebhookSchemes.value : WebhookSchemes → String
  | .http => "http"
  | .https => "https"
  | .awsSqs => "awssqs"
  | .googleCloudPubsub => "gcpubsub"

def WebhookSchemes.ofValue? (value : String) : Option WebhookSchemes :=
  [WebhookSchemes.http, .https, .awsSqs, .googleCloudPubsub].find? (·.value = value)

abbrev Headers := List (String × String)

structure HttpResponse where
  statusCode : Nat
  headers : Headers
  text : String
  deriving DecidableEq, Repr

-- Response.ok, which is also Response.__bool__: raise_for_status passes, so no 4xx or 5xx code.
def HttpResponse.ok (response : HttpResponse) : Bool :=
  !(decide (400 ≤ response.statusCode) && decide (response.statusCode < 600))

structure TaskRequest where
  id : String
  retries : Nat
  deriving DecidableEq, Repr

-- The exception classes tasks.py raises or catches, with str(e); other is any other class.
inductive Exn where
  | requestException (response : Option HttpResponse) (text : String)
  | clientError (text : String)
  | messageTooLarge (text : String)
  | runtimeError (text : String)
  | recursionError (text : String)
  | valueError (text : String)
  | jsonDecodeError (text : String)
  | attributeError (text : String)
  | paymentError (text : String)
  | retry (request : TaskRequest) (countdown : Nat)
  | maxRetriesExceeded
  | other (text : String) (valueSubclass : Bool)
  deriving DecidableEq, Repr

-- MessageTooLargeError and JSONDecodeError subclass ValueError.
def Exn.isValueError : Exn → Bool
  | .valueError _ | .messageTooLarge _ | .jsonDecodeError _ => true
  | .other _ valueSubclass => valueSubclass
  | _ => false

def Exn.text : Exn → String
  | .requestException _ text | .clientError text | .messageTooLarge text | .runtimeError text | .recursionError text
  | .valueError text | .jsonDecodeError text | .attributeError text | .paymentError text | .other text _ => text
  | .retry _ _ | .maxRetriesExceeded => ""

-- tasks.WebhookResponse without request_headers and duration, which no code here reads.
structure WebhookResponse where
  content : String
  responseHeaders : Option Headers := none
  responseStatusCode : Option Nat := none
  status : EventDeliveryStatus := .success
  deriving DecidableEq, Repr

structure Webhook where
  id : Nat
  targetUrl : String
  secretKey : String
  subscriptionQuery : Option String
  isActive : Bool
  appName : String
  deriving DecidableEq, Repr

-- if webhook.subscription_query: None and the empty query are both falsy.
def Webhook.hasSubscription (webhook : Webhook) : Bool :=
  match webhook.subscriptionQuery with
  | some query => !query.isEmpty
  | none => false

structure EventPayload where
  payload : String
  deriving DecidableEq, Repr

-- An EventDelivery row: payload is the id of its EventPayload row, none once cleared.
structure EventDelivery where
  status : EventDeliveryStatus
  eventType : String
  payload : Option Nat
  webhook : Webhook
  deriving DecidableEq, Repr

structure DeliveryAttempt where
  delivery : Nat
  taskId : Option String
  status : EventDeliveryStatus := .pending
  response : Option String := none
  responseHeaders : Option Headers := none
  responseStatusCode : Option Nat := none
  deriving DecidableEq, Repr

-- How the libraries behind the senders behave for one transport call.
structure Transport where
  post : Except Exn HttpResponse
  sqsClient : Option Exn
  sendMessage : Except Exn String
  pubsubClient : Option Exn
  publish : Option Exn
  result : Except Exn String

inductive Effect where
  | createPayload (id : Nat) (payload : EventPayload)
  | createDelivery (id : Nat) (delivery : EventDelivery)
  | createAttempt (id : Nat) (attempt : DeliveryAttempt)
  | updateAttempt (id : Nat) (response : WebhookResponse)
  | updateDelivery (id : Nat) (status : EventDeliveryStatus)
  | clearDelivery (id : Nat)
  | report (attempt : Nat) (nextRetry : Option Nat)
  | delay (delivery : Nat)
  | retry (request : TaskRequest) (delivery : Nat) (countdown : Nat)
  | initializeRequest (request : Nat)
  | render (webhook : Webhook) (request : Nat)
  | generatePayload
  | dispatch (targetUrl data : String)
  | post (targetUrl message eventType domain signature : String)
  | sqsClient (region : String) (accessKey secretKey : Option String)
  | sendMessage (queueUrl body eventType domain : String) (signature groupId : Option String)
  | pubsubClient
  | publish (topic message eventType domain signature : String)
  | dropped (webhook : Nat) (count : Nat)
  deriving DecidableEq, Repr

def Effect.ledger : Effect → Bool
  | .dispatch .. | .post .. | .sqsClient .. | .sendMessage .. | .pubsubClient | .publish .. => false
  | _ => true

-- A row id is its index; transport i answers the i-th transport call.
structure World where
  payloads : List EventPayload
  deliveries : List EventDelivery
  attempts : List DeliveryAttempt
  log : List Effect
  calls : Nat
  domain : String
  transport : Nat → Transport
  signatureForPayload : String → String → String
  nfkc : String → String
  lower : String → String

-- An exception leaves every write made before it in place.
abbrev M := EStateM Exn World

def emit (effect : Effect) : M Unit := modify fun w => { w with log := w.log ++ [effect] }

def after {α : Type} : EStateM.Result Exn World α → World
  | .ok _ w | .error _ w => w

@[simp] theorem after_ok {α : Type} (a : α) (w : World) : after (.ok a w : EStateM.Result Exn World α) = w := rfl

@[simp] theorem after_error {α : Type} (e : Exn) (w : World) : after (.error e w : EStateM.Result Exn World α) = w :=
  rfl

theorem bind_apply {α β : Type} (x : M α) (f : α → M β) (w : World) :
    (x >>= f) w = match x w with
      | .ok a w' => f a w'
      | .error e w' => .error e w' := by
  change EStateM.bind x f w = _
  unfold EStateM.bind
  cases x w <;> rfl

theorem map_apply {α β : Type} (f : α → β) (x : M α) (w : World) :
    (f <$> x) w = match x w with
      | .ok a w' => .ok (f a) w'
      | .error e w' => .error e w' := by
  change EStateM.map f x w = _
  unfold EStateM.map
  cases x w <;> rfl

@[simp] theorem pure_apply {α : Type} (a : α) (w : World) : (pure a : M α) w = .ok a w := rfl

@[simp] theorem throw_apply {α : Type} (e : Exn) (w : World) : (throw e : M α) w = .error e w := rfl

theorem tryCatch_apply {α : Type} (x : M α) (handle : Exn → M α) (w : World) :
    (tryCatch x handle) w = match x w with
      | .ok a w' => .ok a w'
      | .error e w' => handle e w' := by
  change EStateM.tryCatch x handle w = _
  unfold EStateM.tryCatch
  cases x w <;> rfl

@[simp] theorem emit_apply (effect : Effect) (w : World) :
    emit effect w = .ok () { w with log := w.log ++ [effect] } := rfl

end SaleorWebhook
