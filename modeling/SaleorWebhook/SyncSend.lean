import SaleorWebhook.Transport

namespace SaleorWebhook

-- The delivery a caller passes is its id and row; json.loads is loads, which may raise.

-- json.loads(response.content) under except JSONDecodeError: every other exception escapes.
def loadsResponse {J : Type} (loads : String → Except Exn J) (response : WebhookResponse) :
    Except Exn (WebhookResponse × Option J) :=
  match loads response.content with
  | .ok data => .ok (response, some data)
  | .error (.jsonDecodeError _) => .ok ({ response with status := .failed }, none)
  | .error e => .error e

def sendWebhookRequestSync {J : Type} (loads : String → Except Exn J) (eventDeliveryId : Nat)
    (delivery : EventDelivery) : M (Option J) := do
  let some eventPayload ← payloadRow delivery
    | throw (.attributeError "\x27NoneType\x27 object has no attribute \x27payload\x27")
  let webhook := delivery.webhook
  let parts ← parseUrl webhook.targetUrl
  let domain ← getDomain
  let signature ← signatureForPayload eventPayload.payload webhook.secretKey
  if asciiLower parts.scheme ∉ [WebhookSchemes.http.value, WebhookSchemes.https.value] then
    deliveryUpdate eventDeliveryId .failed
    throw (.valueError ("Unknown webhook scheme: \x27" ++ parts.scheme ++ "\x27"))
  let attempt ← createAttempt eventDeliveryId none
  let response ← sendWebhookUsingHttp webhook.targetUrl eventPayload.payload domain signature delivery.eventType
  let (response, responseData) ← liftExcept (loadsResponse loads response)
  attemptUpdate attempt response
  deliveryUpdate eventDeliveryId response.status
  reportEventDeliveryAttempt attempt none
  clearSuccessfulDelivery eventDeliveryId
  return if response.status = .success then responseData else none

variable {D : Type}

-- request is None when the caller shares no request context; a request object is always truthy.
def createDeliveryForSubscriptionSyncEvent (renderer : Renderer D) (eventType : String) (webhook : Webhook)
    (request : Option Nat) : M (Option (Nat × EventDelivery)) := do
  if !renderer.subscribable then return none
  let request ← match request with
    | some request => pure request
    | none => initializeRequest
  emit (.render webhook request)
  let some data := renderer.generate webhook request
    | throw (.paymentError ("No payload was generated with subscription for event: " ++ eventType))
  let eventPayload ← createPayload (renderer.dumps data)
  let eventDelivery : EventDelivery := ⟨.pending,eventType,some eventPayload,webhook⟩
  let d ← createDelivery eventDelivery
  return some (d, eventDelivery)

def triggerWebhookSync {J : Type} (loads : String → Except Exn J) (renderer : Renderer D) (eventType data : String)
    (webhook : Option Webhook) : M (Option J) := do
  let some webhook := webhook
    | throw (.paymentError ("No payment webhook found for event: " ++ eventType ++ "."))
  let delivery ← if webhook.hasSubscription then
      createDeliveryForSubscriptionSyncEvent renderer eventType webhook none
    else do
      let eventPayload ← createPayload data
      let delivery : EventDelivery := ⟨.pending,eventType,some eventPayload,webhook⟩
      let d ← createDelivery delivery
      pure (some (d, delivery))
  let some (d, delivery) := delivery | return none
  sendWebhookRequestSync loads d delivery

variable {J : Type} {w : World} {d : Nat} {delivery : EventDelivery} {row : EventPayload} {parts : ParseResult}
  {loads : String → Except Exn J} {response answered : WebhookResponse} {data : Option J}

def syncResponse (loads : String → Except Exn J) (post : Except Exn HttpResponse) :
    Except Exn (WebhookResponse × Option J) :=
  match httpResult post with
  | .ok response => loadsResponse loads response
  | .error e => .error e

theorem loadsResponse_ok (answer : loadsResponse loads response = .ok (answered, data)) :
    answered = response ∧ data.isSome ∨ answered = { response with status := .failed } ∧ data = none := by
  unfold loadsResponse at answer
  split at answer <;> cases answer
  · exact .inl ⟨rfl,rfl⟩
  · exact .inr ⟨rfl,rfl⟩

theorem syncResponse_settled {post : Except Exn HttpResponse} (answer : syncResponse loads post = .ok (answered, data)) :
    answered.status ≠ .pending := by
  unfold syncResponse at answer
  split at answer
  · rcases loadsResponse_ok answer with ⟨rfl,-⟩ | ⟨rfl,-⟩
    · exact httpResult_settled ‹_›
    · simp
  · cases answer

theorem sendWebhookRequestSync_http (loads : String → Except Exn J) (present : d < w.deliveries.length)
    (payload : delivery.payload.bind (w.payloads[·]?) = some row)
    (parsed : urlparse w.nfkc delivery.webhook.targetUrl = .ok parts)
    (http : asciiLower parts.scheme ∈ [WebhookSchemes.http.value, WebhookSchemes.https.value]) :
    let opened : World := { w with
      attempts := w.attempts ++ [{ delivery := d, taskId := none }]
      calls := w.calls + 1
      log := w.log ++ [.createAttempt w.attempts.length { delivery := d, taskId := none },
        .post delivery.webhook.targetUrl row.payload delivery.eventType w.domain
          (w.signatureForPayload row.payload delivery.webhook.secretKey)] }
    sendWebhookRequestSync loads d delivery w =
      match syncResponse loads (w.transport w.calls).post with
      | .ok (answered, data) =>
        .ok (if answered.status = .success then data else none) { opened with
          attempts := w.attempts ++ [DeliveryAttempt.answer { delivery := d, taskId := none } answered]
          deliveries := w.deliveries.modify (finalRow answered.status) d
          log := opened.log ++ [.updateAttempt w.attempts.length answered, .updateDelivery d answered.status,
            .report w.attempts.length none] ++ if answered.status = .success then [.clearDelivery d] else [] }
      | .error e => .error e opened := by
  intro opened
  simp only [sendWebhookRequestSync, bind_apply, payloadRow_apply, payload, parseUrl, parsed, getDomain_apply,
    signatureForPayload, http, not_true_eq_false, if_false, pure_apply, createAttempt_apply,
    sendWebhookUsingHttp_apply]
  cases result : httpResult (w.transport w.calls).post with
  | error e => simp [opened, syncResponse, result]
  | ok response =>
    cases decoded : loadsResponse loads response with
    | error e => simp [decoded, opened, syncResponse, result]
    | ok pair =>
      obtain ⟨answered,data⟩ := pair
      by_cases success : answered.status = .success
      · simp [decoded, success, syncResponse, result, bind_apply, clearSuccessfulDelivery, List.getElem?_modify_eq,
          List.getElem?_eq_getElem present, List.modify_modify_eq, Function.comp_def, opened]
      · simp [decoded, success, finalRow_of_ne success, syncResponse, result, bind_apply, clearSuccessfulDelivery,
          List.getElem?_modify_eq, List.getElem?_eq_getElem present, List.modify_modify_eq, Function.comp_def, opened]

theorem sendWebhookRequestSync_unknown (loads : String → Except Exn J)
    (payload : delivery.payload.bind (w.payloads[·]?) = some row)
    (parsed : urlparse w.nfkc delivery.webhook.targetUrl = .ok parts)
    (other : asciiLower parts.scheme ∉ [WebhookSchemes.http.value, WebhookSchemes.https.value]) :
    sendWebhookRequestSync loads d delivery w =
      .error (.valueError ("Unknown webhook scheme: \x27" ++ parts.scheme ++ "\x27")) { w with
        deliveries := w.deliveries.modify (finalRow .failed) d
        log := w.log ++ [.updateDelivery d .failed] } := by
  simp only [sendWebhookRequestSync, bind_apply, payloadRow_apply, payload, parseUrl, parsed, getDomain_apply,
    signatureForPayload, other, not_false_eq_true, if_true, deliveryUpdate_apply, throw_apply, finalRow_failed]

-- A body that nests arrays far deeper than the recursion limit; CPython's json.loads raises RecursionError on it.
def nestedBody : String := String.mk (List.replicate 100000 '[' ++ List.replicate 100000 ']')

def nestedRecursion : Exn :=
  .recursionError "maximum recursion depth exceeded while decoding a JSON array from a unicode string"

-- json.loads as CPython answers the bodies these runs decode: {} for "{}", RecursionError for nestedBody.
def loadsNested (body : String) : Except Exn Unit := if body = "{}" then .ok () else .error nestedRecursion

def nestedTransport : Transport := { answeringWith 200 with post := .ok ⟨200,[],nestedBody⟩ }

theorem send_webhook_request_sync_nested_body_raises :
    sendWebhookRequestSync loadsNested 0 ⟨.pending,"order_created",some 0,sampleHook⟩
        { sampleWorld with transport := fun _ => nestedTransport } =
      .error nestedRecursion { sampleWorld with
        transport := fun _ => nestedTransport
        attempts := [{ delivery := 0, taskId := none }]
        calls := 1
        log := [.createAttempt 0 { delivery := 0, taskId := none },
          .post "http://shop.local/hook" "{}" "order_created" "shop.local" "sig"] } := by
  rw [@sendWebhookRequestSync_http Unit { sampleWorld with transport := fun _ => nestedTransport } 0
    ⟨.pending,"order_created",some 0,sampleHook⟩ ⟨"{}"⟩ ⟨"http","shop.local","/hook","","",""⟩ loadsNested
    (by decide) rfl rfl (by decide)]
  rfl

end SaleorWebhook
