import SaleorWebhook.SyncSend

namespace SaleorWebhook

-- parse is parse_response with its truthiness: none for a falsy result.

variable {J R D : Type}

-- One turn of the loop up to the send: the delivery made, then request_context and event_payload.
def syncDelivery (renderer : Renderer D) (eventType generatePayload : String) (webhook : Webhook)
    (requestContext eventPayload : Option Nat) : M (Option (Nat × EventDelivery) × Option Nat × Option Nat) :=
  if webhook.hasSubscription then do
    let request ← match requestContext with
      | some request => pure request
      | none => initializeRequest
    let delivery ← createDeliveryForSubscriptionSyncEvent renderer eventType webhook (some request)
    pure (delivery, some request, eventPayload)
  else do
    let eventPayload ← match eventPayload with
      | some eventPayload => pure eventPayload
      | none => do
        emit .generatePayload
        createPayload generatePayload
    let delivery : EventDelivery := ⟨.pending,eventType,some eventPayload,webhook⟩
    let d ← createDelivery delivery
    pure (some (d, delivery), requestContext, some eventPayload)

def triggerAllWebhooksSyncFrom (loads : String → Except Exn J) (renderer : Renderer D)
    (eventType generatePayload : String) (parse : Option J → Option R) :
    List Webhook → Option Nat → Option Nat → M (Option R)
  | [], _, _ => pure none
  | webhook :: webhooks, requestContext, eventPayload => do
    let (some (d, delivery), requestContext, eventPayload) ←
        syncDelivery renderer eventType generatePayload webhook requestContext eventPayload
      | pure none
    let responseData ← sendWebhookRequestSync loads d delivery
    match parse responseData with
    | some parsed => pure (some parsed)
    | none =>
      triggerAllWebhooksSyncFrom loads renderer eventType generatePayload parse webhooks requestContext eventPayload

-- webhooks is get_webhooks_for_event(event_type); generate_payload() returns generatePayload.
def triggerAllWebhooksSync (loads : String → Except Exn J) (renderer : Renderer D) (eventType generatePayload : String)
    (parse : Option J → Option R) (webhooks : List Webhook) : M (Option R) :=
  triggerAllWebhooksSyncFrom loads renderer eventType generatePayload parse webhooks none none

def Effect.created : Effect → Option EventDelivery
  | .createDelivery _ delivery => some delivery
  | _ => none

def Effect.posted : Effect → Option String
  | .post targetUrl .. => some targetUrl
  | _ => none

def Effect.isInitialize : Effect → Bool
  | .initializeRequest _ => true
  | _ => false

variable {loads : String → Except Exn J} {renderer : Renderer D} {eventType generatePayload : String}
  {parse : Option J → Option R} {webhook : Webhook} {webhooks : List Webhook} {requestContext eventPayload : Option Nat}
  {w : World}

theorem triggerAllWebhooksSyncFrom_cons :
    triggerAllWebhooksSyncFrom loads renderer eventType generatePayload parse (webhook :: webhooks) requestContext
      eventPayload w =
      match syncDelivery renderer eventType generatePayload webhook requestContext eventPayload w with
      | .ok (some (d, delivery), requestContext, eventPayload) w1 =>
        match sendWebhookRequestSync loads d delivery w1 with
        | .ok responseData w2 =>
          match parse responseData with
          | some parsed => .ok (some parsed) w2
          | none => triggerAllWebhooksSyncFrom loads renderer eventType generatePayload parse webhooks requestContext
              eventPayload w2
        | .error e w2 => .error e w2
      | .ok (none, _, _) w1 => .ok none w1
      | .error e w1 => .error e w1 := by
  simp only [triggerAllWebhooksSyncFrom, bind_apply]
  rcases syncDelivery renderer eventType generatePayload webhook requestContext eventPayload w with
    ⟨⟨_ | ⟨d,delivery⟩,requestContext,eventPayload⟩,w1⟩ | ⟨e,w1⟩
  · rfl
  · simp only [bind_apply]
    rcases sendWebhookRequestSync loads d delivery w1 with ⟨responseData,w2⟩ | ⟨e,w2⟩
    · simp only
      cases parse responseData <;> rfl
    · rfl
  · rfl

def askLog (requestContext : Option Nat) (n : Nat) : List Effect :=
  match requestContext with
  | some _ => []
  | none => [.initializeRequest n]

def payloadLog (generatePayload : String) (eventPayload : Option Nat) (p : Nat) : List Effect :=
  match eventPayload with
  | some _ => []
  | none => [.generatePayload, .createPayload p ⟨generatePayload⟩]

def payloadRows (generatePayload : String) (eventPayload : Option Nat) : List EventPayload :=
  match eventPayload with
  | some _ => []
  | none => [⟨generatePayload⟩]

@[simp] theorem askLog_no_delivery (requestContext : Option Nat) (n : Nat) :
    (askLog requestContext n).filterMap Effect.created = [] ∧ (askLog requestContext n).filterMap Effect.posted = [] := by
  cases requestContext <;> exact ⟨rfl,rfl⟩

@[simp] theorem payloadLog_no_delivery (generatePayload : String) (eventPayload : Option Nat) (p : Nat) :
    (payloadLog generatePayload eventPayload p).filterMap Effect.created = [] ∧
      (payloadLog generatePayload eventPayload p).filterMap Effect.posted = [] := by
  cases eventPayload <;> exact ⟨rfl,rfl⟩

theorem syncDelivery_fixed (fixed : webhook.hasSubscription = false) :
    syncDelivery renderer eventType generatePayload webhook requestContext eventPayload w =
      let payload := eventPayload.getD w.payloads.length
      .ok (some (w.deliveries.length, ⟨.pending,eventType,some payload,webhook⟩), requestContext, some payload)
        { w with
          payloads := w.payloads ++ payloadRows generatePayload eventPayload
          deliveries := w.deliveries ++ [⟨.pending,eventType,some payload,webhook⟩]
          log := w.log ++ payloadLog generatePayload eventPayload w.payloads.length ++
            [.createDelivery w.deliveries.length ⟨.pending,eventType,some payload,webhook⟩] } := by
  cases eventPayload <;> simp [syncDelivery, fixed, bind_apply, map_apply, payloadRows, payloadLog]

theorem syncDelivery_subscription (subscription : webhook.hasSubscription = true) :
    syncDelivery renderer eventType generatePayload webhook requestContext eventPayload w =
      let request := requestContext.getD w.log.length
      let asked := w.log ++ askLog requestContext w.log.length
      if renderer.subscribable then
        match renderer.generate webhook request with
        | some data =>
          .ok (some (w.deliveries.length, ⟨.pending,eventType,some w.payloads.length,webhook⟩), some request,
            eventPayload) { w with
              payloads := w.payloads ++ [⟨renderer.dumps data⟩]
              deliveries := w.deliveries ++ [⟨.pending,eventType,some w.payloads.length,webhook⟩]
              log := asked ++ [.render webhook request, .createPayload w.payloads.length ⟨renderer.dumps data⟩,
                .createDelivery w.deliveries.length ⟨.pending,eventType,some w.payloads.length,webhook⟩] }
        | none => .error (.paymentError ("No payload was generated with subscription for event: " ++ eventType))
            { w with log := asked ++ [.render webhook request] }
      else .ok (none, some request, eventPayload) { w with log := asked } := by
  cases requestContext <;> cases subscribable : renderer.subscribable <;>
    simp [syncDelivery, subscription, subscribable, bind_apply, map_apply, createDeliveryForSubscriptionSyncEvent,
      askLog] <;>
    cases renderer.generate webhook _ <;> simp [bind_apply, map_apply]

def sampleRenderer : Renderer Unit := ⟨true,fun _ _ => some (),fun _ => "{}"⟩

def emptyRenderer : Renderer Unit := ⟨true,fun _ _ => none,fun _ => "{}"⟩

def subscriptionHook : Webhook := { sampleHook with id := 2, subscriptionQuery := some "subscription" }

theorem trigger_all_webhooks_sync_empty_rendering_raises :
    (∃ w', triggerAllWebhooksSync (fun _ => .ok ()) emptyRenderer "order_created" "{}" id
      [subscriptionHook, sampleHook] sampleWorld =
        .error (.paymentError "No payload was generated with subscription for event: order_created") w') ∧
    ∃ w', triggerAllWebhooksSync (fun _ => .ok ()) emptyRenderer "order_created" "{}" id [sampleHook] sampleWorld =
      .ok (some ()) w' :=
  ⟨⟨_,rfl⟩,⟨_,rfl⟩⟩

def secondHook : Webhook := { sampleHook with id := 3, targetUrl := "http://shop.local/second" }

theorem trigger_all_webhooks_sync_nested_body_raises :
    (∃ w', triggerAllWebhooksSync loadsNested sampleRenderer "order_created" "{}" id [sampleHook, secondHook]
        { sampleWorld with transport := fun i => if i = 0 then nestedTransport else answeringWith 200 } =
      .error nestedRecursion w' ∧ w'.log.filterMap Effect.posted = ["http://shop.local/hook"]) ∧
    ∃ w', triggerAllWebhooksSync loadsNested sampleRenderer "order_created" "{}" id [secondHook] sampleWorld =
      .ok (some ()) w' :=
  ⟨⟨_,rfl,rfl⟩,⟨_,rfl⟩⟩

end SaleorWebhook
