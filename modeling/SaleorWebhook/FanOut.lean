import SaleorWebhook.Store

namespace SaleorWebhook

-- trigger_webhooks_async: the deliveries of one event for its async webhooks, each queued to the task.

-- group_webhooks_by_subscription: the regular webhooks, then the subscription ones, each in list order.
def groupWebhooksBySubscription (webhooks : List Webhook) : List Webhook × List Webhook :=
  (webhooks.filter (!·.hasSubscription), webhooks.filter (·.hasSubscription))

variable {D : Type}

-- create_deliveries_for_subscriptions: a new request for each webhook; one whose data is falsy is skipped.
def renderSubscriptions (renderer : Renderer D) : List Webhook → M (List (Webhook × String))
  | [] => pure []
  | webhook :: webhooks => do
    let request ← initializeRequest
    emit (.render webhook request)
    match renderer.generate webhook request with
    | none => renderSubscriptions renderer webhooks
    | some data => do
      let rest ← renderSubscriptions renderer webhooks
      pure ((webhook, renderer.dumps data) :: rest)

-- The payloads the loop collected are bulk-created first, then the deliveries that reference them, in loop order.
def createDeliveriesForSubscriptions (renderer : Renderer D) (eventType : String) (webhooks : List Webhook) :
    M (List Nat) := do
  if !renderer.subscribable then return []
  let rendered ← renderSubscriptions renderer webhooks
  let eventPayloads ← rendered.mapM fun rendering => createPayload rendering.2
  (eventPayloads.zip rendered).mapM fun (eventPayload, webhook, _) =>
    createDelivery ⟨.pending,eventType,some eventPayload,webhook⟩

-- The requestor and the subscribable object are fixed in the renderer.
def triggerWebhooksAsync (renderer : Renderer D) (data eventType : String) (webhooks : List Webhook) : M Unit := do
  let (regularWebhooks, subscriptionWebhooks) := groupWebhooksBySubscription webhooks
  let regular ← (if regularWebhooks.isEmpty then pure [] else do
    let payload ← createPayload data
    createEventDeliveryListForWebhooks regularWebhooks payload eventType)
  let subscription ← (if subscriptionWebhooks.isEmpty then pure [] else
    createDeliveriesForSubscriptions renderer eventType subscriptionWebhooks)
  List.forM (regular ++ subscription) fun delivery => emit (.delay delivery)

def rendered (renderer : Renderer D) (renders : List (Webhook × Nat)) : List (Webhook × String) :=
  renders.filterMap fun (webhook, request) => (renderer.generate webhook request).map (webhook, renderer.dumps ·)

def Effect.rendered : Effect → Option (Webhook × Nat)
  | .render webhook request => some (webhook, request)
  | _ => none

def Effect.delayed : Effect → Option Nat
  | .delay delivery => some delivery
  | _ => none

def createdPayloads (start : Nat) (payloads : List EventPayload) : List Effect :=
  (payloads.enumFrom start).map fun (p, payload) => .createPayload p payload

def createdDeliveries (start : Nat) (deliveries : List EventDelivery) : List Effect :=
  (deliveries.enumFrom start).map fun (d, delivery) => .createDelivery d delivery

def renderLog (renders : List (Webhook × Nat)) : List Effect :=
  renders.flatMap fun (webhook, request) => [.initializeRequest request, .render webhook request]

def requestsFrom : List Webhook → Nat → List (Webhook × Nat)
  | [], _ => []
  | webhook :: webhooks, start => (webhook, start) :: requestsFrom webhooks (start + 2)

def subscriptionRows (eventType : String) (start : Nat) (made : List (Webhook × String)) : List EventDelivery :=
  (made.enumFrom start).map fun (p, webhook, _) => ⟨.pending,eventType,some p,webhook⟩

@[simp] theorem requestsFrom_map_fst : ∀ (webhooks : List Webhook) (start : Nat),
    (requestsFrom webhooks start).map Prod.fst = webhooks
  | [], _ => rfl
  | webhook :: webhooks, start => by simp [requestsFrom, requestsFrom_map_fst webhooks]

@[simp] theorem createdPayloads_rendered (start : Nat) (payloads : List EventPayload) :
    (createdPayloads start payloads).filterMap Effect.rendered = [] := by
  simp [createdPayloads, List.filterMap_eq_nil_iff, Effect.rendered]

@[simp] theorem createdPayloads_delayed (start : Nat) (payloads : List EventPayload) :
    (createdPayloads start payloads).filterMap Effect.delayed = [] := by
  simp [createdPayloads, List.filterMap_eq_nil_iff, Effect.delayed]

@[simp] theorem createdDeliveries_rendered (start : Nat) (deliveries : List EventDelivery) :
    (createdDeliveries start deliveries).filterMap Effect.rendered = [] := by
  simp [createdDeliveries, List.filterMap_eq_nil_iff, Effect.rendered]

@[simp] theorem createdDeliveries_delayed (start : Nat) (deliveries : List EventDelivery) :
    (createdDeliveries start deliveries).filterMap Effect.delayed = [] := by
  simp [createdDeliveries, List.filterMap_eq_nil_iff, Effect.delayed]

@[simp] theorem renderLog_rendered (renders : List (Webhook × Nat)) :
    (renderLog renders).filterMap Effect.rendered = renders := by
  induction renders with
  | nil => rfl
  | cons render renders ih => simp [renderLog, Effect.rendered] at ih ⊢; exact ih

@[simp] theorem renderLog_delayed (renders : List (Webhook × Nat)) :
    (renderLog renders).filterMap Effect.delayed = [] := by
  simp only [renderLog, List.filterMap_eq_nil_iff, List.mem_flatMap]
  rintro e ⟨⟨webhook, request⟩, -, member⟩
  rcases List.mem_pair.mp member with rfl | rfl <;> rfl

variable {α : Type}

theorem mapM_createPayload (text : α → String) : ∀ (xs : List α) (w : World),
    xs.mapM (fun x => createPayload (text x)) w = .ok (List.range' w.payloads.length xs.length) { w with
      payloads := w.payloads ++ xs.map fun x => ⟨text x⟩
      log := w.log ++ createdPayloads w.payloads.length (xs.map fun x => ⟨text x⟩) }
  | [], w => by simp only [List.mapM_nil, pure_apply]; simp [createdPayloads]
  | x :: xs, w => by
    simp only [List.mapM_cons, bind_apply, createPayload_apply, mapM_createPayload text xs, pure_apply]
    simp [createdPayloads, List.range'_succ, List.enumFrom_cons]

theorem mapM_createDelivery (row : α → EventDelivery) : ∀ (xs : List α) (w : World),
    xs.mapM (fun x => createDelivery (row x)) w = .ok (List.range' w.deliveries.length xs.length) { w with
      deliveries := w.deliveries ++ xs.map row
      log := w.log ++ createdDeliveries w.deliveries.length (xs.map row) }
  | [], w => by simp only [List.mapM_nil, pure_apply]; simp [createdDeliveries]
  | x :: xs, w => by
    simp only [List.mapM_cons, bind_apply, createDelivery_apply, mapM_createDelivery row xs, pure_apply]
    simp [createdDeliveries, List.range'_succ, List.enumFrom_cons]

theorem forM_delay : ∀ (deliveries : List Nat) (w : World),
    List.forM deliveries (fun delivery => emit (.delay delivery)) w =
      .ok () { w with log := w.log ++ deliveries.map .delay }
  | [], w => by simp [pure_apply]
  | d :: deliveries, w => by simp [List.forM_cons, bind_apply, forM_delay deliveries]

theorem renderSubscriptions_apply (renderer : Renderer D) : ∀ (webhooks : List Webhook) (w : World),
    renderSubscriptions renderer webhooks w = .ok (rendered renderer (requestsFrom webhooks w.log.length)) { w with
      log := w.log ++ renderLog (requestsFrom webhooks w.log.length) }
  | [], w => by simp [renderSubscriptions, requestsFrom, rendered, renderLog]
  | webhook :: webhooks, w => by
    simp only [renderSubscriptions, bind_apply, initializeRequest_apply, emit_apply, requestsFrom]
    cases generated : renderer.generate webhook w.log.length <;>
      simp [rendered, renderLog, generated, renderSubscriptions_apply renderer webhooks, map_apply]

theorem createDeliveriesForSubscriptions_apply (renderer : Renderer D) (eventType : String) (webhooks : List Webhook)
    (w : World) :
    let renders := if renderer.subscribable then requestsFrom webhooks w.log.length else []
    let made := rendered renderer renders
    createDeliveriesForSubscriptions renderer eventType webhooks w =
      .ok (List.range' w.deliveries.length made.length) { w with
        payloads := w.payloads ++ made.map fun rendering => ⟨rendering.2⟩
        deliveries := w.deliveries ++ subscriptionRows eventType w.payloads.length made
        log := w.log ++ renderLog renders ++ createdPayloads w.payloads.length (made.map fun rendering => ⟨rendering.2⟩) ++
          createdDeliveries w.deliveries.length (subscriptionRows eventType w.payloads.length made) } := by
  cases subscribable : renderer.subscribable
  · simp [createDeliveriesForSubscriptions, subscribable, rendered, subscriptionRows, createdPayloads,
      createdDeliveries, renderLog]
  · simp only [createDeliveriesForSubscriptions, subscribable, Bool.not_true, Bool.false_eq_true, if_false,
      bind_apply, pure_apply, renderSubscriptions_apply, mapM_createPayload, ← List.enumFrom_eq_zip_range',
      mapM_createDelivery]
    simp [subscriptionRows]

theorem createDeliveriesForSubscriptions_guarded (renderer : Renderer D) (eventType : String)
    (webhooks : List Webhook) (w : World) :
    (if webhooks.isEmpty then pure [] else createDeliveriesForSubscriptions renderer eventType webhooks) w =
      createDeliveriesForSubscriptions renderer eventType webhooks w := by
  cases webhooks with
  | nil => rw [createDeliveriesForSubscriptions_apply]; cases renderer.subscribable <;> simp [requestsFrom, rendered,
      subscriptionRows, createdPayloads, createdDeliveries, renderLog]
  | cons => rfl

theorem regularDeliveries_apply (data eventType : String) (regular : List Webhook) (w : World) :
    (if regular.isEmpty then pure [] else do
        let payload ← createPayload data
        createEventDeliveryListForWebhooks regular payload eventType : M (List Nat)) w =
      .ok (List.range' w.deliveries.length regular.length) { w with
        payloads := w.payloads ++ if regular = [] then [] else [⟨data⟩]
        deliveries := w.deliveries ++ regular.map (⟨.pending,eventType,some w.payloads.length,·⟩)
        log := w.log ++ if regular = [] then [] else .createPayload w.payloads.length ⟨data⟩ ::
          createdDeliveries w.deliveries.length (regular.map (⟨.pending,eventType,some w.payloads.length,·⟩)) } := by
  cases regular with
  | nil => simp
  | cons webhook webhooks =>
    simp only [List.isEmpty_cons, Bool.false_eq_true, if_false, bind_apply, createPayload_apply,
      createEventDeliveryListForWebhooks, mapM_createDelivery]
    simp

theorem trigger_webhooks_async_fan_out (renderer : Renderer D) (data eventType : String) (webhooks : List Webhook)
    (w : World) :
    let regular := webhooks.filter (!·.hasSubscription)
    let fixed : List EventPayload := if regular = [] then [] else [⟨data⟩]
    ∃ renders new, renders.map Prod.fst = (if renderer.subscribable then webhooks.filter (·.hasSubscription) else []) ∧
      new.filterMap Effect.rendered = renders ∧
      new.filterMap Effect.delayed =
        List.range' w.deliveries.length (regular.length + (rendered renderer renders).length) ∧
      triggerWebhooksAsync renderer data eventType webhooks w = .ok () { w with
        payloads := w.payloads ++ fixed ++ (rendered renderer renders).map fun rendering => ⟨rendering.2⟩
        deliveries := w.deliveries ++ regular.map (⟨.pending,eventType,some w.payloads.length,·⟩) ++
          subscriptionRows eventType (w.payloads.length + fixed.length) (rendered renderer renders)
        log := w.log ++ new } := by
  dsimp only
  simp only [triggerWebhooksAsync, groupWebhooksBySubscription, bind_apply, regularDeliveries_apply,
    createDeliveriesForSubscriptions_guarded, createDeliveriesForSubscriptions_apply, forM_delay, List.append_assoc,
    List.length_append]
  refine ⟨_,_,?_,?_,?_,rfl⟩
  · cases renderer.subscribable <;> simp
  · cases renderer.subscribable <;> simp [apply_ite (List.filterMap Effect.rendered), Effect.rendered]
  · simp [apply_ite (List.filterMap Effect.delayed), Effect.delayed, List.filterMap_map, Function.comp_def,
      List.range'_append_1, Nat.add_comm]

end SaleorWebhook
