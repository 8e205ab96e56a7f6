import SaleorWebhook.Records

namespace SaleorWebhook

-- ORM calls are the row operations they perform; the helpers not in src/ follow the spec.

def getDomain : M String := fun w => .ok w.domain w

-- EventDelivery.objects.select_related("payload", "webhook__app").get(id=...), None for DoesNotExist.
def getDelivery (id : Nat) : M (Option EventDelivery) := fun w => .ok w.deliveries[id]? w

-- delivery.payload: the referenced EventPayload row, None when the reference is empty.
def payloadRow (delivery : EventDelivery) : M (Option EventPayload) := fun w =>
  .ok (delivery.payload.bind (w.payloads[·]?)) w

-- EventPayload.objects.create(payload=...)
def createPayload (payload : String) : M Nat := fun w =>
  .ok w.payloads.length { w with
    payloads := w.payloads ++ [⟨payload⟩]
    log := w.log ++ [.createPayload w.payloads.length ⟨payload⟩] }

-- EventDelivery.objects.create(...)
def createDelivery (delivery : EventDelivery) : M Nat := fun w =>
  .ok w.deliveries.length { w with
    deliveries := w.deliveries ++ [delivery]
    log := w.log ++ [.createDelivery w.deliveries.length delivery] }

/-- Modelled from the spec: create_event_delivery_list_for_webhooks (webhook/utils.py, not in src/) bulk-creates
one pending delivery of the event type per webhook, in order, all referencing the given payload. -/
def createEventDeliveryListForWebhooks (webhooks : List Webhook) (eventPayload : Nat) (eventType : String) :
    M (List Nat) :=
  webhooks.mapM fun webhook => createDelivery ⟨.pending,eventType,some eventPayload,webhook⟩

/-- Modelled from the spec: create_attempt (webhook/utils.py, not in src/) inserts a new pending attempt row for
the delivery, with the task id, immediately before a send is attempted. -/
def createAttempt (delivery : Nat) (taskId : Option String) : M Nat := fun w =>
  .ok w.attempts.length { w with
    attempts := w.attempts ++ [{ delivery, taskId }]
    log := w.log ++ [.createAttempt w.attempts.length { delivery, taskId }] }

def DeliveryAttempt.answer (row : DeliveryAttempt) (response : WebhookResponse) : DeliveryAttempt :=
  { row with
    status := response.status
    response := some response.content
    responseHeaders := response.responseHeaders
    responseStatusCode := response.responseStatusCode }

/-- Modelled from the spec: attempt_update (webhook/utils.py, not in src/) sets the attempt's response fields and
status from the response after the transport call returns. -/
def attemptUpdate (attempt : Nat) (response : WebhookResponse) : M Unit := fun w =>
  .ok () { w with
    attempts := w.attempts.modify (·.answer response) attempt
    log := w.log ++ [.updateAttempt attempt response] }

/-- Modelled from the spec: delivery_update (webhook/utils.py, not in src/) sets the delivery's status. -/
def deliveryUpdate (delivery : Nat) (status : EventDeliveryStatus) : M Unit := fun w =>
  .ok () { w with
    deliveries := w.deliveries.modify (fun row => { row with status }) delivery
    log := w.log ++ [.updateDelivery delivery status] }

/-- Modelled from the spec: clear_successful_delivery (webhook/utils.py, not in src/) detaches the payload
reference of a delivery whose status is success, so that payload bodies are collected apart from the delivery
history; the EventPayload row is left to that collection, and any other delivery is left as it is. -/
def clearSuccessfulDelivery (delivery : Nat) : M Unit := fun w =>
  match w.deliveries[delivery]? with
  | some row =>
    if row.status = .success then
      .ok () { w with
        deliveries := w.deliveries.modify (fun row => { row with payload := none }) delivery
        log := w.log ++ [.clearDelivery delivery] }
    else .ok () w
  | none => .ok () w

/-- Modelled from the spec: observability.report_event_delivery_attempt (not in src/) reports the attempt to the
observability buffer, with the next retry's date when one is scheduled; the date is kept as the retry's countdown,
the seconds from now that task_next_retry_date adds. -/
def reportEventDeliveryAttempt (attempt : Nat) (nextRetry : Option Nat) : M Unit :=
  emit (.report attempt nextRetry)

-- The collaborators of subscription rendering for one event.
structure Renderer (D : Type) where
  subscribable : Bool
  generate : Webhook → Nat → Option D
  dumps : D → String

-- initialize_request builds a new request object; the position of its call in the log is its identity.
def initializeRequest : M Nat := fun w =>
  .ok w.log.length { w with log := w.log ++ [.initializeRequest w.log.length] }

@[simp] theorem List.modify_append_length {α : Type} (f : α → α) (l : List α) (x : α) :
    (l ++ [x]).modify f l.length = l ++ [f x] := by
  induction l with
  | nil => rfl
  | cons y l ih => simp [ih]

@[simp] theorem getDomain_apply (w : World) : getDomain w = .ok w.domain w := rfl

@[simp] theorem getDelivery_apply (id : Nat) (w : World) : getDelivery id w = .ok w.deliveries[id]? w := rfl

@[simp] theorem payloadRow_apply (delivery : EventDelivery) (w : World) :
    payloadRow delivery w = .ok (delivery.payload.bind (w.payloads[·]?)) w := rfl

@[simp] theorem createPayload_apply (payload : String) (w : World) :
    createPayload payload w = .ok w.payloads.length { w with
      payloads := w.payloads ++ [⟨payload⟩]
      log := w.log ++ [.createPayload w.payloads.length ⟨payload⟩] } := rfl

@[simp] theorem createDelivery_apply (delivery : EventDelivery) (w : World) :
    createDelivery delivery w = .ok w.deliveries.length { w with
      deliveries := w.deliveries ++ [delivery]
      log := w.log ++ [.createDelivery w.deliveries.length delivery] } := rfl

@[simp] theorem createAttempt_apply (delivery : Nat) (taskId : Option String) (w : World) :
    createAttempt delivery taskId w = .ok w.attempts.length { w with
      attempts := w.attempts ++ [{ delivery, taskId }]
      log := w.log ++ [.createAttempt w.attempts.length { delivery, taskId }] } := rfl

@[simp] theorem attemptUpdate_apply (attempt : Nat) (response : WebhookResponse) (w : World) :
    attemptUpdate attempt response w = .ok () { w with
      attempts := w.attempts.modify (·.answer response) attempt
      log := w.log ++ [.updateAttempt attempt response] } := rfl

@[simp] theorem reportEventDeliveryAttempt_apply (attempt : Nat) (nextRetry : Option Nat) (w : World) :
    reportEventDeliveryAttempt attempt nextRetry w = .ok () { w with log := w.log ++ [.report attempt nextRetry] } :=
  rfl

@[simp] theorem deliveryUpdate_apply (delivery : Nat) (status : EventDeliveryStatus) (w : World) :
    deliveryUpdate delivery status w = .ok () { w with
      deliveries := w.deliveries.modify (fun row => { row with status }) delivery
      log := w.log ++ [.updateDelivery delivery status] } := rfl

@[simp] theorem initializeRequest_apply (w : World) :
    initializeRequest w = .ok w.log.length { w with log := w.log ++ [.initializeRequest w.log.length] } := rfl

-- The delivery row once a send has written its status and clear_successful_delivery has run.
def finalRow (status : EventDeliveryStatus) : EventDelivery → EventDelivery :=
  fun row => { row with status, payload := if status = .success then none else row.payload }

@[simp] theorem finalRow_failed : finalRow .failed = fun row => { row with status := .failed } := rfl

@[simp] theorem finalRow_status (status : EventDeliveryStatus) (row : EventDelivery) :
    (finalRow status row).status = status := rfl

theorem finalRow_of_ne {status : EventDeliveryStatus} (kept : status ≠ .success) :
    finalRow status = fun row => { row with status } :=
  funext fun row => by simp [finalRow, kept]

@[simp] theorem finalRow_success : finalRow .success = fun row => { row with status := .success, payload := none } :=
  rfl

-- attempt_update, delivery_update, the report without a next retry, then clear_successful_delivery.
def settle (d attempt : Nat) (response : WebhookResponse) (status : EventDeliveryStatus) : M Unit := do
  attemptUpdate attempt response
  deliveryUpdate d status
  reportEventDeliveryAttempt attempt none
  clearSuccessfulDelivery d

variable {w : World} {d attempt : Nat}

theorem settle_apply {response : WebhookResponse} {status : EventDeliveryStatus} (present : d < w.deliveries.length) :
    settle d attempt response status w = .ok () { w with
      attempts := w.attempts.modify (·.answer response) attempt
      deliveries := w.deliveries.modify (finalRow status) d
      log := w.log ++ [.updateAttempt attempt response, .updateDelivery d status, .report attempt none] ++
        if status = .success then [.clearDelivery d] else [] } := by
  rw [show finalRow status = fun row => { row with status, payload := if status = .success then none else row.payload }
    from rfl]
  by_cases success : status = .success <;>
    simp [settle, bind_apply, clearSuccessfulDelivery, success, List.modify_modify_eq, List.getElem?_modify_eq,
      List.getElem?_eq_getElem present, Function.comp_def]

end SaleorWebhook
