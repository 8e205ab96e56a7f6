import SaleorWebhook.Transport
import Mathlib.Algebra.Group.Nat.Basic

namespace SaleorWebhook

-- retry_backoff and retry_kwargs of the task decorator.
def retryBackoff : Nat := 10
def maxRetries : Nat := 5

-- What the task queue may receive, in a store of n delivery rows.
def Effect.wellQueued (n : Nat) : Effect → Prop
  | .delay d => d < n
  | .retry request d countdown => d < n ∧ 0 < request.retries ∧ request.retries ≤ maxRetries ∧
      countdown = retryBackoff * 2 ^ (request.retries - 1)
  | _ => True

theorem Effect.wellQueued.mono {e : Effect} {n m : Nat} (queued : e.wellQueued n) (within : n ≤ m) :
    e.wellQueued m := by
  cases e with
  | delay d => exact Nat.lt_of_lt_of_le queued within
  | retry request d countdown => exact ⟨Nat.lt_of_lt_of_le queued.1 within,queued.2⟩
  | _ => trivial

theorem Effect.wellQueued_of_transport {e : Effect} (transport : e.ledger = false) (n : Nat) : e.wellQueued n := by
  cases e <;> trivial

-- Task.retry: past max_retries it raises MaxRetriesExceededError; otherwise it sends the task again and raises Retry.
def retry (request : TaskRequest) (eventDeliveryId countdown maxRetries : Nat) : M Unit := do
  if maxRetries < request.retries + 1 then throw .maxRetriesExceeded
  let next := { request with retries := request.retries + 1 }
  emit (.retry next eventDeliveryId countdown)
  throw (.retry next countdown)

-- A Retry is reported with its countdown and raised again; MaxRetriesExceededError leaves delivery_status failed.
def retryOrFail (request : TaskRequest) (eventDeliveryId attempt : Nat) : M EventDeliveryStatus :=
  tryCatch (do retry request eventDeliveryId (retryBackoff * 2 ^ request.retries) maxRetries; pure .success)
    fun e =>
      match e with
      | .retry next countdown => do
        reportEventDeliveryAttempt attempt (some countdown)
        throw (.retry next countdown)
      | .maxRetriesExceeded => pure .failed
      | e => throw e

-- The block that except ValueError guards.
def deliverPayload (request : TaskRequest) (eventDeliveryId attempt : Nat) (delivery : EventDelivery)
    (domain : String) : M Unit := do
  let some payload ← payloadRow delivery
    | throw (.valueError ("Event delivery id: " ++ toString eventDeliveryId ++ " has no payload."))
  let webhook := delivery.webhook
  let response ← sendWebhookUsingSchemeMethod webhook.targetUrl domain webhook.secretKey delivery.eventType
    payload.payload
  attemptUpdate attempt response
  let deliveryStatus ← if response.status = .failed then retryOrFail request eventDeliveryId attempt
    else pure .success
  deliveryUpdate eventDeliveryId deliveryStatus

def failOnValueError (eventDeliveryId attempt : Nat) (e : Exn) : M Unit :=
  if e.isValueError then do
    attemptUpdate attempt { content := e.text, status := .failed }
    deliveryUpdate eventDeliveryId .failed
  else throw e

def sendWebhookRequestAsync (request : TaskRequest) (eventDeliveryId : Nat) : M Unit := do
  let some delivery ← getDelivery eventDeliveryId | return
  if !delivery.webhook.isActive then
    deliveryUpdate eventDeliveryId .failed
    return
  let domain ← getDomain
  let attempt ← createAttempt eventDeliveryId (some request.id)
  tryCatch (deliverPayload request eventDeliveryId attempt delivery domain) (failOnValueError eventDeliveryId attempt)
  reportEventDeliveryAttempt attempt none
  clearSuccessfulDelivery eventDeliveryId

end SaleorWebhook

namespace SaleorWebhook

variable {w : World} {request : TaskRequest} {d attempt : Nat}

theorem retry_apply (countdown limit : Nat) :
    retry request d countdown limit w =
      if limit < request.retries + 1 then .error .maxRetriesExceeded w
      else .error (.retry { request with retries := request.retries + 1 } countdown)
        { w with log := w.log ++ [.retry { request with retries := request.retries + 1 } d countdown] } := by
  unfold retry
  split <;> rfl

theorem retryOrFail_apply :
    retryOrFail request d attempt w =
      if request.retries < maxRetries then
        .error (.retry { request with retries := request.retries + 1 } (retryBackoff * 2 ^ request.retries))
          { w with log := w.log ++ [.retry { request with retries := request.retries + 1 } d
            (retryBackoff * 2 ^ request.retries), .report attempt (some (retryBackoff * 2 ^ request.retries))] }
      else .ok .failed w := by
  simp only [retryOrFail, tryCatch_apply, bind_apply, retry_apply]
  by_cases limit : request.retries < maxRetries
  · simp [limit, Nat.not_lt.mpr (Nat.succ_le_of_lt limit), reportEventDeliveryAttempt, bind_apply]
  · simp [limit, Nat.lt_succ_of_le (Nat.not_lt.mp limit)]

def opened (request : TaskRequest) (d : Nat) (w : World) : World := after (createAttempt d (some request.id) w)

def retried (request : TaskRequest) (d attempt : Nat) (response : WebhookResponse) : M Unit := do
  attemptUpdate attempt response
  let next := { request with retries := request.retries + 1 }
  emit (.retry next d (retryBackoff * 2 ^ request.retries))
  reportEventDeliveryAttempt attempt (some (retryBackoff * 2 ^ request.retries))
  throw (.retry next (retryBackoff * 2 ^ request.retries))

def answered (request : TaskRequest) (d attempt : Nat) : Except Exn WebhookResponse → M Unit
  | .ok response =>
    if response.status = .failed then
      if request.retries < maxRetries then retried request d attempt response
      else settle d attempt response .failed
    else settle d attempt response .success
  | .error e =>
    if e.isValueError then settle d attempt { content := e.text, status := .failed } .failed else throw e

variable {delivery : EventDelivery} {row : EventPayload}

theorem sendWebhookRequestAsync_missing (missing : w.deliveries[d]? = none) :
    sendWebhookRequestAsync request d w = .ok () w := by
  simp [sendWebhookRequestAsync, bind_apply, missing]

theorem sendWebhookRequestAsync_inactive (found : w.deliveries[d]? = some delivery)
    (inactive : delivery.webhook.isActive = false) :
    sendWebhookRequestAsync request d w = deliveryUpdate d .failed w := by
  simp [sendWebhookRequestAsync, bind_apply, found, inactive]

theorem sendWebhookRequestAsync_no_payload (found : w.deliveries[d]? = some delivery)
    (active : delivery.webhook.isActive = true) (missing : delivery.payload.bind (w.payloads[·]?) = none) :
    sendWebhookRequestAsync request d w = settle d w.attempts.length
      { content := "Event delivery id: " ++ toString d ++ " has no payload.", status := .failed } .failed
      (opened request d w) := by
  simp [sendWebhookRequestAsync, bind_apply, found, active, tryCatch_apply, deliverPayload, missing, opened,
    failOnValueError, Exn.isValueError, Exn.text, settle]

theorem sendWebhookRequestAsync_dispatched {w2 : World} {outcome : Except Exn WebhookResponse}
    (found : w.deliveries[d]? = some delivery) (active : delivery.webhook.isActive = true)
    (payload : delivery.payload.bind (w.payloads[·]?) = some row)
    (dispatched : sendWebhookUsingSchemeMethod delivery.webhook.targetUrl w.domain delivery.webhook.secretKey
      delivery.eventType row.payload (opened request d w) = liftExcept outcome w2) :
    sendWebhookRequestAsync request d w = answered request d w.attempts.length outcome w2 := by
  simp only [opened, createAttempt_apply, after_ok] at dispatched
  simp only [sendWebhookRequestAsync, bind_apply, getDelivery_apply, found, active, Bool.not_true,
    Bool.false_eq_true, if_false, getDomain_apply, createAttempt_apply, pure_apply, tryCatch_apply,
    deliverPayload, payloadRow_apply, List.getElem?_append_left, payload, dispatched]
  cases outcome with
  | ok response =>
    by_cases failed : response.status = .failed
    · by_cases limit : request.retries < maxRetries <;>
        simp [answered, failed, limit, retried, settle, retryOrFail_apply, bind_apply, failOnValueError,
          Exn.isValueError]
    · simp [answered, failed, settle, bind_apply]
  | error e =>
    cases value : e.isValueError <;> simp [answered, value, settle, bind_apply, failOnValueError]

theorem sendWebhookRequestAsync_sent (request : TaskRequest) (found : w.deliveries[d]? = some delivery)
    (active : delivery.webhook.isActive = true) (payload : delivery.payload.bind (w.payloads[·]?) = some row) :
    ∃ calls sent, (∀ e ∈ sent, e.ledger = false) ∧ sendWebhookRequestAsync request d w =
      answered request d w.attempts.length
        (dispatchResult w.nfkc w.lower delivery.webhook.targetUrl (w.transport w.calls))
        { opened request d w with calls, log := (opened request d w).log ++ sent } := by
  obtain ⟨calls,sent,result,transport⟩ := sendWebhookUsingSchemeMethod_outcome delivery.webhook.targetUrl w.domain
    delivery.webhook.secretKey delivery.eventType row.payload (w := opened request d w)
  exact ⟨calls,sent,transport,sendWebhookRequestAsync_dispatched found active payload result⟩

theorem retried_apply {response : WebhookResponse} :
    retried request d attempt response w =
      .error (.retry { request with retries := request.retries + 1 } (retryBackoff * 2 ^ request.retries)) { w with
        attempts := w.attempts.modify (·.answer response) attempt
        log := w.log ++ [.updateAttempt attempt response,
          .retry { request with retries := request.retries + 1 } d (retryBackoff * 2 ^ request.retries),
          .report attempt (some (retryBackoff * 2 ^ request.retries))] } := by
  simp [retried, bind_apply]

end SaleorWebhook
