import SaleorWebhook.Transport

namespace SaleorWebhook

-- observability.dump_payload is dumpEvent on one event, dumpEvents on the batch.

-- webhook/observability.WebhookData: what the batcher reads of an observability webhook.
structure WebhookData where
  id : Nat
  saleorDomain : String
  targetUrl : String
  secretKey : String
  deriving DecidableEq, Repr

-- WebhookEventAsyncType.OBSERVABILITY
def observabilityEventType : String := "observability"

def queueSchemes : List String := [WebhookSchemes.awsSqs.value, WebhookSchemes.googleCloudPubsub.value]

variable {E : Type}

def sendEachEvent (dumpEvent : E → String) (webhook : WebhookData) : List E → Nat → M Nat
  | [], failed => pure failed
  | event :: events, failed => do
    let response ← sendWebhookUsingSchemeMethod webhook.targetUrl webhook.saleorDomain webhook.secretKey
      observabilityEventType (dumpEvent event)
    sendEachEvent dumpEvent webhook events (if response.status = .failed then failed + 1 else failed)

-- dropped_events_count: the batch after except ValueError, failed otherwise.
def sendObservabilityEventsTo (dumpEvent : E → String) (dumpEvents : List E → String) (events : List E)
    (webhook : WebhookData) : M Unit := do
  let parts ← parseUrl webhook.targetUrl
  let scheme := asciiLower parts.scheme
  let failed ← tryCatch
    (if scheme ∈ queueSchemes then some <$> sendEachEvent dumpEvent webhook events 0
    else do
      let response ← sendWebhookUsingSchemeMethod webhook.targetUrl webhook.saleorDomain webhook.secretKey
        observabilityEventType (dumpEvents events)
      pure (some (if response.status = .failed then events.length else 0)))
    fun e => if e.isValueError then pure none else throw e
  emit (.dropped webhook.id (failed.getD events.length))

def sendObservabilityEvents (dumpEvent : E → String) (dumpEvents : List E → String) (webhooks : List WebhookData)
    (events : List E) : M Unit :=
  List.forM webhooks (sendObservabilityEventsTo dumpEvent dumpEvents events)

def Effect.dispatched : Effect → Option (String × String)
  | .dispatch targetUrl data => some (targetUrl, data)
  | _ => none

-- Two collectors: an awssqs one whose target names no host, and an http one; transports answer 200.
def hostlessCollector : WebhookData := ⟨1,"shop.local","awssqs:///queue","secret"⟩

def httpCollector : WebhookData := ⟨2,"shop.local","http://collector.local/2","secret"⟩

def collectorWorld : World := { sampleWorld with transport := fun _ => answeringWith 200 }

-- None.split raises AttributeError, which except ValueError lets through.
theorem send_observability_events_hostless_queue_stops :
    let run := sendObservabilityEvents (fun (_ : Unit) => "{}") (fun _ => "[{}]") [hostlessCollector, httpCollector]
      [()] collectorWorld
    run = .error (.attributeError "\x27NoneType\x27 object has no attribute \x27split\x27") (after run) ∧
      (after run).log.filterMap Effect.dispatched = [("awssqs:///queue", "{}")] ∧
      (after (sendObservabilityEvents (fun (_ : Unit) => "{}") (fun _ => "[{}]") [httpCollector] [()]
        collectorWorld)).log.filterMap Effect.dispatched = [("http://collector.local/2", "[{}]")] :=
  ⟨rfl,rfl,rfl⟩

end SaleorWebhook
