import SaleorWebhook.AsyncSchedules
import SaleorWebhook.SyncContext

namespace SaleorWebhook

-- Deliveries that share one EventPayload: a success detaches only its own reference, and no payload row is removed.

variable {J R D : Type} {loads : String → Except Exn J} {renderer : Renderer D} {eventType generatePayload : String}
  {parse : Option J → Option R} {webhook : Webhook} {requestContext eventPayload : Option Nat} {w : World}
  {d : Nat} {delivery : EventDelivery}

end SaleorWebhook
