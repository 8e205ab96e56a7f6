import SaleorWebhook.StoreFrames

namespace SaleorWebhook

-- A call that returns leaves none of its deliveries pending; one that raises, at most its last.

def SettledRows (n m : Nat) (w : World) : Prop :=
  ∀ i, n ≤ i → i < m → ∀ row ∈ w.deliveries[i]?, row.status ≠ .pending

def LeavesSettled {α : Type} (n : Nat) : EStateM.Result Exn World α → Prop
  | .ok _ w' => SettledRows n w'.deliveries.length w'
  | .error _ w' => SettledRows n (w'.deliveries.length - 1) w'

variable {w w1 : World} {n m d : Nat}

theorem SettledRows.empty (within : m ≤ n) : SettledRows n m w := fun _ low high => absurd high (by omega)

theorem SettledRows.mono {m' : Nat} (settled : SettledRows n m w) (within : m' ≤ m) : SettledRows n m' w :=
  fun i low high => settled i low (by omega)

theorem SettledRows.same (settled : SettledRows n m w) (same : w1.deliveries = w.deliveries) : SettledRows n m w1 :=
  fun i low high row found => settled i low high row (by rwa [same] at found)

theorem SettledRows.grow (settled : SettledRows n m w) (grown : w.deliveries <+: w1.deliveries)
    (within : m ≤ w.deliveries.length) : SettledRows n m w1 :=
  fun i low high row found => settled i low high row (by rwa [prefix_getElem? grown (by omega)] at found)

theorem SettledRows.succ (settled : SettledRows n d w) (row : ∀ r ∈ w.deliveries[d]?, r.status ≠ .pending) :
    SettledRows n (d + 1) w := by
  intro i low high
  rcases Nat.lt_succ_iff_lt_or_eq.mp high with below | rfl
  · exact settled i low below
  · exact row

theorem Settles.settledRows {P : Nat → Effect → Prop} (settles : Settles P d w w1) (settled : SettledRows n m w) : SettledRows n m w1 := by
  obtain ⟨writes,written⟩ := settles
  intro i low high row found
  rw [written.deliveries] at found
  by_cases own : d = i
  · subst own
    rw [Writes.rows_getElem?_self] at found
    obtain ⟨old,kept,rfl⟩ := Option.mem_map.mp found
    unfold Writes.row
    split
    · next status status_written =>
      rw [finalRow_status]
      exact fun pending => written.settled (by rw [status_written, pending])
    · exact settled d low high old kept
  · rw [Writes.rows_getElem?_other _ _ own] at found
    exact settled i low high row found

variable {J R D : Type}

theorem syncDelivery_rows (renderer : Renderer D) (eventType generatePayload : String) (webhook : Webhook)
    (requestContext eventPayload : Option Nat) (w : World) :
    match syncDelivery renderer eventType generatePayload webhook requestContext eventPayload w with
    | .ok (some (d, delivery), _, _) w1 => d = w.deliveries.length ∧ w1.deliveries = w.deliveries ++ [delivery]
    | .ok (none, _, _) w1 => w1.deliveries = w.deliveries
    | .error _ w1 => w1.deliveries = w.deliveries := by
  cases subscription : webhook.hasSubscription
  · rw [syncDelivery_fixed subscription]
    exact ⟨rfl,rfl⟩
  · rw [syncDelivery_subscription subscription]
    cases renderer.subscribable
    · rfl
    · simp only [if_true]
      cases renderer.generate webhook (requestContext.getD w.log.length)
      · rfl
      · exact ⟨rfl,rfl⟩

theorem sendFresh_settled (loads : String → Except Exn J) (delivery : EventDelivery)
    (settled : SettledRows n w.deliveries.length w) (rows : w1.deliveries = w.deliveries ++ [delivery]) :
    LeavesSettled n (sendWebhookRequestSync loads w.deliveries.length delivery w1) := by
  have stored : w1.deliveries[w.deliveries.length]? = some delivery := by simp [rows]
  have kept : SettledRows n w.deliveries.length w1 := settled.grow (rows ▸ List.prefix_append _ _) le_rfl
  obtain ⟨settles,answered⟩ := sendWebhookRequestSync_settles loads delivery stored
  cases sent : sendWebhookRequestSync loads w.deliveries.length delivery w1 with
  | error e w2 =>
    rw [sent, after_error] at settles
    show SettledRows n (w2.deliveries.length - 1) w2
    rw [settles.length, rows, List.length_append, List.length_singleton, Nat.add_sub_cancel]
    exact settles.settledRows kept
  | ok responseData w2 =>
    rw [sent, after_ok] at settles
    show SettledRows n w2.deliveries.length w2
    rw [settles.length, rows, List.length_append, List.length_singleton]
    exact (settles.settledRows kept).succ (answered responseData w2 sent)

theorem triggerAllWebhooksSyncFrom_settled (loads : String → Except Exn J) (renderer : Renderer D)
    (eventType generatePayload : String) (parse : Option J → Option R) :
    ∀ (webhooks : List Webhook) (requestContext eventPayload : Option Nat) (w : World) (n : Nat),
      SettledRows n w.deliveries.length w →
      LeavesSettled n (triggerAllWebhooksSyncFrom loads renderer eventType generatePayload parse webhooks
        requestContext eventPayload w)
  | [], _, _, _, _, settled => settled
  | webhook :: webhooks, requestContext, eventPayload, w, n, settled => by
    have made := syncDelivery_rows renderer eventType generatePayload webhook requestContext eventPayload w
    rw [triggerAllWebhooksSyncFrom_cons]
    revert made
    cases syncDelivery renderer eventType generatePayload webhook requestContext eventPayload w with
    | error e w1 =>
      intro same
      exact (settled.same same).mono (by rw [same]; omega)
    | ok made w1 =>
      obtain ⟨_ | ⟨d, delivery⟩,requestContext,eventPayload⟩ := made
      · intro same
        show SettledRows n w1.deliveries.length w1
        rw [same]
        exact settled.same same
      · rintro ⟨rfl,rows⟩
        have turn := sendFresh_settled loads delivery settled rows
        dsimp only
        revert turn
        cases sendWebhookRequestSync loads w.deliveries.length delivery w1 with
        | error e w2 => exact id
        | ok responseData w2 =>
          intro all
          dsimp only
          cases parse responseData with
          | some parsed => exact all
          | none =>
            exact triggerAllWebhooksSyncFrom_settled loads renderer eventType generatePayload parse webhooks
              requestContext eventPayload w2 n all

theorem triggerWebhookSync_settled (loads : String → Except Exn J) (renderer : Renderer D) (eventType data : String)
    (webhook : Option Webhook) (w : World) :
    LeavesSettled w.deliveries.length (triggerWebhookSync loads renderer eventType data webhook w) := by
  cases webhook with
  | none => exact SettledRows.empty (Nat.sub_le _ _)
  | some webhook =>
    cases subscription : webhook.hasSubscription
    · simp only [triggerWebhookSync, subscription, Bool.false_eq_true, if_false, bind_apply, createPayload_apply,
        createDelivery_apply, pure_apply]
      exact sendFresh_settled loads _ (SettledRows.empty le_rfl) rfl
    · simp only [triggerWebhookSync, subscription, if_true, bind_apply, createDeliveryForSubscriptionSyncEvent_apply]
      cases renderer.subscribable <;>
        simp only [Bool.false_eq_true, if_false, if_true, pure_apply, Option.getD_none]
      · exact SettledRows.empty le_rfl
      · cases renderer.generate webhook (w.log.length) with
        | none => exact SettledRows.empty (Nat.sub_le _ _)
        | some rendering => exact sendFresh_settled loads _ (SettledRows.empty le_rfl) rfl

theorem sync_calls_settle_deliveries (loads : String → Except Exn J) (renderer : Renderer D)
    (eventType data generatePayload : String) (webhook : Option Webhook) (parse : Option J → Option R)
    (webhooks : List Webhook) (w : World) :
    LeavesSettled w.deliveries.length (triggerWebhookSync loads renderer eventType data webhook w) ∧
      LeavesSettled w.deliveries.length
        (triggerAllWebhooksSync loads renderer eventType generatePayload parse webhooks w) :=
  ⟨triggerWebhookSync_settled loads renderer eventType data webhook w,
    triggerAllWebhooksSyncFrom_settled loads renderer eventType generatePayload parse webhooks none none w _
      (SettledRows.empty le_rfl)⟩

end SaleorWebhook
