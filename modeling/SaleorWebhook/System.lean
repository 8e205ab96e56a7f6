import SaleorWebhook.StoreFrames

namespace SaleorWebhook

-- The system tasks.py is part of: its entry points in any order, interleaved with the queue executions of the task.

-- An execution of the task carries how the libraries behave during it, as in runAll.
inductive Operation (J R D E : Type) where
  | triggerWebhooksAsync (renderer : Renderer D) (data eventType : String) (webhooks : List Webhook)
  | triggerWebhookSync (loads : String → Except Exn J) (renderer : Renderer D) (eventType data : String)
      (webhook : Option Webhook)
  | triggerAllWebhooksSync (loads : String → Except Exn J) (renderer : Renderer D) (eventType generatePayload : String)
      (parse : Option J → Option R) (webhooks : List Webhook)
  | sendWebhookRequestAsync (request : TaskRequest) (eventDeliveryId : Nat) (t : Transport)
  | sendObservabilityEvents (dumpEvent : E → String) (dumpEvents : List E → String) (webhooks : List WebhookData)
      (events : List E)

variable {J R D E : Type}

-- An exception keeps every write made before it.
def Operation.run : Operation J R D E → World → World
  | .triggerWebhooksAsync renderer data eventType webhooks, w =>
    after (SaleorWebhook.triggerWebhooksAsync renderer data eventType webhooks w)
  | .triggerWebhookSync loads renderer eventType data webhook, w =>
    after (SaleorWebhook.triggerWebhookSync loads renderer eventType data webhook w)
  | .triggerAllWebhooksSync loads renderer eventType generatePayload parse webhooks, w =>
    after (SaleorWebhook.triggerAllWebhooksSync loads renderer eventType generatePayload parse webhooks w)
  | .sendWebhookRequestAsync request d t, w => after (execute request d t w)
  | .sendObservabilityEvents dumpEvent dumpEvents webhooks events, w =>
    after (SaleorWebhook.sendObservabilityEvents dumpEvent dumpEvents webhooks events w)

def runOps : List (Operation J R D E) → World → World
  | [], w => w
  | op :: ops, w => runOps ops (op.run w)

def Operation.task (d : Nat) : Operation J R D E → Option (TaskRequest × Nat × Transport)
  | .sendWebhookRequestAsync request d' t => if d' = d then some (request, d', t) else none
  | _ => none

variable {w : World} {d : Nat}

theorem Operation.run_cases (op : Operation J R D E) (integrity : Integrity w) :
    (∃ request d t, op = .sendWebhookRequestAsync request d t ∧ Settles Effect.wellQueued d w (op.run w)) ∨
      ((∀ d, op.task d = none) ∧ Extends w (op.run w) ∧ Integrity (op.run w)) := by
  cases op with
  | triggerWebhooksAsync renderer data eventType webhooks =>
    exact .inr ⟨fun _ => rfl,triggerWebhooksAsync_extends renderer data eventType webhooks integrity⟩
  | triggerWebhookSync loads renderer eventType data webhook =>
    exact .inr ⟨fun _ => rfl,triggerWebhookSync_extends loads renderer eventType data webhook integrity⟩
  | triggerAllWebhooksSync loads renderer eventType generatePayload parse webhooks =>
    exact .inr ⟨fun _ => rfl,triggerAllWebhooksSyncFrom_extends loads renderer eventType generatePayload parse webhooks
      none none w integrity nofun⟩
  | sendWebhookRequestAsync request d t => exact .inl ⟨request,d,t,rfl,execute_settles request d t w⟩
  | sendObservabilityEvents dumpEvent dumpEvents webhooks events =>
    have same := sendObservabilityEvents_keeps dumpEvent dumpEvents events webhooks w
    exact .inr ⟨fun _ => rfl,same.extends,same.integrity integrity⟩

theorem Operation.run_integrity (op : Operation J R D E) (integrity : Integrity w) : Integrity (op.run w) := by
  rcases op.run_cases integrity with ⟨request,d,t,-,settles⟩ | ⟨-,-,intact⟩
  · exact settles.integrity integrity
  · exact intact

-- A delivery row keeps its event type and webhook, leaves pending for good, and only loses its payload reference.
structure RowEvolves (row row' : EventDelivery) : Prop where
  eventType : row'.eventType = row.eventType
  webhook : row'.webhook = row.webhook
  settled : row.status ≠ .pending → row'.status ≠ .pending
  payload : row'.payload = row.payload ∨ row'.payload = none

theorem RowEvolves.refl (row : EventDelivery) : RowEvolves row row := ⟨rfl,rfl,id,.inl rfl⟩

theorem RowEvolves.trans {row row' row'' : EventDelivery} (first : RowEvolves row row')
    (second : RowEvolves row' row'') : RowEvolves row row'' := by
  refine ⟨second.eventType.trans first.eventType,second.webhook.trans first.webhook,
    second.settled ∘ first.settled,?_⟩
  rcases second.payload with same | cleared
  · rcases first.payload with same' | cleared'
    · exact .inl (same.trans same')
    · exact .inr (same.trans cleared')
  · exact .inr cleared

theorem finalRow_evolves {status : EventDeliveryStatus} (settled : status ≠ .pending) (row : EventDelivery) :
    RowEvolves row (finalRow status row) :=
  ⟨rfl,rfl,fun _ => settled,finalRow_payload status row⟩

structure Evolves (w w' : World) : Prop where
  payloads : w.payloads <+: w'.payloads
  attempts : w.attempts <+: w'.attempts
  rows : ∀ (i : Nat) row, w.deliveries[i]? = some row → ∃ row', w'.deliveries[i]? = some row' ∧ RowEvolves row row'

theorem Evolves.refl (w : World) : Evolves w w :=
  ⟨List.prefix_refl _,List.prefix_refl _,fun _ row found => ⟨row,found,RowEvolves.refl row⟩⟩

theorem Evolves.trans {w1 w2 w3 : World} (first : Evolves w1 w2) (second : Evolves w2 w3) : Evolves w1 w3 := by
  refine ⟨first.payloads.trans second.payloads,first.attempts.trans second.attempts,fun d row found => ?_⟩
  obtain ⟨row',found',evolves⟩ := first.rows d row found
  obtain ⟨row'',found'',evolves'⟩ := second.rows d row' found'
  exact ⟨row'',found'',evolves.trans evolves'⟩

variable {w' : World}

theorem Extends.evolves (grown : Extends w w') : Evolves w w' := by
  obtain ⟨added,attempts,-⟩ := grown.attempts
  refine ⟨grown.payloads,⟨added,attempts.symm⟩,fun d row found => ⟨row,?_,RowEvolves.refl row⟩⟩
  rw [prefix_getElem? grown.deliveries (List.getElem?_eq_some_iff.mp found).1, found]

theorem Settles.evolves {P : Nat → Effect → Prop} (settles : Settles P d w w') : Evolves w w' := by
  obtain ⟨writes,settled⟩ := settles
  refine ⟨settled.payloads ▸ List.prefix_refl _,settled.attempts ▸ List.prefix_append _ _,fun i row found => ?_⟩
  rw [settled.deliveries]
  unfold Writes.rows
  split
  · next status written =>
    by_cases same : d = i
    · subst same
      refine ⟨finalRow status row,by simp [found],finalRow_evolves (fun pending => settled.settled ?_) row⟩
      rw [written, pending]
    · exact ⟨row,by simp [List.getElem?_modify_ne _ _ same, found],RowEvolves.refl row⟩
  · exact ⟨row,found,RowEvolves.refl row⟩

theorem Operation.run_evolves (op : Operation J R D E) (integrity : Integrity w) : Evolves w (op.run w) := by
  rcases op.run_cases integrity with ⟨request,d,t,-,settles⟩ | ⟨-,grown,-⟩
  · exact settles.evolves
  · exact grown.evolves

theorem tasks_store_invariant : ∀ (ops : List (Operation J R D E)) (w : World), Integrity w →
    Integrity (runOps ops w) ∧ Evolves w (runOps ops w)
  | [], w, integrity => ⟨integrity,Evolves.refl w⟩
  | op :: ops, w, integrity => by
    obtain ⟨intact,evolves⟩ := tasks_store_invariant ops (op.run w) (op.run_integrity integrity)
    exact ⟨intact,(op.run_evolves integrity).trans evolves⟩

theorem sampleWorld_intact : Integrity sampleWorld := ⟨by simp [sampleWorld],by simp [sampleWorld]⟩

def sampleOperations : List (Operation Unit Unit Unit Unit) :=
  [.triggerWebhooksAsync sampleRenderer "{}" "order_created" [sampleHook],
    .sendWebhookRequestAsync ⟨"task",0⟩ 1 (answeringWith 500),
    .sendWebhookRequestAsync ⟨"old",0⟩ 0 (answeringWith 200),
    .triggerWebhookSync (fun _ => .ok ()) sampleRenderer "order_created" "{}" (some sampleHook),
    .sendWebhookRequestAsync ⟨"task",1⟩ 1 (answeringWith 200),
    .sendObservabilityEvents (fun _ => "{}") (fun _ => "[]") [] [()]]

theorem tasks_store_invariant_sample :
    Integrity sampleWorld ∧ Integrity (runOps sampleOperations sampleWorld) ∧
      Evolves sampleWorld (runOps sampleOperations sampleWorld) :=
  ⟨sampleWorld_intact,tasks_store_invariant sampleOperations sampleWorld sampleWorld_intact⟩

theorem Operation.run_advances (op : Operation J R D E) (integrity : Integrity w) :
    Advances w.deliveries (op.run w).deliveries := by
  rcases op.run_cases integrity with ⟨request,d,t,-,settles⟩ | ⟨-,grown,-⟩
  · exact settles.advances
  · exact grown.advances

theorem runOps_advances : ∀ (ops : List (Operation J R D E)) (w : World), Integrity w →
    Advances w.deliveries (runOps ops w).deliveries
  | [], w, _ => Advances.refl w.deliveries
  | op :: ops, w, integrity =>
    (op.run_advances integrity).trans (runOps_advances ops (op.run w) (op.run_integrity integrity))

theorem deliveries_follow_lifecycle (ops : List (Operation J R D E)) (w : World) (integrity : Integrity w) :
    Advances w.deliveries (runOps ops w).deliveries ∧ (Phased w.deliveries → Phased (runOps ops w).deliveries) :=
  have advances := runOps_advances ops w integrity
  ⟨advances,advances.phased⟩

theorem deliveries_follow_lifecycle_sample :
    Integrity sampleWorld ∧ Phased sampleWorld.deliveries ∧ Phased (runOps sampleOperations sampleWorld).deliveries :=
  have phased : Phased sampleWorld.deliveries := by simp [Phased, sampleWorld, EventDelivery.phase]
  ⟨sampleWorld_intact,phased,(deliveries_follow_lifecycle sampleOperations sampleWorld sampleWorld_intact).2 phased⟩

theorem Operation.run_vouched (op : Operation J R D E) (integrity : Integrity w)
    (vouched : Vouched w.deliveries w.attempts) : Vouched (op.run w).deliveries (op.run w).attempts := by
  rcases op.run_cases integrity with ⟨request,d,t,-,settles⟩ | ⟨-,grown,-⟩
  · exact settles.vouched vouched
  · exact grown.vouched vouched

theorem successes_vouched_by_attempts : ∀ (ops : List (Operation J R D E)) (w : World), Integrity w →
    Vouched w.deliveries w.attempts → Vouched (runOps ops w).deliveries (runOps ops w).attempts
  | [], _, _, vouched => vouched
  | op :: ops, w, integrity, vouched =>
    successes_vouched_by_attempts ops (op.run w) (op.run_integrity integrity) (op.run_vouched integrity vouched)

theorem successes_vouched_by_attempts_sample :
    Integrity sampleWorld ∧ Vouched sampleWorld.deliveries sampleWorld.attempts ∧
      Vouched (runOps sampleOperations sampleWorld).deliveries (runOps sampleOperations sampleWorld).attempts :=
  have vouched : Vouched sampleWorld.deliveries sampleWorld.attempts := fun d row found success => by
    have member := List.mem_iff_getElem?.mpr ⟨d,found⟩
    simp only [sampleWorld, List.mem_singleton] at member
    rw [member] at success
    cases success
  ⟨sampleWorld_intact,vouched,successes_vouched_by_attempts sampleOperations sampleWorld sampleWorld_intact vouched⟩

theorem Operation.run_once (op : Operation J R D E) (integrity : Integrity w)
    (once : SucceedsOnce w.deliveries w.attempts) : SucceedsOnce (op.run w).deliveries (op.run w).attempts := by
  rcases op.run_cases integrity with ⟨request,d,t,-,settles⟩ | ⟨-,grown,-⟩
  · exact settles.once once
  · exact grown.once once

theorem delivered_at_most_once : ∀ (ops : List (Operation J R D E)) (w : World), Integrity w →
    SucceedsOnce w.deliveries w.attempts → SucceedsOnce (runOps ops w).deliveries (runOps ops w).attempts
  | [], _, _, once => once
  | op :: ops, w, integrity, once =>
    delivered_at_most_once ops (op.run w) (op.run_integrity integrity) (op.run_once integrity once)

theorem delivered_at_most_once_sample :
    Integrity sampleWorld ∧ SucceedsOnce sampleWorld.deliveries sampleWorld.attempts ∧
      SucceedsOnce (runOps sampleOperations sampleWorld).deliveries (runOps sampleOperations sampleWorld).attempts :=
  have once : SucceedsOnce sampleWorld.deliveries sampleWorld.attempts := fun _ => by
    simp [sampleWorld, successes, attemptsOf]
  ⟨sampleWorld_intact,once,delivered_at_most_once sampleOperations sampleWorld sampleWorld_intact once⟩

theorem Evolves.present (evolves : Evolves w w') (present : d < w.deliveries.length) : d < w'.deliveries.length := by
  obtain ⟨row',found,-⟩ := evolves.rows d w.deliveries[d] (List.getElem?_eq_getElem present)
  exact (List.getElem?_eq_some_iff.mp found).1

-- What the executions of delivery d read and write agrees in two worlds.
structure Sees (d : Nat) (w1 w2 : World) : Prop where
  row : w1.deliveries[d]? = w2.deliveries[d]?
  attempts : w1.attempts.filter (·.delivery = d) = w2.attempts.filter (·.delivery = d)
  payload : ∀ row ∈ w1.deliveries[d]?, row.payload.bind (w1.payloads[·]?) = row.payload.bind (w2.payloads[·]?)
  nfkc : w1.nfkc = w2.nfkc
  lower : w1.lower = w2.lower

variable {w1 w2 w3 : World}

theorem Sees.refl (d : Nat) (w : World) : Sees d w w := ⟨rfl,rfl,fun _ _ => rfl,rfl,rfl⟩

theorem Sees.trans (first : Sees d w1 w2) (second : Sees d w2 w3) : Sees d w1 w3 := by
  refine ⟨first.row.trans second.row,first.attempts.trans second.attempts,fun row member => ?_,
    first.nfkc.trans second.nfkc,first.lower.trans second.lower⟩
  exact (first.payload row member).trans (second.payload row (first.row ▸ member))

theorem Agree.sees (agree : Agree d w1 w2) : Sees d w1 w2 :=
  ⟨agree.row,agree.attempts,fun _ _ => by rw [agree.payloads],agree.nfkc,agree.lower⟩

theorem executionWrites_congr {row : Option EventDelivery} {payloads1 payloads2 : List EventPayload}
    {nfkc lower : String → String} {request : TaskRequest} {t : Transport}
    (same : ∀ delivery ∈ row, delivery.payload.bind (payloads1[·]?) = delivery.payload.bind (payloads2[·]?)) :
    executionWrites row payloads1 nfkc lower request d t = executionWrites row payloads2 nfkc lower request d t := by
  cases row with
  | none => rfl
  | some delivery => simp only [executionWrites, same delivery rfl]

theorem execute_sees_own {request : TaskRequest} {t : Transport} (sees : Sees d w1 w2) :
    Sees d (after (execute request d t w1)) (after (execute request d t w2)) := by
  obtain ⟨rest1,calls1,oracle1,run1,-⟩ := execute_writes request d t w1
  obtain ⟨rest2,calls2,oracle2,run2,-⟩ := execute_writes request d t w2
  rw [run1, run2]
  have same : executionWrites w1.deliveries[d]? w1.payloads w1.nfkc w1.lower request d t =
      executionWrites w2.deliveries[d]? w2.payloads w2.nfkc w2.lower request d t := by
    rw [executionWrites_congr sees.payload, sees.row, sees.nfkc, sees.lower]
  refine ⟨?_,?_,?_,sees.nfkc,sees.lower⟩
  · rw [same, Writes.rows_getElem?_self, Writes.rows_getElem?_self, sees.row]
  · rw [same, List.filter_append, List.filter_append, sees.attempts]
  · simp only [Writes.rows_getElem?_self, Option.mem_map]
    rintro _ ⟨row,member,rfl⟩
    rcases Writes.row_payload _ row with kept | cleared
    · rw [kept]
      exact sees.payload row member
    · rw [cleared]
      rfl

theorem Extends.sees (integrity : Integrity w) (present : d < w.deliveries.length) (grown : Extends w w') :
    Sees d w' w := by
  have row : w'.deliveries[d]? = w.deliveries[d]? := prefix_getElem? grown.deliveries present
  obtain ⟨added,attempts,fresh⟩ := grown.attempts
  have foreign : added.filter (·.delivery = d) = [] := List.filter_eq_nil_iff.mpr fun a member => by
    have := fresh a member
    simp only [decide_eq_true_eq]
    omega
  refine ⟨row,by rw [attempts, List.filter_append, foreign, List.append_nil],fun found member => ?_,grown.nfkc,
    grown.lower⟩
  · rw [row] at member
    cases reference : found.payload with
    | none => rfl
    | some p =>
      exact prefix_getElem? grown.payloads
        (integrity.payloads found (List.getElem?_mem member) p reference)

theorem Operation.run_sees (op : Operation J R D E) (integrity : Integrity w1) (present : d < w1.deliveries.length)
    (sees : Sees d w1 w2) : Sees d (op.run w1) (runAll (op.task d).toList w2) := by
  rcases op.run_cases integrity with ⟨request,d',t,rfl,-⟩ | ⟨quiet,grown,-⟩
  · by_cases own : d' = d
    · subst own
      simpa [Operation.task, runAll] using execute_sees_own sees
    · simpa [Operation.task, own, runAll] using (execute_agree_other own (Agree.refl d w1)).sees.trans sees
  · rw [quiet d]
    exact (grown.sees integrity present).trans sees

theorem runOps_sees : ∀ (ops : List (Operation J R D E)) (w1 w2 : World), Integrity w1 → d < w1.deliveries.length →
    Sees d w1 w2 → Sees d (runOps ops w1) (runAll (ops.filterMap (Operation.task d)) w2)
  | [], _, _, _, _, sees => sees
  | op :: ops, w1, w2, integrity, present, sees => by
    have rest := runOps_sees ops (op.run w1) _ (op.run_integrity integrity)
      ((op.run_evolves integrity).present present) (op.run_sees integrity present sees)
    cases task : op.task d with
    | none => simpa [runOps, task, runAll] using rest
    | some step => simpa [runOps, task, runAll] using rest

theorem delivery_isolated (ops : List (Operation J R D E)) (w : World) (integrity : Integrity w)
    (present : d < w.deliveries.length) : Sees d (runOps ops w) (runAll (ops.filterMap (Operation.task d)) w) :=
  runOps_sees ops w w integrity present (Sees.refl d w)

theorem delivery_isolated_sample :
    Integrity sampleWorld ∧ 0 < sampleWorld.deliveries.length ∧
      Sees 0 (runOps sampleOperations sampleWorld) (runAll (sampleOperations.filterMap (Operation.task 0)) sampleWorld) :=
  ⟨sampleWorld_intact,by decide,delivery_isolated sampleOperations sampleWorld sampleWorld_intact (by decide)⟩

end SaleorWebhook
