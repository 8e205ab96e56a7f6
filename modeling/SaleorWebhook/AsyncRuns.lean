import SaleorWebhook.AsyncTask

namespace SaleorWebhook

-- A step is one execution of send_webhook_request_async, labelled with how the libraries behave during it.
def answering (t : Transport) (w : World) : World := { w with transport := Function.update w.transport w.calls t }

def execute (request : TaskRequest) (d : Nat) (t : Transport) : M Unit := fun w =>
  sendWebhookRequestAsync request d (answering t w)

variable {w : World} {request : TaskRequest} {d : Nat} {t : Transport} {delivery : EventDelivery}
  {row : EventPayload} {parts : ParseResult} {scheme : WebhookSchemes}

theorem execute_sent (request : TaskRequest) (found : w.deliveries[d]? = some delivery) (active : delivery.webhook.isActive = true)
    (payload : delivery.payload.bind (w.payloads[·]?) = some row)
    (parsed : urlparse w.nfkc delivery.webhook.targetUrl = .ok parts)
    (known : WebhookSchemes.ofValue? (asciiLower parts.scheme) = some scheme) :
    ∃ sent, (∀ e ∈ sent, e.ledger = false) ∧
      execute request d t w = answered request d w.attempts.length (senderResult scheme t (parts.hostname w.lower))
        { opened request d (answering t w) with
          calls := w.calls + 1
          log := (opened request d (answering t w)).log ++ .dispatch delivery.webhook.targetUrl row.payload :: sent } := by
  obtain ⟨w',⟨sent,rfl,transport⟩,result⟩ := schemeMatrix_spec scheme row.payload w.domain
    (w.signatureForPayload row.payload delivery.webhook.secretKey) delivery.eventType parsed
    (w := { opened request d (answering t w) with log := (opened request d (answering t w)).log ++
      [.dispatch delivery.webhook.targetUrl row.payload] })
  refine ⟨sent,fun e member => Effect.ledger_of_transport (transport e member),
    sendWebhookRequestAsync_dispatched (w := answering t w) found active payload ?_⟩
  rw [sendWebhookUsingSchemeMethod_known (w := opened request d (answering t w)) parsed known]
  refine result.trans ?_
  simp [opened, answering]

theorem execute_extended (request : TaskRequest) (A : List DeliveryAttempt) (L : List Effect) (calls : Nat) (oracle : Nat → Transport)
    (found : w.deliveries[d]? = some delivery) (active : delivery.webhook.isActive = true)
    (payload : delivery.payload.bind (w.payloads[·]?) = some row)
    (parsed : urlparse w.nfkc delivery.webhook.targetUrl = .ok parts)
    (known : WebhookSchemes.ofValue? (asciiLower parts.scheme) = some scheme) :
    ∃ sent, (∀ e ∈ sent, e.ledger = false) ∧
      execute request d t { w with attempts := w.attempts ++ A, log := w.log ++ L, calls := calls, transport := oracle } =
        answered request d (w.attempts.length + A.length) (senderResult scheme t (parts.hostname w.lower)) { w with
          attempts := w.attempts ++ A ++ [{ delivery := d, taskId := some request.id }]
          log := w.log ++ L ++ (.createAttempt (w.attempts.length + A.length)
            { delivery := d, taskId := some request.id } :: .dispatch delivery.webhook.targetUrl row.payload :: sent)
          calls := calls + 1
          transport := Function.update oracle calls t } := by
  obtain ⟨sent,transport,run⟩ := execute_sent request (t := t) (w := { w with
    attempts := w.attempts ++ A
    log := w.log ++ L
    calls := calls
    transport := oracle }) found active payload parsed known
  refine ⟨sent,transport,run.trans ?_⟩
  simp [opened, answering]

-- Execution j, which runs with request.retries = j, meets the libraries as transports j.
def runChain : Nat → (Nat → Transport) → TaskRequest → Nat → M Unit
  | 0, _, _, _ => pure ()
  | fuel + 1, transports, request, d =>
    tryCatch (execute request d (transports request.retries)) fun e =>
      match e with
      | .retry next _ => runChain fuel transports next d
      | e => throw e

def remaining (responses : Nat → WebhookResponse) : Nat → Nat → Nat
  | 0, _ => 0
  | left + 1, j => if (responses j).status = .success then 1 else remaining responses left (j + 1) + 1

def chainLength (responses : Nat → WebhookResponse) : Nat := remaining responses (maxRetries + 1) 0

def chainAttempt (id : String) (d : Nat) (responses : Nat → WebhookResponse) (j : Nat) : DeliveryAttempt :=
  DeliveryAttempt.answer { delivery := d, taskId := some id } (responses j)

-- What execution j of a chain of k executions writes and reports; a is the first attempt id.
def executionLedger (id : String) (d a k : Nat) (responses : Nat → WebhookResponse) (j : Nat) : List Effect :=
  [.createAttempt (a + j) { delivery := d, taskId := some id }, .updateAttempt (a + j) (responses j)] ++
    if j + 1 < k then
      [.retry ⟨id,j + 1⟩ d (retryBackoff * 2 ^ j), .report (a + j) (some (retryBackoff * 2 ^ j))]
    else
      [.updateDelivery d (responses j).status, .report (a + j) none] ++
        if (responses j).status = .success then [.clearDelivery d] else []

theorem remaining_spec (responses : Nat → WebhookResponse) : ∀ left j, 0 < left →
    let m := remaining responses left j
    1 ≤ m ∧ m ≤ left ∧ (∀ i, j ≤ i → i + 1 < j + m → (responses i).status ≠ .success) ∧
      ((responses (j + m - 1)).status = .success ∨ m = left) := by
  intro left
  induction left with
  | zero => intro j pos; omega
  | succ left ih =>
    intro j _
    by_cases success : (responses j).status = .success
    · simp only [remaining, success, if_true]
      exact ⟨le_refl _,by omega,fun i low high => by omega,.inl (by simpa using success)⟩
    · simp only [remaining, success, if_false]
      rcases Nat.eq_zero_or_pos left with rfl | pos
      · exact ⟨by simp [remaining],by simp [remaining],fun i low high => by simp [remaining] at high; omega,
          .inr (by simp [remaining])⟩
      · obtain ⟨one,bound,failed,last⟩ := ih (j + 1) pos
        refine ⟨by omega,by omega,fun i low high => ?_,?_⟩
        · rcases Nat.eq_or_lt_of_le low with rfl | later
          · exact success
          · exact failed i later (by omega)
        · rcases last with last | full
          · exact .inl (by rw [show j + (remaining responses left (j + 1) + 1) - 1 =
              j + 1 + remaining responses left (j + 1) - 1 by omega]; exact last)
          · exact .inr (by omega)

theorem filter_ledger_sent {sent : List Effect} (transport : ∀ e ∈ sent, e.ledger = false) :
    sent.filter Effect.ledger = [] :=
  List.filter_eq_nil_iff.mpr fun e member => by simp [transport e member]

theorem runChain_suffix (id : String) (transports : Nat → Transport) (responses : Nat → WebhookResponse)
    (found : w.deliveries[d]? = some delivery) (active : delivery.webhook.isActive = true)
    (payload : delivery.payload.bind (w.payloads[·]?) = some row)
    (parsed : urlparse w.nfkc delivery.webhook.targetUrl = .ok parts)
    (known : WebhookSchemes.ofValue? (asciiLower parts.scheme) = some scheme)
    (outcomes : ∀ j, senderResult scheme (transports j) (parts.hostname w.lower) = .ok (responses j))
    (statuses : ∀ j, (responses j).status = .success ∨ (responses j).status = .failed) :
    ∀ left j fuel (A : List DeliveryAttempt) (L : List Effect) calls oracle,
      j + left = maxRetries + 1 → 0 < left → left ≤ fuel → A.length = j →
      ∃ effects oracle', runChain fuel transports ⟨id,j⟩ d { w with
          attempts := w.attempts ++ A
          log := w.log ++ L
          calls := calls
          transport := oracle } = .ok () { w with
          attempts := w.attempts ++ A ++ (List.range' j (remaining responses left j)).map (chainAttempt id d responses)
          deliveries := w.deliveries.modify (finalRow (responses (j + remaining responses left j - 1)).status) d
          log := w.log ++ L ++ effects
          calls := calls + remaining responses left j
          transport := oracle' } ∧
        effects.filter Effect.ledger = ((List.range' j (remaining responses left j)).map
          (executionLedger id d w.attempts.length (j + remaining responses left j) responses)).flatten := by
  intro left
  induction left with
  | zero => intro j fuel A L calls oracle _ pos; omega
  | succ left ih =>
    intro j fuel A L calls oracle sum _ enough length
    obtain ⟨fuel,rfl⟩ : ∃ f, fuel = f + 1 := ⟨fuel - 1,by omega⟩
    obtain ⟨sent,transport,run⟩ := execute_extended ⟨id,j⟩ (t := transports j) A L calls oracle
      found active payload parsed known
    rw [outcomes j, length] at run
    have present : d < w.deliveries.length := (List.getElem?_eq_some_iff.mp found).1
    simp only [runChain, tryCatch_apply, run]
    have attempts : (w.attempts ++ (A ++ [({ delivery := d, taskId := some id } : DeliveryAttempt)])).modify
        (·.answer (responses j)) (w.attempts.length + j) = w.attempts ++ (A ++ [chainAttempt id d responses j]) := by
      rw [← List.append_assoc, ← List.append_assoc, ← length, ← List.length_append]
      exact List.modify_append_length _ _ _
    have quiet := filter_ledger_sent transport
    by_cases again : (responses j).status = .failed ∧ j < maxRetries
    · -- A failed response with retries left: the retry runs next, with one more attempt and effects before it.
      obtain ⟨failed,limit⟩ := again
      have more : 0 < left := by simp only [maxRetries] at sum limit; omega
      have next : remaining responses (left + 1) j = remaining responses left (j + 1) + 1 := by
        simp [remaining, failed]
      have first := (remaining_spec responses left (j + 1) more).1
      let step : List Effect := .createAttempt (w.attempts.length + j) { delivery := d, taskId := some id } ::
        .dispatch delivery.webhook.targetUrl row.payload :: sent ++
        [.updateAttempt (w.attempts.length + j) (responses j), .retry ⟨id,j + 1⟩ d (retryBackoff * 2 ^ j),
          .report (w.attempts.length + j) (some (retryBackoff * 2 ^ j))]
      obtain ⟨effects,oracle',chain,ledger⟩ := ih (j + 1) fuel (A ++ [chainAttempt id d responses j]) (L ++ step)
        (calls + 1) (Function.update oracle calls (transports j)) (by omega) more (by omega) (by simp [length])
      refine ⟨step ++ effects,oracle',?_,?_⟩
      · simp only [answered, failed, limit, if_true, retried_apply, List.append_assoc, attempts]
        simp only [List.append_assoc] at chain ⊢
        rw [chain, next, List.range'_succ,
          show j + (remaining responses left (j + 1) + 1) - 1 = j + 1 + remaining responses left (j + 1) - 1 by omega]
        simp only [List.map_cons, List.cons_append, List.nil_append, List.singleton_append]
        congr 2
        omega
      · rw [next, List.range'_succ, show j + (remaining responses left (j + 1) + 1) =
          j + 1 + remaining responses left (j + 1) by omega]
        simp [step, executionLedger, Effect.ledger, quiet, ledger,
          show j + 1 < j + 1 + remaining responses left (j + 1) by omega]
    · -- A success, or a failure with no retry left: the execution settles and the chain ends.
      obtain ⟨one,settled⟩ : remaining responses (left + 1) j = 1 ∧
          answered ⟨id,j⟩ d (w.attempts.length + j) (.ok (responses j)) =
            settle d (w.attempts.length + j) (responses j) (responses j).status := by
        rcases statuses j with status | status
        · simp [remaining, answered, status]
        · have exhausted : ¬ j < maxRetries := fun limit => again ⟨status,limit⟩
          obtain rfl : left = 0 := by simp only [maxRetries] at sum exhausted; omega
          simp [remaining, answered, status, exhausted]
      refine ⟨.createAttempt (w.attempts.length + j) { delivery := d, taskId := some id } ::
        .dispatch delivery.webhook.targetUrl row.payload :: sent ++ [.updateAttempt (w.attempts.length + j) (responses j),
          .updateDelivery d (responses j).status, .report (w.attempts.length + j) none] ++
          if (responses j).status = .success then [.clearDelivery d] else [],
        Function.update oracle calls (transports j),?_,?_⟩
      · simp [settled, settle_apply, present, one, attempts]
      · split <;> simp [executionLedger, one, Effect.ledger, quiet, *]

end SaleorWebhook

namespace SaleorWebhook

variable {w : World} {d : Nat} {delivery : EventDelivery} {row : EventPayload} {parts : ParseResult}
  {scheme : WebhookSchemes}

theorem send_webhook_request_async_retry_chain (id : String) (transports : Nat → Transport)
    (responses : Nat → WebhookResponse)
    (found : w.deliveries[d]? = some delivery) (active : delivery.webhook.isActive = true)
    (payload : delivery.payload.bind (w.payloads[·]?) = some row)
    (parsed : urlparse w.nfkc delivery.webhook.targetUrl = .ok parts)
    (known : WebhookSchemes.ofValue? (asciiLower parts.scheme) = some scheme)
    (outcomes : ∀ j, senderResult scheme (transports j) (parts.hostname w.lower) = .ok (responses j))
    (statuses : ∀ j, (responses j).status = .success ∨ (responses j).status = .failed) :
    let k := chainLength responses
    (1 ≤ k ∧ k ≤ maxRetries + 1 ∧ (∀ j, j + 1 < k → (responses j).status = .failed) ∧
      ((responses (k - 1)).status = .success ∨ k = maxRetries + 1)) ∧
    ∃ effects oracle, runChain (maxRetries + 1) transports ⟨id,0⟩ d w = .ok () { w with
        attempts := w.attempts ++ (List.range k).map (chainAttempt id d responses)
        deliveries := w.deliveries.modify (finalRow (responses (k - 1)).status) d
        log := w.log ++ effects
        calls := w.calls + k
        transport := oracle } ∧
      effects.filter Effect.ledger =
        ((List.range k).map (executionLedger id d w.attempts.length k responses)).flatten := by
  obtain ⟨one,bound,failed,last⟩ := remaining_spec responses (maxRetries + 1) 0 (by decide)
  refine ⟨⟨one,bound,fun j early => (statuses j).resolve_left (failed j (Nat.zero_le j) (by simpa using early)),
    by simpa using last⟩,?_⟩
  obtain ⟨effects,oracle,run,ledger⟩ := runChain_suffix id transports responses found active payload parsed known
    outcomes statuses (maxRetries + 1) 0 (maxRetries + 1) [] [] w.calls w.transport rfl (by decide) le_rfl rfl
  rw [show ({ w with attempts := w.attempts ++ [], log := w.log ++ [], calls := w.calls, transport := w.transport } :
    World) = w by simp only [List.append_nil]] at run
  exact ⟨effects,oracle,by simpa [List.range_eq_range'] using run,by simpa [List.range_eq_range'] using ledger⟩

def twoFailures (j : Nat) : WebhookResponse :=
  ⟨"{}",some [],some (if j < 2 then 500 else 200),if j < 2 then .failed else .success⟩

theorem send_webhook_request_async_retry_chain_two_failures : ∃ effects oracle,
    runChain (maxRetries + 1) (fun j => answeringWith (if j < 2 then 500 else 200)) ⟨"task",0⟩ 0 sampleWorld =
      .ok () { sampleWorld with
        attempts := (List.range 3).map (chainAttempt "task" 0 twoFailures)
        deliveries := [⟨.success,"order_created",none,sampleHook⟩]
        log := effects
        calls := 3
        transport := oracle } ∧
    effects.filter Effect.ledger = ((List.range 3).map (executionLedger "task" 0 0 3 twoFailures)).flatten :=
  (@send_webhook_request_async_retry_chain sampleWorld 0 _ ⟨"{}"⟩ ⟨"http","shop.local","/hook","","",""⟩ .http "task"
    (fun j => answeringWith (if j < 2 then 500 else 200)) twoFailures rfl rfl rfl rfl rfl
    (fun j => by by_cases early : j < 2 <;> simp [early, twoFailures, answeringWith] <;> rfl)
    (fun j => by by_cases early : j < 2 <;> simp [early, twoFailures])).2

end SaleorWebhook
