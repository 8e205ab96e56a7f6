import SaleorWebhook.AsyncRuns

namespace SaleorWebhook

-- Executions of send_webhook_request_async one after another: retry chains, duplicates and redelivered messages alike.

structure Writes where
  status : Option EventDeliveryStatus
  attempts : List DeliveryAttempt
  dispatched : Bool
  deriving DecidableEq, Repr

def answerWrites (request : TaskRequest) (d : Nat) (outcome : Except Exn WebhookResponse) (dispatched : Bool) :
    Writes :=
  let opened : DeliveryAttempt := { delivery := d, taskId := some request.id }
  match outcome with
  | .ok response =>
    if response.status = .failed then
      if request.retries < maxRetries then ⟨none,[opened.answer response],dispatched⟩
      else ⟨some .failed,[opened.answer response],dispatched⟩
    else ⟨some .success,[opened.answer response],dispatched⟩
  | .error e =>
    if e.isValueError then ⟨some .failed,[opened.answer { content := e.text, status := .failed }],dispatched⟩
    else ⟨none,[opened],dispatched⟩

def DeliveryAttempt.failedFor (d : Nat) (id : String) (a : DeliveryAttempt) : Bool :=
  a.delivery == d && a.taskId == some id && a.status == .failed

-- A retry of its own task for its own delivery, only once the attempts it adds record a failed answer.
def Effect.sentBy (request : TaskRequest) (d : Nat) (attempts : List DeliveryAttempt) : Effect → Prop
  | .retry next d' _ => next = { request with retries := request.retries + 1 } ∧ d' = d ∧
      ∃ a ∈ attempts, a.failedFor d request.id
  | .delay _ => False
  | _ => True

theorem Effect.sentBy_of_transport {e : Effect} (transport : e.ledger = false) (request : TaskRequest) (d : Nat)
    (attempts : List DeliveryAttempt) : e.sentBy request d attempts := by
  cases e <;> trivial

-- An execution reads the world only through the delivery row, the payloads, nfkc and lower.
def executionWrites (row : Option EventDelivery) (payloads : List EventPayload) (nfkc lower : String → String)
    (request : TaskRequest) (d : Nat) (t : Transport) : Writes :=
  match row with
  | none => ⟨none,[],false⟩
  | some delivery =>
    if !delivery.webhook.isActive then ⟨some .failed,[],false⟩
    else
      match delivery.payload.bind (payloads[·]?) with
      | none => answerWrites request d (.error (.valueError ("Event delivery id: " ++ toString d ++ " has no payload.")))
          false
      | some _ => answerWrites request d (dispatchResult nfkc lower delivery.webhook.targetUrl t) true

def Writes.rows (writes : Writes) (d : Nat) (deliveries : List EventDelivery) : List EventDelivery :=
  match writes.status with
  | some status => deliveries.modify (finalRow status) d
  | none => deliveries

def Effect.statusWrite : Effect → Option (Nat × EventDeliveryStatus)
  | .updateDelivery d status => some (d, status)
  | _ => none

variable {request : TaskRequest} {d : Nat} {t : Transport} {w : World}

theorem answered_writes (request : TaskRequest) (A : List DeliveryAttempt) {W : World}
    (outcome : Except Exn WebhookResponse) (dispatched : Bool) (attempts : W.attempts = A ++ [{ delivery := d, taskId := some request.id }])
    (present : d < W.deliveries.length) :
    let writes := answerWrites request d outcome dispatched
    ∃ rest, after (answered request d A.length outcome W) = { W with
        deliveries := writes.rows d W.deliveries
        attempts := A ++ writes.attempts
        log := W.log ++ rest } ∧
      rest.filterMap Effect.statusWrite = (writes.status.map (d, ·)).toList ∧ (∀ e ∈ rest, e.ledger = true) ∧
      (∀ e ∈ rest, e.wellQueued W.deliveries.length) ∧ (∀ e ∈ rest, e.sentBy request d writes.attempts) ∧
      (writes.status = none → (∃ x, outcome = .error x ∧ x.isValueError = false) ∨
        ∃ countdown, .retry { request with retries := request.retries + 1 } d countdown ∈ rest) := by
  have settles : ∀ response status, ∃ rest, after (settle d A.length response status W) = { W with
      deliveries := W.deliveries.modify (finalRow status) d
      attempts := A ++ [DeliveryAttempt.answer { delivery := d, taskId := some request.id } response]
      log := W.log ++ rest } ∧
      rest.filterMap Effect.statusWrite = [(d, status)] ∧ (∀ e ∈ rest, e.ledger = true) ∧
      (∀ e ∈ rest, e.wellQueued W.deliveries.length) ∧
      ∀ e ∈ rest, e.sentBy request d [DeliveryAttempt.answer { delivery := d, taskId := some request.id } response] := by
    intro response status
    refine ⟨[.updateAttempt A.length response, .updateDelivery d status, .report A.length none] ++
      if status = .success then [.clearDelivery d] else [],?_,?_,?_,?_,?_⟩
    · rw [settle_apply present, attempts, List.modify_append_length, after_ok, List.append_assoc]
    · split <;> simp [Effect.statusWrite]
    · split <;> simp [Effect.ledger]
    · split <;> simp [Effect.wellQueued]
    · split <;> simp [Effect.sentBy]
  cases outcome with
  | ok response =>
    by_cases failed : response.status = .failed
    · by_cases limit : request.retries < maxRetries
      · refine ⟨[.updateAttempt A.length response,
          .retry { request with retries := request.retries + 1 } d (retryBackoff * 2 ^ request.retries),
          .report A.length (some (retryBackoff * 2 ^ request.retries))],?_,by simp [answerWrites, failed, limit,
            Effect.statusWrite],by simp [Effect.ledger],
          by simp [Effect.wellQueued, present, Nat.succ_le_of_lt limit],
          by simp [Effect.sentBy, answerWrites, failed, limit, DeliveryAttempt.failedFor, DeliveryAttempt.answer],
          fun _ => .inr ⟨retryBackoff * 2 ^ request.retries,by simp⟩⟩
        simp [answered, answerWrites, failed, limit, retried_apply, attempts, List.modify_append_length, Writes.rows]
      · simpa [answered, answerWrites, failed, limit, Writes.rows] using settles response .failed
    · simpa [answered, answerWrites, failed, Writes.rows] using settles response .success
  | error e =>
    cases value : e.isValueError
    · refine ⟨[],?_,by simp [answerWrites, value],by simp,by simp,by simp,fun _ => .inl ⟨e,rfl,value⟩⟩
      simp only [answered, value, Bool.false_eq_true, if_false, throw_apply, after_error, answerWrites, Writes.rows,
        List.append_nil]
      rw [← attempts]
    · simpa [answered, answerWrites, value, Writes.rows] using settles { content := e.text, status := .failed } .failed

@[simp] theorem answerWrites_dispatched (outcome : Except Exn WebhookResponse) (dispatched : Bool) :
    (answerWrites request d outcome dispatched).dispatched = dispatched := by
  unfold answerWrites
  split <;> repeat' split
  all_goals rfl

theorem statusWrite_of_transport {e : Effect} (transport : e.ledger = false) : e.statusWrite = none := by
  cases e <;> first | rfl | cases transport

theorem execute_writes (request : TaskRequest) (d : Nat) (t : Transport) (w : World) :
    let writes := executionWrites w.deliveries[d]? w.payloads w.nfkc w.lower request d t
    ∃ rest calls oracle, after (execute request d t w) = { w with
        deliveries := writes.rows d w.deliveries
        attempts := w.attempts ++ writes.attempts
        log := w.log ++ rest
        calls
        transport := oracle } ∧
      rest.filterMap Effect.statusWrite = (writes.status.map (d, ·)).toList ∧
      (writes.dispatched = false → ∀ e ∈ rest, e.ledger = true) ∧ (∀ e ∈ rest, e.wellQueued w.deliveries.length) ∧
      (∀ e ∈ rest, e.sentBy request d writes.attempts) ∧
      (writes.status = none → w.deliveries[d]? = none ∨
        (∃ countdown, .retry { request with retries := request.retries + 1 } d countdown ∈ rest) ∨
        ∃ delivery x, w.deliveries[d]? = some delivery ∧
          dispatchResult w.nfkc w.lower delivery.webhook.targetUrl t = .error x ∧ x.isValueError = false) := by
  intro writes
  cases found : w.deliveries[d]? with
  | none =>
    refine ⟨[],w.calls,Function.update w.transport w.calls t,?_,by simp [writes, found, executionWrites],by simp,
      by simp,by simp,fun _ => .inl rfl⟩
    rw [execute, sendWebhookRequestAsync_missing (w := answering t w) found]
    simp [writes, found, executionWrites, Writes.rows, answering]
  | some delivery =>
    have present : d < w.deliveries.length := (List.getElem?_eq_some_iff.mp found).1
    cases active : delivery.webhook.isActive
    · refine ⟨[.updateDelivery d .failed],w.calls,Function.update w.transport w.calls t,?_,
        by simp [writes, found, active, executionWrites, Effect.statusWrite],by simp [Effect.ledger],
        by simp [Effect.wellQueued],by simp [Effect.sentBy],by simp [writes, found, active, executionWrites]⟩
      rw [execute, sendWebhookRequestAsync_inactive (w := answering t w) found active]
      simp [writes, found, active, executionWrites, Writes.rows, answering]
    · cases payload : delivery.payload.bind (w.payloads[·]?) with
      | none =>
        obtain ⟨rest,run,status,ledger,queued,sentBy,-⟩ := answered_writes request w.attempts
          (W := opened request d (answering t w))
          (.error (.valueError ("Event delivery id: " ++ toString d ++ " has no payload."))) false rfl present
        refine ⟨.createAttempt w.attempts.length { delivery := d, taskId := some request.id } :: rest,w.calls,
          Function.update w.transport w.calls t,?_,
          by simpa [writes, found, active, payload, executionWrites, Effect.statusWrite] using status,?_,?_,?_,
          by simp [writes, found, active, payload, executionWrites, answerWrites, Exn.isValueError]⟩
        · rw [execute, sendWebhookRequestAsync_no_payload (w := answering t w) found active payload]
          simp only [answered, Exn.isValueError, Exn.text, if_true] at run
          refine run.trans ?_
          simp [writes, found, active, payload, executionWrites, opened, answering]
        · intro _ e member
          rcases List.mem_cons.mp member with rfl | member
          · rfl
          · exact ledger e member
        · intro e member
          rcases List.mem_cons.mp member with rfl | member
          · trivial
          · exact queued e member
        · intro e member
          rcases List.mem_cons.mp member with rfl | member
          · trivial
          · simpa [writes, found, active, payload, executionWrites] using sentBy e member
      | some row =>
        obtain ⟨calls,sent,transport,result⟩ := sendWebhookRequestAsync_sent request (w := answering t w) found active
          payload
        obtain ⟨rest,run,status,-,queued,sentBy,escape⟩ := answered_writes request w.attempts
          (W := { opened request d (answering t w) with calls, log := (opened request d (answering t w)).log ++ sent })
          (dispatchResult w.nfkc w.lower delivery.webhook.targetUrl t) true rfl present
        refine ⟨.createAttempt w.attempts.length { delivery := d, taskId := some request.id } :: sent ++ rest,calls,
          Function.update w.transport w.calls t,?_,?_,by simp [writes, found, active, payload, executionWrites],?_,?_,
          fun silent => ?_⟩
        · rw [execute, result]
          simp only [answering, Function.update_same] at run ⊢
          refine run.trans ?_
          simp [writes, found, active, payload, executionWrites, opened]
        · simp [Effect.statusWrite, List.filterMap_append, status, writes, found, active, payload, executionWrites,
            List.filterMap_eq_nil_iff.mpr fun e member => statusWrite_of_transport (transport e member)]
        · intro e member
          rcases List.mem_cons.mp member with rfl | member
          · trivial
          · rcases List.mem_append.mp member with member | member
            · exact Effect.wellQueued_of_transport (transport e member) _
            · exact queued e member
        · intro e member
          rcases List.mem_cons.mp member with rfl | member
          · trivial
          · rcases List.mem_append.mp member with member | member
            · exact Effect.sentBy_of_transport (transport e member) _ _ _
            · simpa [writes, found, active, payload, executionWrites] using sentBy e member
        · rcases escape (by simpa [writes, found, active, payload, executionWrites] using silent) with
            ⟨x,raised,value⟩ | ⟨countdown,member⟩
          · exact .inr (.inr ⟨delivery,x,rfl,raised,value⟩)
          · exact .inr (.inl ⟨countdown,List.mem_cons_of_mem _ (List.mem_append_right _ member)⟩)

theorem executionWrites_attempts {row : Option EventDelivery} {payloads : List EventPayload}
    {nfkc lower : String → String} :
    ∀ a ∈ (executionWrites row payloads nfkc lower request d t).attempts, a.delivery = d := by
  unfold executionWrites answerWrites
  repeat' split
  all_goals simp [DeliveryAttempt.answer]

-- A Pub/Sub topic whose publish future raises when its result is read, a timeout say.
def pubsubHook : Webhook := ⟨2,"gcpubsub://project/topic","secret",none,true,"app"⟩

def timeoutTransport : Transport := { answeringWith 200 with result := .error (.other "TimeoutError" false) }

theorem send_webhook_using_scheme_method_future_escapes :
    (∃ W, sendWebhookUsingSchemeMethod pubsubHook.targetUrl "shop.local" "secret" "order_created" "{}"
        { sampleWorld with transport := fun _ => timeoutTransport } = .error (.other "TimeoutError" false) W) ∧
      executionWrites (some ⟨.pending,"order_created",some 0,pubsubHook⟩) [⟨"{}"⟩] id id ⟨"task",0⟩ 0
        timeoutTransport = ⟨none,[{ delivery := 0, taskId := some "task" }],true⟩ :=
  ⟨⟨_,rfl⟩,rfl⟩

def Writes.row (writes : Writes) (row : EventDelivery) : EventDelivery :=
  match writes.status with
  | some status => finalRow status row
  | none => row

theorem Writes.rows_getElem?_self (writes : Writes) (deliveries : List EventDelivery) :
    (writes.rows d deliveries)[d]? = deliveries[d]?.map writes.row := by
  unfold Writes.rows Writes.row
  cases writes.status <;> simp [List.getElem?_modify]

theorem Writes.rows_getElem?_other {i : Nat} (writes : Writes) (deliveries : List EventDelivery) (other : d ≠ i) :
    (writes.rows d deliveries)[i]? = deliveries[i]? := by
  unfold Writes.rows
  cases writes.status <;> simp [List.getElem?_modify, other]

-- An execution that raises ends there, its writes kept (a Retry has already sent its message).
def runAll : List (TaskRequest × Nat × Transport) → World → World
  | [], w => w
  | (request, d, t) :: steps, w => runAll steps (after (execute request d t w))

structure Agree (d : Nat) (w1 w2 : World) : Prop where
  row : w1.deliveries[d]? = w2.deliveries[d]?
  attempts : w1.attempts.filter (·.delivery = d) = w2.attempts.filter (·.delivery = d)
  payloads : w1.payloads = w2.payloads
  nfkc : w1.nfkc = w2.nfkc
  lower : w1.lower = w2.lower

theorem Agree.refl (d : Nat) (w : World) : Agree d w w := ⟨rfl,rfl,rfl,rfl,rfl⟩

variable {w1 w2 : World}

theorem execute_agree_other {d' : Nat} (other : d' ≠ d) (agree : Agree d w1 w2) :
    Agree d (after (execute request d' t w1)) w2 := by
  obtain ⟨rest,calls,oracle,run,-⟩ := execute_writes request d' t w1
  rw [run]
  refine ⟨?_,?_,agree.payloads,agree.nfkc,agree.lower⟩
  · rw [Writes.rows_getElem?_other _ _ other]
    exact agree.row
  · have foreign : (executionWrites w1.deliveries[d']? w1.payloads w1.nfkc w1.lower request d' t).attempts.filter
        (·.delivery = d) = [] :=
      List.filter_eq_nil_iff.mpr fun a member => by simp [executionWrites_attempts a member, other]
    rw [List.filter_append, foreign, List.append_nil]
    exact agree.attempts

def runSchedule (d : Nat) : List (TaskRequest × Transport) → World → List (List Effect) × World
  | [], w => ([], w)
  | (request, t) :: steps, w =>
    let next := after (execute request d t w)
    let rest := runSchedule d steps next
    (next.log.drop w.log.length :: rest.1, rest.2)

def statusesWritten (d : Nat) (effects : List Effect) : List EventDeliveryStatus :=
  ((effects.filterMap Effect.statusWrite).filter (·.1 = d)).map (·.2)

theorem statusesWritten_of_writes {rest : List Effect} {status : Option EventDeliveryStatus}
    (writes : rest.filterMap Effect.statusWrite = (status.map (d, ·)).toList) :
    statusesWritten d rest = status.toList := by
  cases status <;> simp [statusesWritten, writes]

def Cleared (d : Nat) (w : World) : Prop := ∃ row, w.deliveries[d]? = some row ∧ row.payload = none

theorem executionWrites_cleared {row : EventDelivery} (request : TaskRequest) (d : Nat) (t : Transport)
    (payloads : List EventPayload) (nfkc lower : String → String) (cleared : row.payload = none) :
    (executionWrites (some row) payloads nfkc lower request d t).status = some .failed ∧
      (executionWrites (some row) payloads nfkc lower request d t).dispatched = false := by
  cases active : row.webhook.isActive <;>
    simp [executionWrites, active, cleared, answerWrites, Exn.isValueError]

theorem execute_cleared (request : TaskRequest) (cleared : Cleared d w) :
    let next := after (execute request d t w)
    Cleared d next ∧ statusesWritten d (next.log.drop w.log.length) = [.failed] ∧
      ∀ e ∈ next.log.drop w.log.length, e.ledger = true := by
  obtain ⟨row,found,detached⟩ := cleared
  obtain ⟨rest,calls,oracle,run,status,ledger,-⟩ := execute_writes request d t w
  obtain ⟨failed,quiet⟩ := executionWrites_cleared request d t w.payloads w.nfkc w.lower detached
  rw [found] at run status ledger
  simp only [run, List.drop_left]
  refine ⟨⟨finalRow .failed row,?_,by simpa using detached⟩,?_,ledger quiet⟩
  · rw [Writes.rows_getElem?_self, found]
    simp [Writes.row, failed]
  · rw [statusesWritten_of_writes status, failed]
    rfl

theorem execute_success (success : .success ∈ statusesWritten d ((after (execute request d t w)).log.drop w.log.length)) :
    Cleared d (after (execute request d t w)) := by
  obtain ⟨rest,calls,oracle,run,status,-⟩ := execute_writes request d t w
  rw [run, List.drop_left, statusesWritten_of_writes status] at success
  rw [run]
  cases found : w.deliveries[d]? with
  | none => simp [found, executionWrites] at success
  | some row =>
    refine ⟨(executionWrites (some row) w.payloads w.nfkc w.lower request d t).row row,?_,?_⟩
    · rw [Writes.rows_getElem?_self, found]
      rfl
    · rw [found] at success
      have written : (executionWrites (some row) w.payloads w.nfkc w.lower request d t).status = some .success := by
        simpa using success
      simp [Writes.row, written, finalRow]

theorem runSchedule_log (steps : List (TaskRequest × Transport)) :
    ∀ w, (runSchedule d steps w).2.log = w.log ++ (runSchedule d steps w).1.flatten := by
  induction steps with
  | nil => intro w; simp [runSchedule]
  | cons step steps ih =>
    intro w
    obtain ⟨rest,calls,oracle,run,-⟩ := execute_writes step.1 d step.2 w
    simp [runSchedule, ih, run]

theorem runSchedule_cleared (steps : List (TaskRequest × Transport)) :
    ∀ w, Cleared d w → ∀ later ∈ (runSchedule d steps w).1,
      statusesWritten d later = [.failed] ∧ ∀ e ∈ later, e.ledger = true := by
  induction steps with
  | nil => intro w _ later member; simp [runSchedule] at member
  | cons step steps ih =>
    intro w cleared later member
    obtain ⟨next,failed,quiet⟩ := execute_cleared step.1 (t := step.2) cleared
    rcases List.mem_cons.mp member with rfl | member
    · exact ⟨failed,quiet⟩
    · exact ih _ next later member

theorem runSchedule_writes_once (steps : List (TaskRequest × Transport)) :
    ∀ w, ∀ effects ∈ (runSchedule d steps w).1, (statusesWritten d effects).length ≤ 1 := by
  induction steps with
  | nil => intro w effects member; simp [runSchedule] at member
  | cons step steps ih =>
    intro w effects member
    rcases List.mem_cons.mp member with rfl | member
    · obtain ⟨rest,calls,oracle,run,status,-⟩ := execute_writes step.1 d step.2 w
      rw [run, List.drop_left, statusesWritten_of_writes status]
      cases (executionWrites w.deliveries[d]? w.payloads w.nfkc w.lower step.1 d step.2).status <;> simp
    · exact ih _ effects member

theorem runSchedule_after_success (steps : List (TaskRequest × Transport)) :
    ∀ w (i j : Nat) first later, i < j → (runSchedule d steps w).1[i]? = some first →
      (runSchedule d steps w).1[j]? = some later → .success ∈ statusesWritten d first →
      statusesWritten d later = [.failed] ∧ ∀ e ∈ later, e.ledger = true := by
  induction steps with
  | nil => intro w i j first later _ found; simp [runSchedule] at found
  | cons step steps ih =>
    intro w i j first later order at_first at_later success
    obtain ⟨j,rfl⟩ : ∃ k, j = k + 1 := ⟨j - 1,by omega⟩
    simp only [runSchedule, List.getElem?_cons_succ] at at_later
    cases i with
    | zero =>
      simp only [runSchedule, List.getElem?_cons_zero, Option.some.injEq] at at_first
      subst at_first
      exact runSchedule_cleared steps _ (execute_success success) later (List.getElem?_mem at_later)
    | succ i =>
      simp only [runSchedule, List.getElem?_cons_succ] at at_first
      exact ih _ i j first later (by omega) at_first at_later success

theorem send_webhook_request_async_duplicate_overwrites :
    statusesWritten 0 (runSchedule 0 [(⟨"task",0⟩,answeringWith 200), (⟨"task",0⟩,answeringWith 200)]
      sampleWorld).1.flatten = [.success, .failed] := by
  decide

theorem send_webhook_request_async_quiet_after_success (d : Nat) (steps : List (TaskRequest × Transport))
    (w : World) :
    let logs := (runSchedule d steps w).1
    (runSchedule d steps w).2.log = w.log ++ logs.flatten ∧
    (∀ effects ∈ logs, (statusesWritten d effects).length ≤ 1) ∧
    ∀ (i j : Nat) first later, i < j → logs[i]? = some first → logs[j]? = some later →
      .success ∈ statusesWritten d first → statusesWritten d later = [.failed] ∧ ∀ e ∈ later, e.ledger = true :=
  ⟨runSchedule_log steps w,runSchedule_writes_once steps w,runSchedule_after_success steps w⟩

end SaleorWebhook
