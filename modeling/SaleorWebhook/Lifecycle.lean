import SaleorWebhook.AsyncSchedules
import Mathlib.Logic.Relation

namespace SaleorWebhook

-- The lifecycle of a delivery, the abstract machine its rows refine.

inductive Phase where
  | pending
  | delivered
  | failed (attached : Bool)
  deriving DecidableEq, Repr

-- A failure that kept its payload can still be delivered; a delivered delivery can only fail again.
inductive Phase.Step : Phase → Phase → Prop
  | deliver : Phase.Step .pending .delivered
  | fail : Phase.Step .pending (.failed true)
  | redeliver : Phase.Step (.failed true) .delivered
  | refail : Phase.Step .delivered (.failed false)

def Phase.Reaches (p q : Phase) : Prop := Relation.ReflTransGen Phase.Step p q

def Phase.later : Phase → List Phase
  | .pending => [.pending,.delivered,.failed true,.failed false]
  | .delivered => [.delivered,.failed false]
  | .failed true => [.failed true,.delivered,.failed false]
  | .failed false => [.failed false]

theorem Phase.later_step {p q r : Phase} (later : q ∈ p.later) (step : Phase.Step q r) : r ∈ p.later := by
  cases step <;> rcases p with _ | _ | _ | _ <;> simp_all [Phase.later]

theorem Phase.reaches_of_later : ∀ {p q : Phase}, q ∈ p.later → p.Reaches q
  | .pending, q, later => by
    simp only [Phase.later, List.mem_cons, List.not_mem_nil, or_false] at later
    rcases later with rfl | rfl | rfl | rfl
    · exact .refl
    · exact .single .deliver
    · exact .single .fail
    · exact (Relation.ReflTransGen.single .deliver).tail .refail
  | .delivered, q, later => by
    simp only [Phase.later, List.mem_cons, List.not_mem_nil, or_false] at later
    rcases later with rfl | rfl
    · exact .refl
    · exact .single .refail
  | .failed true, q, later => by
    simp only [Phase.later, List.mem_cons, List.not_mem_nil, or_false] at later
    rcases later with rfl | rfl | rfl
    · exact .refl
    · exact .single .redeliver
    · exact (Relation.ReflTransGen.single .redeliver).tail .refail
  | .failed false, q, later => by
    rw [Phase.later, List.mem_singleton] at later
    rw [later]
    exact .refl

theorem Phase.reaches_iff {p q : Phase} : p.Reaches q ↔ q ∈ p.later := by
  refine ⟨fun reaches => ?_,Phase.reaches_of_later⟩
  induction reaches with
  | refl => rcases p with _ | _ | _ | _ <;> simp [Phase.later]
  | tail _ step later => exact Phase.later_step later step

instance (p q : Phase) : Decidable (p.Reaches q) := decidable_of_iff _ Phase.reaches_iff.symm

example : ¬ Phase.delivered.Reaches .pending ∧ ¬ (Phase.failed false).Reaches .delivered := by decide

-- The phase a row is in: none for a pending row without a payload, or a successful one that keeps it.
def EventDelivery.phase (row : EventDelivery) : Option Phase :=
  match row.status, row.payload with
  | .pending, some _ => some .pending
  | .success, none => some .delivered
  | .failed, payload => some (.failed payload.isSome)
  | _, _ => none

def Phased (rows : List EventDelivery) : Prop := ∀ row ∈ rows, row.phase.isSome

-- An id whose row is still to be made is pending: every entry point makes its rows pending.
def phaseAt (rows : List EventDelivery) (i : Nat) : Option Phase := rows[i]?.elim (some .pending) EventDelivery.phase

-- The rows refine the lifecycle from rows to rows': every delivery id in a phase has moved along the lifecycle.
def Advances (rows rows' : List EventDelivery) : Prop := ∀ i, ∀ p ∈ phaseAt rows i, ∃ q ∈ phaseAt rows' i, p.Reaches q

variable {rows rows' rows'' : List EventDelivery}

theorem Advances.refl (rows : List EventDelivery) : Advances rows rows := fun _ p found => ⟨p,found,.refl⟩

theorem Advances.trans (first : Advances rows rows') (second : Advances rows' rows'') : Advances rows rows'' := by
  intro i p found
  obtain ⟨q,found',reaches⟩ := first i p found
  obtain ⟨r,found'',reaches'⟩ := second i q found'
  exact ⟨r,found'',reaches.trans reaches'⟩

theorem phaseAt_isSome (phased : Phased rows) (i : Nat) : (phaseAt rows i).isSome := by
  unfold phaseAt
  cases old : rows[i]? with
  | none => rfl
  | some row => exact phased row (List.mem_iff_getElem?.mpr ⟨i,old⟩)

theorem Advances.phased (advances : Advances rows rows') (phased : Phased rows) : Phased rows' := by
  intro row member
  obtain ⟨i,found⟩ := List.mem_iff_getElem?.mp member
  obtain ⟨p,start⟩ := Option.isSome_iff_exists.mp (phaseAt_isSome phased i)
  obtain ⟨q,reached,-⟩ := advances i p start
  rw [phaseAt, found] at reached
  exact Option.isSome_iff_exists.mpr ⟨q,reached⟩

theorem Advances.append {added : List EventDelivery} (fresh : ∀ row ∈ added, row.phase = some .pending) :
    Advances rows (rows ++ added) := by
  intro i p found
  refine ⟨p,?_,.refl⟩
  by_cases old : i < rows.length
  · rwa [phaseAt, List.getElem?_append_left old]
  · rw [phaseAt, List.getElem?_eq_none (by omega)] at found
    rw [phaseAt, List.getElem?_append_right (by omega)]
    cases made : added[i - rows.length]? with
    | none => exact found
    | some row => exact (fresh row (List.mem_iff_getElem?.mpr ⟨_,made⟩)).trans found

theorem finalRow_reaches {status : EventDeliveryStatus} {row : EventDelivery} {p : Phase}
    (settled : status ≠ .pending) (attached : status = .success → row.payload.isSome) (found : row.phase = some p) :
    ∃ q ∈ (finalRow status row).phase, p.Reaches q := by
  obtain ⟨current,eventType,payload,webhook⟩ := row
  cases status <;> cases current <;> cases payload <;> cases found <;>
    simp_all [finalRow, EventDelivery.phase, Phase.reaches_iff, Phase.later]

theorem Advances.finalRow {status : EventDeliveryStatus} {d : Nat} (settled : status ≠ .pending)
    (attached : status = .success → ∀ row ∈ rows[d]?, row.payload.isSome) :
    Advances rows (rows.modify (finalRow status) d) := by
  intro i p found
  by_cases own : d = i
  · subst own
    cases old : rows[d]? with
    | none =>
      rw [phaseAt, old] at found
      exact ⟨p,by rwa [phaseAt, List.getElem?_modify_eq, old],.refl⟩
    | some row =>
      rw [phaseAt, old] at found
      simpa [phaseAt, old] using finalRow_reaches settled (fun success => attached success row old) found
  · exact ⟨p,by rwa [phaseAt, List.getElem?_modify_ne _ _ own],.refl⟩

theorem Writes.rows_advances (writes : Writes) {d : Nat} (settled : writes.status ≠ some .pending)
    (attached : writes.status = some .success → ∀ row ∈ rows[d]?, row.payload.isSome) :
    Advances rows (writes.rows d rows) := by
  unfold Writes.rows
  split
  · next status written =>
    exact Advances.finalRow (fun pending => settled (by rw [written, pending]))
      fun success => attached (by rw [written, success])
  · exact Advances.refl rows

-- A recorded success comes with its last attempt answered success and its payload detached.

def attemptsOf (attempts : List DeliveryAttempt) (d : Nat) : List DeliveryAttempt := attempts.filter (·.delivery == d)

def Vouched (rows : List EventDelivery) (attempts : List DeliveryAttempt) : Prop :=
  ∀ d row, rows[d]? = some row → row.status = .success →
    row.payload = none ∧ ∃ a ∈ (attemptsOf attempts d).getLast?, a.status = .success

variable {A : List DeliveryAttempt}

theorem attemptsOf_append_other {B : List DeliveryAttempt} {d : Nat} (other : ∀ a ∈ B, a.delivery ≠ d) :
    attemptsOf (A ++ B) d = attemptsOf A d := by
  simp only [attemptsOf, List.filter_append, List.append_right_eq_self, List.filter_eq_nil_iff, beq_iff_eq]
  exact other

theorem attemptsOf_append_own {B : List DeliveryAttempt} {d : Nat} (own : ∀ a ∈ B, a.delivery = d) :
    attemptsOf (A ++ B) d = attemptsOf A d ++ B := by
  simp only [attemptsOf, List.filter_append, List.append_cancel_left_eq, List.filter_eq_self, beq_iff_eq]
  exact own

theorem EventDelivery.status_of_phase {row : EventDelivery} (pending : row.phase = some .pending) :
    row.status = .pending := by
  unfold EventDelivery.phase at pending
  split at pending <;> simp_all

theorem Vouched.append {added : List EventDelivery} (vouched : Vouched rows A)
    (fresh : ∀ row ∈ added, row.phase = some .pending) : Vouched (rows ++ added) A := by
  intro d row found success
  by_cases old : d < rows.length
  · rw [List.getElem?_append_left old] at found
    exact vouched d row found success
  · rw [List.getElem?_append_right (by omega)] at found
    have pending := EventDelivery.status_of_phase (fresh row (List.mem_iff_getElem?.mpr ⟨_,found⟩))
    rw [pending] at success
    cases success

theorem Writes.rows_vouched (writes : Writes) {d : Nat} (vouched : Vouched rows A)
    (own : ∀ a ∈ writes.attempts, a.delivery = d)
    (backed : writes.status = some .success → ∃ a ∈ writes.attempts.getLast?, a.status = .success)
    (silent : writes.status = none → writes.attempts = [] ∨ ∀ row ∈ rows[d]?, row.payload.isSome) :
    Vouched (writes.rows d rows) (A ++ writes.attempts) := by
  intro i row found success
  by_cases same : d = i
  · subst same
    rw [Writes.rows_getElem?_self] at found
    obtain ⟨old,kept,rfl⟩ := Option.map_eq_some'.mp found
    unfold Writes.row at success ⊢
    split at success
    · next written status =>
      change written = .success at success
      subst success
      obtain ⟨a,last,succeeded⟩ := backed status
      refine ⟨by simp [finalRow],a,?_,succeeded⟩
      rw [attemptsOf_append_own own, List.getLast?_append, Option.mem_def.mp last]
      rfl
    · next status =>
      obtain ⟨detached,backing⟩ := vouched d old kept success
      rcases silent status with none | attached
      · rw [none, List.append_nil]
        exact ⟨detached,backing⟩
      · have := attached old kept
        rw [detached] at this
        cases this
  · rw [Writes.rows_getElem?_other _ _ same] at found
    rw [attemptsOf_append_other fun a member => (own a member).symm ▸ same]
    exact vouched i row found success

-- clear_successful_delivery leaves no payload for a second success.

def successes (attempts : List DeliveryAttempt) (d : Nat) : Nat := (attemptsOf attempts d).countP (·.status == .success)

def SucceedsOnce (rows : List EventDelivery) (attempts : List DeliveryAttempt) : Prop :=
  ∀ d, successes attempts d ≤ 1 ∧ (0 < successes attempts d → ∃ row ∈ rows[d]?, row.payload = none)

theorem successes_append_other {B : List DeliveryAttempt} {d : Nat} (other : ∀ a ∈ B, a.delivery ≠ d) :
    successes (A ++ B) d = successes A d := by
  rw [successes, attemptsOf_append_other other, successes]

theorem successes_append_own {B : List DeliveryAttempt} {d : Nat} (own : ∀ a ∈ B, a.delivery = d) :
    successes (A ++ B) d = successes A d + B.countP (·.status == .success) := by
  rw [successes, attemptsOf_append_own own, List.countP_append, successes]

theorem SucceedsOnce.append (once : SucceedsOnce rows A) (added : List EventDelivery) :
    SucceedsOnce (rows ++ added) A := by
  intro d
  refine ⟨(once d).1,fun delivered => ?_⟩
  obtain ⟨row,found,detached⟩ := (once d).2 delivered
  exact ⟨row,by rwa [List.getElem?_append_left (List.getElem?_eq_some_iff.mp found).1],detached⟩

theorem finalRow_payload (status : EventDeliveryStatus) (row : EventDelivery) :
    (finalRow status row).payload = row.payload ∨ (finalRow status row).payload = none := by
  by_cases success : status = .success <;> simp [finalRow, success]

theorem Writes.row_payload (writes : Writes) (row : EventDelivery) :
    (writes.row row).payload = row.payload ∨ (writes.row row).payload = none := by
  unfold Writes.row
  split
  · exact finalRow_payload _ row
  · exact .inl rfl

theorem Writes.rows_once (writes : Writes) {d : Nat} (once : SucceedsOnce rows A)
    (own : ∀ a ∈ writes.attempts, a.delivery = d ∧ d < rows.length) (single : writes.attempts.length ≤ 1)
    (answered : ∀ a ∈ writes.attempts, a.status = .success → writes.status = some .success)
    (attached : writes.status = some .success → ∀ row ∈ rows[d]?, row.payload.isSome) :
    SucceedsOnce (writes.rows d rows) (A ++ writes.attempts) := by
  intro i
  by_cases same : d = i
  · subst same
    rw [successes_append_own fun a member => (own a member).1, Writes.rows_getElem?_self]
    by_cases answer : ∃ a ∈ writes.attempts, a.status = .success
    · obtain ⟨a,member,succeeded⟩ := answer
      have success := answered a member succeeded
      obtain ⟨row,found⟩ : ∃ row, rows[d]? = some row := ⟨_,List.getElem?_eq_getElem (own a member).2⟩
      have first : successes A d = 0 := by
        by_contra earlier
        obtain ⟨old,kept,detached⟩ := (once d).2 (Nat.pos_of_ne_zero earlier)
        simpa [detached] using attached success old kept
      refine ⟨by rw [first, Nat.zero_add]; exact (List.countP_le_length _).trans single,fun _ => ⟨writes.row row,?_,?_⟩⟩
      · rw [found]
        rfl
      · simp [Writes.row, success, finalRow]
    · have none : writes.attempts.countP (·.status == .success) = 0 := by simpa using answer
      rw [none, Nat.add_zero]
      refine ⟨(once d).1,fun delivered => ?_⟩
      obtain ⟨old,kept,detached⟩ := (once d).2 delivered
      refine ⟨writes.row old,by rw [Option.mem_def.mp kept]; rfl,?_⟩
      rcases writes.row_payload old with kept | cleared
      · rw [kept, detached]
      · exact cleared
  · rw [successes_append_other fun a member => (own a member).1 ▸ same, Writes.rows_getElem?_other _ _ same]
    exact once i

theorem dispatchResult_settled {nfkc lower : String → String} {targetUrl : String} {t : Transport}
    {response : WebhookResponse} (answer : dispatchResult nfkc lower targetUrl t = .ok response) :
    response.status = .success ∨ response.status = .failed := by
  unfold dispatchResult schemeResult senderResult httpResult sqsResult publishResult at answer
  repeat' split at answer
  all_goals (cases answer; try split) <;> simp

section Execution

variable {row : Option EventDelivery} {payloads : List EventPayload} {nfkc lower : String → String}
  {request : TaskRequest} {d : Nat} {t : Transport}

theorem executionWrites_backed
    (success : (executionWrites row payloads nfkc lower request d t).status = some .success) :
    ∃ a ∈ (executionWrites row payloads nfkc lower request d t).attempts.getLast?, a.status = .success := by
  cases row with
  | none => cases success
  | some delivery =>
    cases active : delivery.webhook.isActive
    · simp [executionWrites, active] at success
    · cases found : delivery.payload.bind (payloads[·]?) with
      | none => simp [executionWrites, active, found, answerWrites, Exn.isValueError] at success
      | some p =>
        cases answer : dispatchResult nfkc lower delivery.webhook.targetUrl t with
        | error e =>
          cases value : e.isValueError <;> simp [executionWrites, active, found, answer, answerWrites, value] at success
        | ok response =>
          by_cases failed : response.status = .failed
          · by_cases limit : request.retries < maxRetries <;>
              simp [executionWrites, active, found, answer, answerWrites, failed, limit] at success
          · have succeeded := (dispatchResult_settled answer).resolve_right failed
            simp [executionWrites, active, found, answer, answerWrites, failed, DeliveryAttempt.answer, succeeded]

theorem executionWrites_single : (executionWrites row payloads nfkc lower request d t).attempts.length ≤ 1 := by
  unfold executionWrites answerWrites
  repeat' split
  all_goals simp

theorem executionWrites_answered : ∀ a ∈ (executionWrites row payloads nfkc lower request d t).attempts,
    a.status = .success → (executionWrites row payloads nfkc lower request d t).status = some .success := by
  unfold executionWrites answerWrites
  repeat' split
  all_goals simp_all [DeliveryAttempt.answer]

theorem executionWrites_silent (silent : (executionWrites row payloads nfkc lower request d t).status = none) :
    (executionWrites row payloads nfkc lower request d t).attempts = [] ∨ ∀ delivery ∈ row, delivery.payload.isSome := by
  cases row with
  | none => exact .inl rfl
  | some delivery =>
    refine .inr fun _ member => ?_
    cases member
    cases active : delivery.webhook.isActive
    · simp [executionWrites, active] at silent
    · cases found : delivery.payload.bind (payloads[·]?) with
      | none => simp [executionWrites, active, found, answerWrites, Exn.isValueError] at silent
      | some p =>
        obtain ⟨q,attached,-⟩ := Option.bind_eq_some.mp found
        rw [attached]
        rfl

end Execution

end SaleorWebhook
