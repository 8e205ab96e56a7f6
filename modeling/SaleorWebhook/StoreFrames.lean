import SaleorWebhook.SyncLoop
import SaleorWebhook.FanOut
import SaleorWebhook.Observability
import SaleorWebhook.Lifecycle

namespace SaleorWebhook

-- An execution writes its own delivery; every other entry point only adds rows.

section Lists

variable {α : Type}

theorem prefix_modify {l₀ l : List α} (f : α → α) (pre : l₀ <+: l) {n : Nat} (late : l₀.length ≤ n) :
    l₀ <+: l.modify f n := by
  obtain ⟨t,rfl⟩ := pre
  induction l₀ generalizing n with
  | nil => exact List.nil_prefix
  | cons a l₀ ih =>
    obtain ⟨n,rfl⟩ : ∃ m, n = m + 1 := ⟨n - 1,by simp at late; omega⟩
    rw [List.cons_append, List.modify_succ_cons]
    exact List.cons_prefix_cons.mpr ⟨rfl,ih (by simpa using late)⟩

theorem mem_modify {f : α → α} {l : List α} {n : Nat} {b : α} (member : b ∈ l.modify f n) :
    b ∈ l ∨ ∃ a ∈ l, b = f a := by
  obtain ⟨i,found⟩ := List.mem_iff_getElem?.mp member
  rw [List.getElem?_modify] at found
  cases row : l[i]? with
  | none => simp [row] at found
  | some a =>
    have old := List.getElem?_mem row
    simp only [row, Option.map_eq_map, Option.map_some', Option.some.injEq] at found
    split at found
    · exact .inr ⟨a,old,found.symm⟩
    · exact .inl (found ▸ old)

theorem prefix_getElem? {l₀ l : List α} (pre : l₀ <+: l) {i : Nat} (within : i < l₀.length) : l[i]? = l₀[i]? := by
  obtain ⟨t,rfl⟩ := pre
  exact List.getElem?_append_left within

end Lists

section Queue

def Grows (P : Effect → Prop) (log log' : List Effect) : Prop :=
  ∃ rest, log' = log ++ rest ∧ ∀ e ∈ rest, P e

-- What the entry points other than the task may queue: task messages for rows that exist, and no retry.
def Effect.produced (n : Nat) : Effect → Prop
  | .delay d => d < n
  | .retry .. => False
  | _ => True

variable {P Q : Effect → Prop} {n m : Nat} {log log' log'' : List Effect} {e : Effect}

@[simp] theorem grows_append {rest : List Effect} : Grows P log (log ++ rest) ↔ ∀ e ∈ rest, P e := by
  refine ⟨fun ⟨rest',grown,holds⟩ => ?_,fun holds => ⟨rest,rfl,holds⟩⟩
  rwa [List.append_cancel_left grown]

theorem Grows.refl (P : Effect → Prop) (log : List Effect) : Grows P log log := ⟨[],by simp,by simp⟩

theorem Grows.imp (grown : Grows P log log') (weaker : ∀ e, P e → Q e) : Grows Q log log' := by
  obtain ⟨rest,rfl,holds⟩ := grown
  exact ⟨rest,rfl,fun e member => weaker e (holds e member)⟩

theorem Grows.trans (first : Grows P log log') (second : Grows P log' log'') : Grows P log log'' := by
  obtain ⟨rest,rfl,holds⟩ := first
  obtain ⟨more,rfl,holds'⟩ := second
  refine ⟨rest ++ more,List.append_assoc _ _ _,fun e member => ?_⟩
  rcases List.mem_append.mp member with early | late
  · exact holds e early
  · exact holds' e late

theorem Effect.produced.mono (produced : e.produced n) (within : n ≤ m) : e.produced m := by
  cases e with
  | delay d => exact Nat.lt_of_lt_of_le produced within
  | _ => exact produced

theorem Effect.produced.wellQueued (produced : e.produced n) : e.wellQueued n := by
  cases e with
  | retry => exact produced.elim
  | _ => exact produced

theorem Effect.produced_of_transport (transport : e.ledger = false) (n : Nat) : e.produced n := by
  cases e <;> trivial

theorem createdPayloads_produced (start : Nat) (payloads : List EventPayload) :
    ∀ e ∈ createdPayloads start payloads, e.produced n := by
  intro e member
  obtain ⟨⟨_,_⟩,-,rfl⟩ := List.mem_map.mp member
  trivial

theorem createdDeliveries_produced (start : Nat) (deliveries : List EventDelivery) :
    ∀ e ∈ createdDeliveries start deliveries, e.produced n := by
  intro e member
  obtain ⟨⟨_,_⟩,-,rfl⟩ := List.mem_map.mp member
  trivial

theorem renderLog_produced (renders : List (Webhook × Nat)) : ∀ e ∈ renderLog renders, e.produced n := by
  simp only [renderLog, List.mem_flatMap]
  rintro e ⟨⟨webhook,request⟩,-,member⟩
  rcases List.mem_pair.mp member with rfl | rfl <;> trivial

@[simp] theorem askLog_produced (requestContext : Option Nat) (k : Nat) :
    ∀ e ∈ askLog requestContext k, e.produced n := by
  cases requestContext <;> simp [askLog, Effect.produced]

@[simp] theorem payloadLog_produced (generatePayload : String) (eventPayload : Option Nat) (p : Nat) :
    ∀ e ∈ payloadLog generatePayload eventPayload p, e.produced n := by
  cases eventPayload <;> simp [payloadLog, Effect.produced]

end Queue

-- A step of the store that only adds rows, and keeps every invariant of the rows it had.
structure Extends (w w' : World) : Prop where
  payloads : w.payloads <+: w'.payloads
  deliveries : w.deliveries <+: w'.deliveries
  attempts : ∃ added, w'.attempts = w.attempts ++ added ∧ ∀ a ∈ added, w.deliveries.length ≤ a.delivery
  nfkc : w'.nfkc = w.nfkc
  lower : w'.lower = w.lower
  log : Grows (·.produced w'.deliveries.length) w.log w'.log
  advances : Advances w.deliveries w'.deliveries
  vouched : Vouched w.deliveries w.attempts → Vouched w'.deliveries w'.attempts
  once : SucceedsOnce w.deliveries w.attempts → SucceedsOnce w'.deliveries w'.attempts

theorem Extends.refl (w : World) : Extends w w :=
  ⟨List.prefix_refl _,List.prefix_refl _,⟨[],by simp,by simp⟩,rfl,rfl,Grows.refl _ _,Advances.refl _,id,id⟩

theorem Extends.trans {w1 w2 w3 : World} (first : Extends w1 w2) (second : Extends w2 w3) : Extends w1 w3 := by
  obtain ⟨added,attempts,fresh⟩ := first.attempts
  obtain ⟨more,attempts',fresh'⟩ := second.attempts
  refine ⟨first.payloads.trans second.payloads,first.deliveries.trans second.deliveries,
    ⟨added ++ more,by rw [attempts',attempts,List.append_assoc],?_⟩,second.nfkc.trans first.nfkc,
    second.lower.trans first.lower,(first.log.imp fun _ produced => produced.mono second.deliveries.length_le).trans
      second.log,
    first.advances.trans second.advances,second.vouched ∘ first.vouched,second.once ∘ first.once⟩
  intro a member
  rcases List.mem_append.mp member with old | new
  · exact fresh a old
  · exact first.deliveries.length_le.trans (fresh' a new)

structure Integrity (w : World) : Prop where
  payloads : ∀ row ∈ w.deliveries, ∀ p ∈ row.payload, p < w.payloads.length
  attempts : ∀ a ∈ w.attempts, a.delivery < w.deliveries.length

theorem Integrity.append {w : World} (integrity : Integrity w) {payloads : List EventPayload}
    {rows : List EventDelivery} {log : List Effect}
    (backed : ∀ row ∈ rows, ∀ p ∈ row.payload, p < w.payloads.length + payloads.length) :
    Integrity { w with payloads := w.payloads ++ payloads, deliveries := w.deliveries ++ rows, log } := by
  refine ⟨fun row member p ref => ?_,fun a member => ?_⟩
  · rcases List.mem_append.mp member with old | new
    · simpa using Nat.lt_add_right payloads.length (integrity.payloads row old p ref)
    · simpa using backed row new p ref
  · simpa using Nat.lt_add_right rows.length (integrity.attempts a member)

-- What one send or one execution does to the store, by what it writes.
structure Settled (P : Nat → Effect → Prop) (d : Nat) (w w' : World) (writes : Writes) : Prop where
  settled : writes.status ≠ some .pending
  own : ∀ a ∈ writes.attempts, a.delivery = d ∧ d < w.deliveries.length
  payloads : w'.payloads = w.payloads
  deliveries : w'.deliveries = writes.rows d w.deliveries
  attempts : w'.attempts = w.attempts ++ writes.attempts
  nfkc : w'.nfkc = w.nfkc
  lower : w'.lower = w.lower
  log : Grows (P w.deliveries.length) w.log w'.log
  attached : writes.status = some .success → ∀ row ∈ w.deliveries[d]?, row.payload.isSome
  backed : writes.status = some .success → ∃ a ∈ writes.attempts.getLast?, a.status = .success
  silent : writes.status = none → writes.attempts = [] ∨ ∀ row ∈ w.deliveries[d]?, row.payload.isSome
  single : writes.attempts.length ≤ 1
  answered : ∀ a ∈ writes.attempts, a.status = .success → writes.status = some .success

def Settles (P : Nat → Effect → Prop) (d : Nat) (w w' : World) : Prop := ∃ writes, Settled P d w w' writes

variable {P : Nat → Effect → Prop} {d : Nat} {w w' : World}

theorem Settles.payloads (settles : Settles P d w w') : w'.payloads = w.payloads :=
  let ⟨_,settled⟩ := settles
  settled.payloads

theorem Writes.length_rows (writes : Writes) (deliveries : List EventDelivery) :
    (writes.rows d deliveries).length = deliveries.length := by
  unfold Writes.rows
  split <;> simp

theorem Settles.length (settles : Settles P d w w') : w'.deliveries.length = w.deliveries.length := by
  obtain ⟨writes,settled⟩ := settles
  rw [settled.deliveries, Writes.length_rows]

theorem Settles.log (settles : Settles P d w w') : Grows (P w.deliveries.length) w.log w'.log :=
  let ⟨_,settled⟩ := settles
  settled.log

theorem Settles.advances (settles : Settles P d w w') : Advances w.deliveries w'.deliveries := by
  obtain ⟨writes,settled⟩ := settles
  rw [settled.deliveries]
  exact writes.rows_advances settled.settled settled.attached

theorem Settles.vouched (settles : Settles P d w w') (vouched : Vouched w.deliveries w.attempts) :
    Vouched w'.deliveries w'.attempts := by
  obtain ⟨writes,settled⟩ := settles
  rw [settled.deliveries, settled.attempts]
  exact writes.rows_vouched vouched (fun a member => (settled.own a member).1) settled.backed settled.silent

theorem Settles.once (settles : Settles P d w w') (once : SucceedsOnce w.deliveries w.attempts) :
    SucceedsOnce w'.deliveries w'.attempts := by
  obtain ⟨writes,settled⟩ := settles
  rw [settled.deliveries, settled.attempts]
  exact writes.rows_once once settled.own settled.single settled.answered settled.attached

theorem Settles.extends {w0 : World} (grown : Extends w0 w) (fresh : w0.deliveries.length ≤ d)
    (settles : Settles Effect.produced d w w') :
    Extends w0 w' := by
  have length := settles.length
  have advances := settles.advances
  have vouched := settles.vouched
  have once := settles.once
  obtain ⟨writes,settled⟩ := settles
  obtain ⟨before,old,freshBefore⟩ := grown.attempts
  refine ⟨settled.payloads ▸ grown.payloads,?_,⟨before ++ writes.attempts,by rw [settled.attempts,old,List.append_assoc],?_⟩,
    settled.nfkc.trans grown.nfkc,settled.lower.trans grown.lower,length ▸ grown.log.trans settled.log,
    grown.advances.trans advances,vouched ∘ grown.vouched,once ∘ grown.once⟩
  · rw [settled.deliveries]
    unfold Writes.rows
    split
    · exact prefix_modify _ grown.deliveries fresh
    · exact grown.deliveries
  · intro a member
    rcases List.mem_append.mp member with early | late
    · exact freshBefore a early
    · exact (settled.own a late).1 ▸ fresh

theorem Settles.integrity (integrity : Integrity w) (settles : Settles P d w w') : Integrity w' := by
  have length := settles.length
  obtain ⟨writes,settled⟩ := settles
  refine ⟨fun row member p ref => ?_,fun a member => ?_⟩
  · rw [settled.payloads]
    rw [settled.deliveries] at member
    unfold Writes.rows at member
    split at member
    · rcases mem_modify member with old | ⟨old,kept,rfl⟩
      · exact integrity.payloads row old p ref
      · rcases finalRow_payload _ old with same | cleared
        · exact integrity.payloads old kept p (same ▸ ref)
        · simp [cleared] at ref
    · exact integrity.payloads row member p ref
  · rw [length]
    rw [settled.attempts] at member
    rcases List.mem_append.mp member with old | new
    · exact integrity.attempts a old
    · exact (settled.own a new).1 ▸ (settled.own a new).2

variable {request : TaskRequest} {t : Transport}

theorem executionWrites_settled {row : Option EventDelivery} {payloads : List EventPayload}
    {nfkc lower : String → String} :
    (executionWrites row payloads nfkc lower request d t).status ≠ some .pending := by
  unfold executionWrites answerWrites
  repeat' split
  all_goals simp

theorem executionWrites_success {row : Option EventDelivery} {payloads : List EventPayload}
    {nfkc lower : String → String} (success : (executionWrites row payloads nfkc lower request d t).status = some .success) :
    ∀ delivery ∈ row, delivery.payload.isSome := by
  rintro delivery ⟨⟩
  cases active : delivery.webhook.isActive
  · simp [executionWrites, active] at success
  · cases found : delivery.payload.bind (payloads[·]?) with
    | none => simp [executionWrites, active, found, answerWrites, Exn.isValueError] at success
    | some row =>
      obtain ⟨p,attached,-⟩ := Option.bind_eq_some.mp found
      rw [attached]
      rfl

theorem execute_settles (request : TaskRequest) (d : Nat) (t : Transport) (w : World) :
    Settles Effect.wellQueued d w (after (execute request d t w)) := by
  obtain ⟨rest,calls,oracle,run,-,-,queued,-⟩ := execute_writes request d t w
  refine ⟨_,executionWrites_settled,fun a member => ⟨executionWrites_attempts a member,?_⟩,by rw [run],by rw [run],
    by rw [run],by rw [run],by rw [run],by rw [run]; exact grows_append.mpr queued,executionWrites_success,
    executionWrites_backed,executionWrites_silent,executionWrites_single,executionWrites_answered⟩
  cases found : w.deliveries[d]? with
  | none => simp [found, executionWrites] at member
  | some row => exact (List.getElem?_eq_some_iff.mp found).1

variable {J : Type}

theorem sendWebhookRequestSync_settles (loads : String → Except Exn J) (delivery : EventDelivery)
    (stored : w.deliveries[d]? = some delivery) :
    Settles Effect.produced d w (after (sendWebhookRequestSync loads d delivery w)) ∧
      ∀ responseData w', sendWebhookRequestSync loads d delivery w = .ok responseData w' →
        ∀ row ∈ w'.deliveries[d]?, row.status ≠ .pending := by
  have present : d < w.deliveries.length := (List.getElem?_eq_some_iff.mp stored).1
  have unchanged : ∀ e, Settles Effect.produced d w (after (EStateM.Result.error e w : EStateM.Result Exn World (Option J))) :=
    fun e => ⟨⟨none,[],false⟩,by simp,by simp,rfl,rfl,by simp,rfl,rfl,Grows.refl _ _,nofun,nofun,fun _ => .inl rfl,
      by simp,by simp⟩
  cases payload : delivery.payload.bind (w.payloads[·]?) with
  | none =>
    have raised : sendWebhookRequestSync loads d delivery w =
        .error (.attributeError "\x27NoneType\x27 object has no attribute \x27payload\x27") w := by
      simp only [sendWebhookRequestSync, bind_apply, payloadRow_apply, payload, throw_apply]
    rw [raised]
    exact ⟨unchanged _,nofun⟩
  | some row =>
    have attached : ∀ found ∈ w.deliveries[d]?, found.payload.isSome := by
      obtain ⟨p,attached,-⟩ := Option.bind_eq_some.mp payload
      intro found member
      rw [stored, Option.mem_def, Option.some.injEq] at member
      rw [← member, attached]
      rfl
    cases parsed : urlparse w.nfkc delivery.webhook.targetUrl with
    | error e =>
      have raised : sendWebhookRequestSync loads d delivery w = .error e w := by
        simp only [sendWebhookRequestSync, bind_apply, payloadRow_apply, payload, parseUrl, parsed]
      rw [raised]
      exact ⟨unchanged e,nofun⟩
    | ok parts =>
      by_cases http : asciiLower parts.scheme ∈ [WebhookSchemes.http.value, WebhookSchemes.https.value]
      · rw [sendWebhookRequestSync_http loads present payload parsed http]
        cases result : syncResponse loads (w.transport w.calls).post with
        | error e =>
          exact ⟨⟨⟨none,[{ delivery := d, taskId := none }],true⟩,by simp,by simp [present],rfl,rfl,rfl,rfl,rfl,
            by simp [Effect.produced],nofun,nofun,fun _ => .inr attached,by simp,by simp⟩,nofun⟩
        | ok pair =>
          obtain ⟨answered,data⟩ := pair
          have settled := syncResponse_settled result
          refine ⟨⟨⟨some answered.status,[DeliveryAttempt.answer { delivery := d, taskId := none } answered],true⟩,
            by simpa using settled,by simp [DeliveryAttempt.answer, present],rfl,rfl,rfl,rfl,rfl,
            by split <;> simp [Effect.produced],fun _ => attached,
            fun success => ⟨_,rfl,by simpa [DeliveryAttempt.answer] using success⟩,nofun,by simp,
            by simp [DeliveryAttempt.answer]⟩,?_⟩
          rintro _ _ ⟨⟩ _ found
          simp only [List.getElem?_modify_eq, List.getElem?_eq_getElem present, Option.map_eq_map, Option.map_some',
            Option.mem_def, Option.some.injEq] at found
          rw [← found, finalRow_status]
          exact settled
      · rw [sendWebhookRequestSync_unknown loads payload parsed http]
        exact ⟨⟨⟨some .failed,[],false⟩,by simp,by simp,rfl,rfl,by simp,rfl,rfl,by simp [Effect.produced],nofun,
          nofun,nofun,by simp,by simp⟩,nofun⟩

structure SameStore (w w' : World) : Prop where
  payloads : w'.payloads = w.payloads
  deliveries : w'.deliveries = w.deliveries
  attempts : w'.attempts = w.attempts
  nfkc : w'.nfkc = w.nfkc
  lower : w'.lower = w.lower
  log : Grows (·.produced w.deliveries.length) w.log w'.log

theorem SameStore.refl (w : World) : SameStore w w := ⟨rfl,rfl,rfl,rfl,rfl,Grows.refl _ _⟩

theorem SameStore.trans {w1 w2 w3 : World} (first : SameStore w1 w2) (second : SameStore w2 w3) : SameStore w1 w3 :=
  ⟨second.payloads.trans first.payloads,second.deliveries.trans first.deliveries,
    second.attempts.trans first.attempts,second.nfkc.trans first.nfkc,second.lower.trans first.lower,
    first.log.trans (second.log.imp fun _ produced => produced.mono (congrArg List.length first.deliveries).le)⟩

theorem SameStore.extends (same : SameStore w w') : Extends w w' :=
  ⟨same.payloads ▸ List.prefix_refl _,same.deliveries ▸ List.prefix_refl _,⟨[],by simp [same.attempts],by simp⟩,
    same.nfkc,same.lower,same.log.imp fun _ produced => produced.mono (congrArg List.length same.deliveries).ge,
    same.deliveries ▸ Advances.refl _,fun vouched => by rw [same.deliveries, same.attempts]; exact vouched,
    fun once => by rw [same.deliveries, same.attempts]; exact once⟩

theorem SameStore.integrity (same : SameStore w w') (integrity : Integrity w) : Integrity w' := by
  obtain ⟨payloads,deliveries,attempts,-⟩ := same
  exact ⟨payloads ▸ deliveries ▸ integrity.payloads,deliveries ▸ attempts ▸ integrity.attempts⟩

theorem SameStore.intact (same : SameStore w w') (integrity : Integrity w) : Extends w w' ∧ Integrity w' :=
  ⟨same.extends,same.integrity integrity⟩

theorem Extends.append (w : World) (payloads : List EventPayload) (rows : List EventDelivery) {log : List Effect}
    (grown : Grows (·.produced (w.deliveries.length + rows.length)) w.log log) (fresh : ∀ row ∈ rows, row.phase = some .pending) :
    Extends w { w with payloads := w.payloads ++ payloads, deliveries := w.deliveries ++ rows, log } :=
  ⟨List.prefix_append _ _,List.prefix_append _ _,⟨[],by simp,by simp⟩,rfl,rfl,by simpa using grown,Advances.append fresh,
    fun vouched => vouched.append fresh,fun once => by simpa using once.append rows⟩

section Keeps

variable {α β : Type}

def KeepsStore (x : M α) : Prop := ∀ w, SameStore w (after (x w))

theorem KeepsStore.bind {x : M α} {f : α → M β} (first : KeepsStore x) (rest : ∀ a, KeepsStore (f a)) :
    KeepsStore (x >>= f) := by
  intro w
  have kept := first w
  rw [bind_apply]
  cases result : x w with
  | ok a w1 => rw [result] at kept; exact kept.trans (rest a w1)
  | error e w1 => rw [result] at kept; exact kept

theorem KeepsStore.tryCatch {x : M α} {handle : Exn → M α} (body : KeepsStore x) (handler : ∀ e, KeepsStore (handle e)) :
    KeepsStore (tryCatch x handle) := by
  intro w
  have kept := body w
  rw [tryCatch_apply]
  cases result : x w with
  | ok a w1 => rw [result] at kept; exact kept
  | error e w1 => rw [result] at kept; exact kept.trans (handler e w1)

theorem KeepsStore.map {x : M α} (f : α → β) (body : KeepsStore x) : KeepsStore (f <$> x) := by
  intro w
  have kept := body w
  rw [map_apply]
  cases result : x w <;> rw [result] at kept <;> exact kept

theorem keepsStore_pure (a : α) : KeepsStore (pure a : M α) := fun w => SameStore.refl w

theorem keepsStore_throw (e : Exn) : KeepsStore (throw e : M α) := fun w => SameStore.refl w

theorem keepsStore_emit {effect : Effect} (quiet : ∀ n, effect.produced n) : KeepsStore (emit effect) :=
  fun _ => ⟨rfl,rfl,rfl,rfl,rfl,by simpa using quiet _⟩

theorem keepsStore_parseUrl (targetUrl : String) : KeepsStore (parseUrl targetUrl) := by
  intro w
  unfold parseUrl
  split <;> exact SameStore.refl w

@[simp] theorem after_liftExcept (result : Except Exn α) (w : World) : after (liftExcept result w) = w := by
  cases result <;> rfl

end Keeps

theorem sendWebhookUsingSchemeMethod_keeps (targetUrl domain secret eventType data : String) :
    KeepsStore (sendWebhookUsingSchemeMethod targetUrl domain secret eventType data) := by
  intro w
  obtain ⟨calls,sent,run,transport⟩ := sendWebhookUsingSchemeMethod_outcome (w := w) targetUrl domain secret eventType
    data
  rw [run, after_liftExcept]
  exact ⟨rfl,rfl,rfl,rfl,rfl,grows_append.mpr fun e member => Effect.produced_of_transport (transport e member) _⟩

variable {E : Type} {dumpEvent : E → String} {dumpEvents : List E → String}

theorem sendEachEvent_keeps (dumpEvent : E → String) (webhook : WebhookData) :
    ∀ (events : List E) (failed : Nat), KeepsStore (sendEachEvent dumpEvent webhook events failed)
  | [], failed => keepsStore_pure failed
  | _ :: events, _ =>
    (sendWebhookUsingSchemeMethod_keeps _ _ _ _ _).bind fun _ => sendEachEvent_keeps dumpEvent webhook events _

theorem sendObservabilityEvents_keeps (dumpEvent : E → String) (dumpEvents : List E → String) (events : List E) :
    ∀ webhooks : List WebhookData, KeepsStore (sendObservabilityEvents dumpEvent dumpEvents webhooks events)
  | [] => keepsStore_pure ()
  | webhook :: webhooks => by
    have turn : KeepsStore (sendObservabilityEventsTo dumpEvent dumpEvents events webhook) := by
      refine (keepsStore_parseUrl _).bind fun parts => KeepsStore.bind ?_ fun failed => keepsStore_emit fun _ => trivial
      refine KeepsStore.tryCatch ?_ fun e => ?_
      · split
        · exact (sendEachEvent_keeps dumpEvent webhook events 0).map _
        · exact (sendWebhookUsingSchemeMethod_keeps _ _ _ _ _).bind fun _ => keepsStore_pure _
      · split
        · exact keepsStore_pure _
        · exact keepsStore_throw e
    exact turn.bind fun _ => sendObservabilityEvents_keeps dumpEvent dumpEvents events webhooks

section FanOut

variable {D : Type}

theorem fanOutRows_backed (payloads : List EventPayload) (regular : List Webhook) (made : List (Webhook × String))
    (eventType data : String) :
    let fixed : List EventPayload := if regular = [] then [] else [⟨data⟩]
    ∀ row ∈ regular.map (fun webhook => (⟨.pending,eventType,some payloads.length,webhook⟩ : EventDelivery)) ++
        subscriptionRows eventType (payloads ++ fixed).length made,
      ∀ p ∈ row.payload, p < payloads.length + (fixed ++ made.map fun rendering => (⟨rendering.2⟩ : EventPayload)).length := by
  intro fixed row member p ref
  rcases List.mem_append.mp member with regularRow | renderedRow
  · obtain ⟨webhook,listed,rfl⟩ := List.mem_map.mp regularRow
    have nonempty : regular ≠ [] := List.ne_nil_of_mem listed
    simp only [Option.mem_def, Option.some.injEq] at ref
    simp [fixed, nonempty, ← ref]
  · obtain ⟨⟨q,webhook,body⟩,entry,rfl⟩ := List.mem_map.mp renderedRow
    have bound := List.fst_lt_add_of_mem_enumFrom entry
    simp only [Option.mem_def, Option.some.injEq] at ref
    simp only [List.length_append, List.length_map] at bound ⊢
    omega

theorem triggerWebhooksAsync_adds (renderer : Renderer D) (data eventType : String) (webhooks : List Webhook)
    (w : World) :
    ∃ payloads rows log, after (triggerWebhooksAsync renderer data eventType webhooks w) =
        { w with payloads := w.payloads ++ payloads, deliveries := w.deliveries ++ rows, log } ∧
      (∀ row ∈ rows, ∀ p ∈ row.payload, p < w.payloads.length + payloads.length) ∧
      (∀ row ∈ rows, row.phase = some .pending) ∧ Grows (·.produced (w.deliveries.length + rows.length)) w.log log := by
  simp only [triggerWebhooksAsync, groupWebhooksBySubscription, bind_apply, regularDeliveries_apply,
    createDeliveriesForSubscriptions_guarded, createDeliveriesForSubscriptions_apply, forM_delay, after_ok,
    List.append_assoc]
  refine ⟨_,_,_,rfl,fanOutRows_backed w.payloads _ _ eventType data,?_,grows_append.mpr ?_⟩
  · simp only [List.forall_mem_append, List.forall_mem_map, subscriptionRows]
    exact ⟨fun _ _ => rfl,fun _ _ => rfl⟩
  simp only [List.forall_mem_append]
  refine ⟨?_,renderLog_produced _,createdPayloads_produced _ _,createdDeliveries_produced _ _,?_⟩
  · split
    · exact nofun
    · simp only [List.forall_mem_cons]
      exact ⟨trivial,createdDeliveries_produced _ _⟩
  · simp only [List.forall_mem_map, List.forall_mem_append, List.mem_range']
    refine ⟨?_,?_⟩ <;> rintro _ ⟨i,within,rfl⟩ <;>
      simp only [Effect.produced, List.length_append, List.length_map, subscriptionRows, List.enumFrom_length]
        at within ⊢ <;>
      omega

theorem triggerWebhooksAsync_extends (renderer : Renderer D) (data eventType : String) (webhooks : List Webhook)
    (integrity : Integrity w) :
    Extends w (after (triggerWebhooksAsync renderer data eventType webhooks w)) ∧
      Integrity (after (triggerWebhooksAsync renderer data eventType webhooks w)) := by
  obtain ⟨payloads,rows,log,run,backed,fresh,grown⟩ := triggerWebhooksAsync_adds renderer data eventType webhooks w
  rw [run]
  exact ⟨Extends.append w payloads rows grown fresh,integrity.append backed⟩

end FanOut

section Sync

variable {J R D : Type}

theorem SameStore.ofLog (w : World) {log : List Effect} (grown : Grows (·.produced w.deliveries.length) w.log log) :
    SameStore w { w with log } :=
  ⟨rfl,rfl,rfl,rfl,rfl,grown⟩

theorem grows_quiet {n : Nat} {log A B : List Effect} (first : ∀ e ∈ A, e.produced n)
    (second : ∀ e ∈ B, e.produced n) : Grows (·.produced n) log (log ++ A ++ B) := by
  rw [List.append_assoc, grows_append, List.forall_mem_append]
  exact ⟨first,second⟩

theorem sendFresh_extends {w0 : World} (loads : String → Except Exn J) (delivery : EventDelivery) (grown : Extends w0 w)
    (integrity : Integrity w) (fresh : w0.deliveries.length ≤ d) (stored : w.deliveries[d]? = some delivery) :
    Extends w0 (after (sendWebhookRequestSync loads d delivery w)) ∧
      Integrity (after (sendWebhookRequestSync loads d delivery w)) :=
  have settles := (sendWebhookRequestSync_settles loads delivery stored).1
  ⟨settles.extends grown fresh,settles.integrity integrity⟩

theorem syncDelivery_extends (renderer : Renderer D) (eventType generatePayload : String) (webhook : Webhook)
    (requestContext eventPayload : Option Nat) (integrity : Integrity w)
    (shared : ∀ p ∈ eventPayload, p < w.payloads.length) :
    match syncDelivery renderer eventType generatePayload webhook requestContext eventPayload w with
    | .ok (some (d, delivery), _, eventPayload') w1 => Extends w w1 ∧ Integrity w1 ∧ w.deliveries.length ≤ d ∧
        w1.deliveries[d]? = some delivery ∧ ∀ p ∈ eventPayload', p < w1.payloads.length
    | .ok (none, _, _) w1 => Extends w w1 ∧ Integrity w1
    | .error _ w1 => Extends w w1 ∧ Integrity w1 := by
  have backed : ∀ p ∈ some (eventPayload.getD w.payloads.length),
      p < w.payloads.length + (payloadRows generatePayload eventPayload).length := by
    cases eventPayload with
    | none => simp [payloadRows]
    | some p => simpa [payloadRows] using shared p rfl
  cases subscription : webhook.hasSubscription
  · rw [syncDelivery_fixed subscription]
    refine ⟨Extends.append _ _ _ (grows_quiet (payloadLog_produced _ _ _) (by simp [Effect.produced]))
        (by simp [EventDelivery.phase]),
      integrity.append ?_,le_refl _,by simp,by simpa using backed⟩
    simpa using backed
  · rw [syncDelivery_subscription subscription]
    cases subscribable : renderer.subscribable <;> simp only [Bool.false_eq_true, if_false, if_true]
    · exact (SameStore.ofLog w (grows_append.mpr (askLog_produced _ _))).intact integrity
    · cases renderer.generate webhook (requestContext.getD w.log.length) with
      | none =>
        exact (SameStore.ofLog w (grows_quiet (askLog_produced _ _) (by simp [Effect.produced]))).intact integrity
      | some data =>
        refine ⟨Extends.append _ [_] [_] (grows_quiet (askLog_produced _ _) (by simp [Effect.produced]))
          (by simp [EventDelivery.phase]),
          integrity.append ?_,le_refl _,by simp,fun p ref => ?_⟩
        · simp
        · simpa using Nat.lt_succ_of_lt (shared p ref)

theorem triggerAllWebhooksSyncFrom_extends (loads : String → Except Exn J) (renderer : Renderer D)
    (eventType generatePayload : String) (parse : Option J → Option R) :
    ∀ (webhooks : List Webhook) (requestContext eventPayload : Option Nat) (w : World), Integrity w →
      (∀ p ∈ eventPayload, p < w.payloads.length) →
      Extends w (after (triggerAllWebhooksSyncFrom loads renderer eventType generatePayload parse webhooks
          requestContext eventPayload w)) ∧
        Integrity (after (triggerAllWebhooksSyncFrom loads renderer eventType generatePayload parse webhooks
          requestContext eventPayload w))
  | [], _, _, w, integrity, _ => ⟨Extends.refl w,integrity⟩
  | webhook :: webhooks, requestContext, eventPayload, w, integrity, shared => by
    have turn := syncDelivery_extends renderer eventType generatePayload webhook requestContext eventPayload integrity
      shared
    rw [triggerAllWebhooksSyncFrom_cons]
    revert turn
    cases syncDelivery renderer eventType generatePayload webhook requestContext eventPayload w with
    | error e w1 => exact id
    | ok made w1 =>
      obtain ⟨_ | ⟨d, delivery⟩,requestContext,eventPayload⟩ := made
      · exact id
      · rintro ⟨grown,integrity1,fresh,stored,shared1⟩
        have settles := (sendWebhookRequestSync_settles loads delivery stored).1
        dsimp only
        cases sent : sendWebhookRequestSync loads d delivery w1 with
        | error e w2 =>
          rw [sent] at settles
          exact ⟨settles.extends grown fresh,settles.integrity integrity1⟩
        | ok responseData w2 =>
          rw [sent] at settles
          dsimp only
          cases parse responseData with
          | some parsed => exact ⟨settles.extends grown fresh,settles.integrity integrity1⟩
          | none =>
            obtain ⟨rest,integrity2⟩ := triggerAllWebhooksSyncFrom_extends loads renderer eventType generatePayload
              parse webhooks requestContext eventPayload w2 (settles.integrity integrity1)
              fun p ref => settles.payloads ▸ shared1 p ref
            exact ⟨(settles.extends grown fresh).trans rest,integrity2⟩

theorem createDeliveryForSubscriptionSyncEvent_apply (renderer : Renderer D) (eventType : String) (webhook : Webhook)
    (request : Option Nat) (w : World) :
    createDeliveryForSubscriptionSyncEvent renderer eventType webhook request w =
      if renderer.subscribable then
        match renderer.generate webhook (request.getD w.log.length) with
        | some data =>
          .ok (some (w.deliveries.length, ⟨.pending,eventType,some w.payloads.length,webhook⟩)) { w with
            payloads := w.payloads ++ [⟨renderer.dumps data⟩]
            deliveries := w.deliveries ++ [⟨.pending,eventType,some w.payloads.length,webhook⟩]
            log := w.log ++ askLog request w.log.length ++ [.render webhook (request.getD w.log.length),
              .createPayload w.payloads.length ⟨renderer.dumps data⟩,
              .createDelivery w.deliveries.length ⟨.pending,eventType,some w.payloads.length,webhook⟩] }
        | none => .error (.paymentError ("No payload was generated with subscription for event: " ++ eventType))
            { w with log := w.log ++ askLog request w.log.length ++ [.render webhook (request.getD w.log.length)] }
      else .ok none w := by
  cases request <;> cases subscribable : renderer.subscribable <;>
    simp [createDeliveryForSubscriptionSyncEvent, subscribable, bind_apply, askLog] <;>
    cases renderer.generate webhook _ <;> simp [bind_apply, map_apply]

theorem triggerWebhookSync_extends (loads : String → Except Exn J) (renderer : Renderer D) (eventType data : String)
    (webhook : Option Webhook) (integrity : Integrity w) :
    Extends w (after (triggerWebhookSync loads renderer eventType data webhook w)) ∧
      Integrity (after (triggerWebhookSync loads renderer eventType data webhook w)) := by
  cases webhook with
  | none => exact ⟨Extends.refl w,integrity⟩
  | some webhook =>
    cases subscription : webhook.hasSubscription
    · simp only [triggerWebhookSync, subscription, Bool.false_eq_true, if_false, bind_apply, createPayload_apply,
        createDelivery_apply, pure_apply]
      exact sendFresh_extends loads _ (Extends.append w [_] [_] (by simp [Effect.produced])
        (by simp [EventDelivery.phase])) (integrity.append (by simp)) (le_refl _) (by simp)
    · simp only [triggerWebhookSync, subscription, if_true, bind_apply, createDeliveryForSubscriptionSyncEvent_apply]
      cases subscribable : renderer.subscribable <;>
        simp only [Bool.false_eq_true, if_false, if_true, pure_apply, Option.getD_none]
      · exact ⟨Extends.refl w,integrity⟩
      · cases renderer.generate webhook (w.log.length) with
        | none =>
          exact (SameStore.ofLog w (grows_quiet (askLog_produced _ _) (by simp [Effect.produced]))).intact
            integrity
        | some rendering =>
          exact sendFresh_extends loads _
            (Extends.append w [_] [_] (grows_quiet (askLog_produced _ _) (by simp [Effect.produced]))
              (by simp [EventDelivery.phase])) (integrity.append (by simp)) (le_refl _) (by simp)

end Sync

end SaleorWebhook
