import SaleorWebhook.System

namespace SaleorWebhook

-- The broker is not in src/: a run is queue-driven when each execution is for a message sent before it.

def QueueOk (w : World) : Prop := ∀ e ∈ w.log, e.wellQueued w.deliveries.length

-- A delay of the delivery, run with retries 0, or the retry that carries this very request.
def Effect.asks (request : TaskRequest) (d : Nat) : Effect → Bool
  | .delay d' => d' == d && request.retries == 0
  | .retry request' d' _ => request' == request && d' == d
  | _ => false

variable {J R D E : Type}

def Operation.enqueuedIn (log : List Effect) : Operation J R D E → Bool
  | .sendWebhookRequestAsync request d _ => log.any (·.asks request d)
  | _ => true

def queueDriven : List (Operation J R D E) → World → Bool
  | [], _ => true
  | op :: ops, w => op.enqueuedIn w.log && queueDriven ops (op.run w)

variable {w w' : World} {n : Nat}

theorem Grows.queueOk (grown : Grows (·.wellQueued w'.deliveries.length) w.log w'.log) (queued : QueueOk w)
    (within : w.deliveries.length ≤ w'.deliveries.length) : QueueOk w' := by
  obtain ⟨rest,log,fresh⟩ := grown
  intro e member
  rw [log] at member
  rcases List.mem_append.mp member with old | new
  · exact (queued e old).mono within
  · exact fresh e new

theorem Operation.run_queueOk (op : Operation J R D E) (integrity : Integrity w) (queued : QueueOk w) :
    QueueOk (op.run w) := by
  rcases op.run_cases integrity with ⟨request,d,t,-,settles⟩ | ⟨-,grown,-⟩
  · exact (settles.log.imp fun _ sent => sent.mono settles.length.ge).queueOk queued settles.length.ge
  · exact (grown.log.imp fun _ produced => produced.wellQueued).queueOk queued grown.deliveries.length_le

theorem runOps_intact : ∀ (ops : List (Operation J R D E)) (w : World), Integrity w → QueueOk w →
    Integrity (runOps ops w) ∧ QueueOk (runOps ops w)
  | [], _, integrity, queued => ⟨integrity,queued⟩
  | op :: ops, w, integrity, queued =>
    runOps_intact ops (op.run w) (op.run_integrity integrity) (op.run_queueOk integrity queued)

theorem queueDriven_append (pre : List (Operation J R D E)) (post : List (Operation J R D E)) :
    ∀ w, queueDriven (pre ++ post) w = (queueDriven pre w && queueDriven post (runOps pre w)) := by
  induction pre with
  | nil => intro w; rfl
  | cons op pre ih =>
    intro w
    show (op.enqueuedIn w.log && queueDriven (pre ++ post) (op.run w)) = _
    rw [ih, ← Bool.and_assoc]
    rfl

theorem queueDriven_split {pre post : List (Operation J R D E)} {request : TaskRequest} {d : Nat} {t : Transport}
    (driven : queueDriven (pre ++ .sendWebhookRequestAsync request d t :: post) w = true) :
    queueDriven pre w = true ∧ ∃ e ∈ (runOps pre w).log, e.asks request d = true := by
  simp only [queueDriven_append, queueDriven, Operation.enqueuedIn, Bool.and_eq_true, List.any_eq_true] at driven
  exact ⟨driven.1,driven.2.1⟩

theorem Effect.asks_bounded {e : Effect} {request : TaskRequest} {d : Nat} (queued : e.wellQueued n)
    (asks : e.asks request d = true) : d < n ∧ request.retries ≤ maxRetries := by
  cases e with
  | delay d' =>
    simp only [Effect.asks, Bool.and_eq_true, beq_iff_eq] at asks
    obtain ⟨rfl,fresh⟩ := asks
    exact ⟨queued,by simp [fresh]⟩
  | retry request' d' countdown =>
    simp only [Effect.asks, Bool.and_eq_true, beq_iff_eq] at asks
    obtain ⟨rfl,rfl⟩ := asks
    exact ⟨queued.1,queued.2.2.1⟩
  | _ => cases asks

def queueOperations : List (Operation Unit Unit Unit Unit) :=
  [.triggerWebhooksAsync sampleRenderer "{}" "order_created" [sampleHook],
    .sendWebhookRequestAsync ⟨"task",0⟩ 1 (answeringWith 500),
    .sendWebhookRequestAsync ⟨"task",1⟩ 1 (answeringWith 200),
    .sendWebhookRequestAsync ⟨"task",1⟩ 1 (answeringWith 200)]

def failedAttempts (attempts : List DeliveryAttempt) (d : Nat) (id : String) : Nat :=
  attempts.countP (·.failedFor d id)

def Effect.backed (attempts : List DeliveryAttempt) : Effect → Prop
  | .retry request d _ => request.retries ≤ failedAttempts attempts d request.id
  | _ => True

def RetriesBacked (w : World) : Prop := ∀ e ∈ w.log, e.backed w.attempts

theorem Effect.backed.append {e : Effect} {A : List DeliveryAttempt} (backed : e.backed A) (B : List DeliveryAttempt) :
    e.backed (A ++ B) := by
  cases e with
  | retry request d _ => exact backed.trans (by simp [failedAttempts, List.countP_append])
  | _ => trivial

theorem Effect.produced.backed {e : Effect} (produced : e.produced n) (A : List DeliveryAttempt) : e.backed A := by
  cases e with
  | retry => exact produced.elim
  | _ => trivial

theorem Effect.backed.earned {e : Effect} {A : List DeliveryAttempt} {request : TaskRequest} {d : Nat}
    (backed : e.backed A) (asks : e.asks request d = true) : request.retries ≤ failedAttempts A d request.id := by
  cases e with
  | delay d' =>
    simp only [Effect.asks, Bool.and_eq_true, beq_iff_eq] at asks
    simp [asks.2]
  | retry request' d' countdown =>
    simp only [Effect.asks, Bool.and_eq_true, beq_iff_eq] at asks
    obtain ⟨rfl,rfl⟩ := asks
    exact backed
  | _ => cases asks

theorem execute_backed (request : TaskRequest) (d : Nat) (t : Transport) (backed : RetriesBacked w)
    (earned : request.retries ≤ failedAttempts w.attempts d request.id) : RetriesBacked (after (execute request d t w)) := by
  obtain ⟨rest,calls,oracle,run,-,-,-,sent,-⟩ := execute_writes request d t w
  rw [run]
  intro e member
  rcases List.mem_append.mp member with old | new
  · exact (backed e old).append _
  · have sentBy := sent e new
    cases e with
    | retry next d' countdown =>
      obtain ⟨rfl,same,a,added,failed⟩ := sentBy
      subst d'
      have more : 0 < (executionWrites w.deliveries[d]? w.payloads w.nfkc w.lower request d t).attempts.countP
          (·.failedFor d request.id) := List.countP_pos_iff.mpr ⟨a,added,failed⟩
      simp only [Effect.backed, failedAttempts, List.countP_append] at earned ⊢
      omega
    | delay => exact sentBy.elim
    | _ => trivial

theorem Operation.run_backed (op : Operation J R D E) (integrity : Integrity w) (backed : RetriesBacked w)
    (asked : op.enqueuedIn w.log = true) : RetriesBacked (op.run w) := by
  rcases op.run_cases integrity with ⟨request,d,t,rfl,-⟩ | ⟨-,grown,-⟩
  · obtain ⟨e,member,asks⟩ := List.any_eq_true.mp asked
    exact execute_backed request d t backed ((backed e member).earned asks)
  · obtain ⟨rest,log,produced⟩ := grown.log
    obtain ⟨added,attempts,-⟩ := grown.attempts
    intro e member
    rw [log, List.mem_append] at member
    rw [attempts]
    rcases member with old | new
    · exact (backed e old).append added
    · exact (produced e new).backed _

theorem runOps_backed : ∀ (ops : List (Operation J R D E)) (w : World), Integrity w → RetriesBacked w →
    queueDriven ops w = true → RetriesBacked (runOps ops w)
  | [], _, _, backed, _ => backed
  | op :: ops, w, integrity, backed, driven => by
    simp only [queueDriven, Bool.and_eq_true] at driven
    exact runOps_backed ops (op.run w) (op.run_integrity integrity) (op.run_backed integrity backed driven.1) driven.2

theorem retries_follow_failed_attempts (ops : List (Operation J R D E)) (w : World) (integrity : Integrity w)
    (backed : RetriesBacked w) (driven : queueDriven ops w = true) :
    RetriesBacked (runOps ops w) ∧
      ∀ pre request d t post, ops = pre ++ .sendWebhookRequestAsync request d t :: post →
        request.retries ≤ failedAttempts (runOps pre w).attempts d request.id := by
  refine ⟨runOps_backed ops w integrity backed driven,fun pre request d t post split => ?_⟩
  subst split
  obtain ⟨early,e,member,asks⟩ := queueDriven_split driven
  exact (runOps_backed pre w integrity backed early e member).earned asks

theorem retries_follow_failed_attempts_sample :
    Integrity sampleWorld ∧ RetriesBacked sampleWorld ∧ queueDriven queueOperations sampleWorld = true ∧
      RetriesBacked (runOps queueOperations sampleWorld) :=
  have backed : RetriesBacked sampleWorld := fun _ member => nomatch member
  ⟨sampleWorld_intact,backed,by decide,
    (retries_follow_failed_attempts queueOperations sampleWorld sampleWorld_intact backed (by decide)).1⟩

end SaleorWebhook
