import SaleorWebhook.TaskQueue

namespace SaleorWebhook

-- A fair run: every task message sent is delivered later, and each dispatcher returns or raises a ValueError.

variable {J R D E : Type}

def Effect.taskFor : Effect → Option Nat
  | .delay d => some d
  | .retry _ d _ => some d
  | _ => none

def Operation.askedBy (e : Effect) : Operation J R D E → Bool
  | .sendWebhookRequestAsync request d _ => e.asks request d
  | _ => false

def fairRun : List (Operation J R D E) → World → Bool
  | [], _ => true
  | op :: ops, w =>
    ((op.run w).log.drop w.log.length).all (fun e => e.taskFor.isNone || ops.any (·.askedBy e)) &&
      fairRun ops (op.run w)

def answers : Except Exn WebhookResponse → Bool
  | .ok _ => true
  | .error e => e.isValueError

def Operation.dispatchAnswers (w : World) : Operation J R D E → Bool
  | .sendWebhookRequestAsync _ d t =>
    w.deliveries[d]?.all fun row => answers (dispatchResult w.nfkc w.lower row.webhook.targetUrl t)
  | _ => true

def dispatchersAnswer : List (Operation J R D E) → World → Bool
  | [], _ => true
  | op :: ops, w => op.dispatchAnswers w && dispatchersAnswer ops (op.run w)

def SettledAt (w : World) (d : Nat) : Prop := ∃ row, w.deliveries[d]? = some row ∧ row.status ≠ .pending

variable {w : World} {d : Nat}

theorem runOps_append (pre post : List (Operation J R D E)) (w : World) :
    runOps (pre ++ post) w = runOps post (runOps pre w) := by
  induction pre generalizing w with
  | nil => rfl
  | cons op pre ih => exact ih (op.run w)

theorem split_last {α : Type} (p : α → Bool) : ∀ {l : List α}, (∃ a ∈ l, p a = true) →
    ∃ pre a post, l = pre ++ a :: post ∧ p a = true ∧ ∀ b ∈ post, p b = false
  | [], ⟨_,member,_⟩ => (List.not_mem_nil _ member).elim
  | a :: l, ⟨b,member,own⟩ => by
    by_cases later : ∃ c ∈ l, p c = true
    · obtain ⟨pre,c,post,rfl,own',rest⟩ := split_last p later
      exact ⟨a :: pre,c,post,rfl,own',rest⟩
    · have none : ∀ c ∈ l, p c = false := fun c inner => by
        simpa using fun own' => later ⟨c,inner,own'⟩
      rcases List.mem_cons.mp member with rfl | inner
      · exact ⟨[],b,l,rfl,own,none⟩
      · exact absurd ⟨b,inner,own⟩ later

theorem fairRun_split (pre : List (Operation J R D E)) (op : Operation J R D E) (post : List (Operation J R D E)) :
    ∀ w, fairRun (pre ++ op :: post) w = true → ∀ e ∈ (op.run (runOps pre w)).log.drop (runOps pre w).log.length,
      e.taskFor.isNone ∨ post.any (·.askedBy e) := by
  induction pre with
  | nil =>
    intro w fair e member
    simp only [List.nil_append, fairRun, Bool.and_eq_true, List.all_eq_true, Bool.or_eq_true] at fair
    exact fair.1 e member
  | cons op' pre ih =>
    intro w fair
    simp only [List.cons_append, fairRun, Bool.and_eq_true] at fair
    exact ih (op'.run w) fair.2

theorem dispatchersAnswer_split (pre : List (Operation J R D E)) (op : Operation J R D E)
    (post : List (Operation J R D E)) :
    ∀ w, dispatchersAnswer (pre ++ op :: post) w = true → op.dispatchAnswers (runOps pre w) = true := by
  induction pre with
  | nil =>
    intro w answering
    simp only [List.nil_append, dispatchersAnswer, Bool.and_eq_true] at answering
    exact answering.1
  | cons op' pre ih =>
    intro w answering
    simp only [List.cons_append, dispatchersAnswer, Bool.and_eq_true] at answering
    exact ih (op'.run w) answering.2

theorem Operation.task_of_askedBy {op : Operation J R D E} {e : Effect} (asked : op.askedBy e = true)
    (names : e.taskFor = some d) : (op.task d).isSome := by
  cases op with
  | sendWebhookRequestAsync request d' t =>
    cases e with
    | delay d'' =>
      simp only [Operation.askedBy, Effect.asks, Bool.and_eq_true, beq_iff_eq] at asked
      simp only [Effect.taskFor, Option.some.injEq] at names
      simp [Operation.task, ← asked.1, names]
    | retry request' d'' countdown =>
      simp only [Operation.askedBy, Effect.asks, Bool.and_eq_true, beq_iff_eq] at asked
      simp only [Effect.taskFor, Option.some.injEq] at names
      simp [Operation.task, ← asked.2, names]
    | _ => cases names
  | _ => cases asked

theorem execute_settledAt (request : TaskRequest) (d : Nat) (t : Transport) (present : d < w.deliveries.length)
    (answered : ∀ row ∈ w.deliveries[d]?, answers (dispatchResult w.nfkc w.lower row.webhook.targetUrl t) = true)
    (unsent : ∀ countdown, .retry { request with retries := request.retries + 1 } d countdown ∉
      (after (execute request d t w)).log.drop w.log.length) :
    SettledAt (after (execute request d t w)) d := by
  obtain ⟨rest,calls,oracle,run,-,-,-,-,silent⟩ := execute_writes request d t w
  have found : w.deliveries[d]? = some w.deliveries[d] := List.getElem?_eq_getElem present
  rw [run] at unsent ⊢
  simp only [List.drop_left] at unsent
  cases status : (executionWrites w.deliveries[d]? w.payloads w.nfkc w.lower request d t).status with
  | none =>
    rcases silent status with missing | ⟨countdown,sent⟩ | ⟨row,x,stored,raised,value⟩
    · rw [found] at missing
      cases missing
    · exact absurd sent (unsent countdown)
    · have caught := answered row stored
      rw [raised, answers, value] at caught
      cases caught
  | some written =>
    refine ⟨finalRow written w.deliveries[d],?_,?_⟩
    · rw [found] at status
      rw [Writes.rows_getElem?_self, found, Option.map_some', Writes.row, status]
    · rw [finalRow_status]
      exact fun pending => executionWrites_settled (status.trans (by rw [pending]))

theorem runOps_log : ∀ (ops : List (Operation J R D E)) (w : World), Integrity w →
    ∃ more, (runOps ops w).log = w.log ++ more
  | [], w, _ => ⟨[],(List.append_nil _).symm⟩
  | op :: ops, w, integrity => by
    obtain ⟨more,grown⟩ := runOps_log ops (op.run w) (op.run_integrity integrity)
    have sent : ∃ sent, (op.run w).log = w.log ++ sent := by
      rcases op.run_cases integrity with ⟨request,d,t,-,settles⟩ | ⟨-,extended,-⟩
      · obtain ⟨sent,log,-⟩ := settles.log
        exact ⟨sent,log⟩
      · obtain ⟨sent,log,-⟩ := extended.log
        exact ⟨sent,log⟩
    obtain ⟨sent,log⟩ := sent
    exact ⟨sent ++ more,by rw [runOps, grown, log, List.append_assoc]⟩

theorem runOps_sent : ∀ (ops : List (Operation J R D E)) (w : World), Integrity w →
    ∀ e ∈ (runOps ops w).log.drop w.log.length, ∃ pre op post, ops = pre ++ op :: post ∧
      e ∈ (op.run (runOps pre w)).log.drop (runOps pre w).log.length
  | [], w, _, e, member => by simp [runOps] at member
  | op :: ops, w, integrity, e, member => by
    obtain ⟨more,grown⟩ := runOps_log ops (op.run w) (op.run_integrity integrity)
    obtain ⟨sent,log⟩ := runOps_log [op] w integrity
    change (op.run w).log = w.log ++ sent at log
    change e ∈ (runOps ops (op.run w)).log.drop w.log.length at member
    rw [grown, log, List.append_assoc, List.drop_left, List.mem_append] at member
    rcases member with own | later
    · exact ⟨[],op,ops,rfl,by rwa [runOps, log, List.drop_left]⟩
    · obtain ⟨pre,op',post,split,sent'⟩ := runOps_sent ops (op.run w) (op.run_integrity integrity) e
        (by rwa [grown, List.drop_left])
      exact ⟨op :: pre,op',post,by rw [split]; rfl,sent'⟩

theorem runOps_row (ops : List (Operation J R D E)) (integrity : Integrity w) (present : d < w.deliveries.length)
    (others : ∀ op ∈ ops, (op.task d).isSome = false) : (runOps ops w).deliveries[d]? = w.deliveries[d]? := by
  have quiet : ops.filterMap (Operation.task d) = [] :=
    List.filterMap_eq_nil_iff.mpr fun op member => Option.not_isSome_iff_eq_none.mp (by simp [others op member])
  simpa [quiet, runAll] using (runOps_sees ops w w integrity present (Sees.refl d w)).row

theorem executed_settle (ops : List (Operation J R D E)) (w : World) (integrity : Integrity w) (queued : QueueOk w)
    (driven : queueDriven ops w = true) (fair : fairRun ops w = true) (answering : dispatchersAnswer ops w = true)
    (executed : ∃ op ∈ ops, (op.task d).isSome) : SettledAt (runOps ops w) d := by
  obtain ⟨pre,op,post,rfl,own,others⟩ := split_last (fun op => (op.task d).isSome) executed
  obtain ⟨request,t,rfl⟩ : ∃ request t, op = .sendWebhookRequestAsync request d t := by
    cases op with
    | sendWebhookRequestAsync request d' t =>
      by_cases same : d' = d
      · exact ⟨request,t,by rw [same]⟩
      · simp [Operation.task, same] at own
    | _ => cases own
  obtain ⟨intact,queuedPre⟩ := runOps_intact pre w integrity queued
  obtain ⟨-,e,member,asks⟩ := queueDriven_split driven
  have present := (Effect.asks_bounded (queuedPre e member) asks).1
  have answered : ∀ row ∈ (runOps pre w).deliveries[d]?, answers (dispatchResult (runOps pre w).nfkc
      (runOps pre w).lower row.webhook.targetUrl t) = true := fun row stored => by
    rw [Option.mem_def] at stored
    simpa [Operation.dispatchAnswers, stored] using dispatchersAnswer_split pre _ post w answering
  have settled := execute_settledAt request d t present answered fun countdown sent => by
    rcases fairRun_split pre _ post w fair _ sent with silent | asked
    · simp [Effect.taskFor] at silent
    · obtain ⟨op',later,asked⟩ := List.any_eq_true.mp asked
      exact absurd (Operation.task_of_askedBy asked rfl) (by simpa using others op' later)
  have executes := execute_settles request d t (runOps pre w)
  obtain ⟨row,found,pending⟩ := settled
  refine ⟨row,?_,pending⟩
  rw [runOps_append]
  exact (runOps_row post (executes.integrity intact) (by rw [executes.length]; exact present) others).trans found

theorem fair_runs_settle (ops : List (Operation J R D E)) (w : World) (integrity : Integrity w) (queued : QueueOk w)
    (driven : queueDriven ops w = true) (fair : fairRun ops w = true) (answering : dispatchersAnswer ops w = true) :
    (∀ request d t, .sendWebhookRequestAsync request d t ∈ ops → SettledAt (runOps ops w) d) ∧
      ∀ e ∈ (runOps ops w).log.drop w.log.length, ∀ d ∈ e.taskFor, SettledAt (runOps ops w) d := by
  refine ⟨fun request d t member => executed_settle ops w integrity queued driven fair answering
    ⟨_,member,by simp [Operation.task]⟩,fun e member d names => ?_⟩
  obtain ⟨pre,op,post,split,sent⟩ := runOps_sent ops w integrity e member
  subst split
  rcases fairRun_split pre op post w fair e sent with silent | asked
  · rw [names] at silent
    cases silent
  · obtain ⟨op',later,asked⟩ := List.any_eq_true.mp asked
    exact executed_settle _ w integrity queued driven fair answering
      ⟨op',by simp [later],Operation.task_of_askedBy asked names⟩

theorem fair_runs_settle_sample :
    Integrity sampleWorld ∧ QueueOk sampleWorld ∧ queueDriven queueOperations sampleWorld = true ∧
      fairRun queueOperations sampleWorld = true ∧ dispatchersAnswer queueOperations sampleWorld = true ∧
      SettledAt (runOps queueOperations sampleWorld) 1 :=
  have queued : QueueOk sampleWorld := fun _ member => nomatch member
  ⟨sampleWorld_intact,queued,by decide,by decide,by decide,
    (fair_runs_settle queueOperations sampleWorld sampleWorld_intact queued (by decide) (by decide) (by decide)).1
      ⟨"task",0⟩ 1 (answeringWith 500) (by simp [queueOperations])⟩

end SaleorWebhook
