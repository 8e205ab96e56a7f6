import SaleorWebhook.SyncLoop

namespace SaleorWebhook

-- The request of initialize_request and the EventPayload of generate_payload, which the webhooks of the loop share.

def Effect.context : Effect → Bool
  | .initializeRequest _ | .render .. | .generatePayload | .createPayload .. | .createDelivery .. => true
  | _ => false

variable {J R D : Type} {loads : String → Except Exn J} {renderer : Renderer D} {eventType generatePayload : String}
  {parse : Option J → Option R} {webhook : Webhook} {webhooks : List Webhook} {requestContext eventPayload : Option Nat}
  {w : World} {d : Nat} {delivery : EventDelivery}

theorem sendWebhookRequestSync_frame (loads : String → Except Exn J) (delivery : EventDelivery)
    (present : d < w.deliveries.length) :
    ∃ seg, (after (sendWebhookRequestSync loads d delivery w)).log = w.log ++ seg ∧
      (after (sendWebhookRequestSync loads d delivery w)).payloads = w.payloads ∧ (∀ e ∈ seg, e.context = false) ∧
      ∀ data w', sendWebhookRequestSync loads d delivery w = .ok data w' →
        seg.filterMap Effect.posted = [delivery.webhook.targetUrl] := by
  cases payload : delivery.payload.bind (w.payloads[·]?) with
  | none =>
    have raised : sendWebhookRequestSync loads d delivery w =
        .error (.attributeError "\x27NoneType\x27 object has no attribute \x27payload\x27") w := by
      simp only [sendWebhookRequestSync, bind_apply, payloadRow_apply, payload, throw_apply]
    exact ⟨[],by simp [raised],by simp [raised],by simp,fun data w' sent => by simp [raised] at sent⟩
  | some row =>
    cases parsed : urlparse w.nfkc delivery.webhook.targetUrl with
    | error e =>
      have raised : sendWebhookRequestSync loads d delivery w = .error e w := by
        simp only [sendWebhookRequestSync, bind_apply, payloadRow_apply, payload, parseUrl, parsed]
      exact ⟨[],by simp [raised],by simp [raised],by simp,fun data w' sent => by simp [raised] at sent⟩
    | ok parts =>
      by_cases http : asciiLower parts.scheme ∈ [WebhookSchemes.http.value, WebhookSchemes.https.value]
      · rw [sendWebhookRequestSync_http loads present payload parsed http]
        cases result : syncResponse loads (w.transport w.calls).post with
        | error e =>
          refine ⟨[.createAttempt w.attempts.length { delivery := d, taskId := none },
            .post delivery.webhook.targetUrl row.payload delivery.eventType w.domain
              (w.signatureForPayload row.payload delivery.webhook.secretKey)],by simp,rfl,
            by simp [Effect.context],fun data w' sent => by simp at sent⟩
        | ok pair =>
          obtain ⟨answered,data⟩ := pair
          refine ⟨[.createAttempt w.attempts.length { delivery := d, taskId := none },
            .post delivery.webhook.targetUrl row.payload delivery.eventType w.domain
              (w.signatureForPayload row.payload delivery.webhook.secretKey),
            .updateAttempt w.attempts.length answered, .updateDelivery d answered.status,
            .report w.attempts.length none] ++ if answered.status = .success then [.clearDelivery d] else [],
            by simp only [after_ok, List.append_assoc]; rfl,rfl,?_,fun data w' _ => ?_⟩
          · split <;> simp [Effect.context]
          · split <;> simp [Effect.posted]
      · rw [sendWebhookRequestSync_unknown loads payload parsed http]
        exact ⟨[.updateDelivery d .failed],by simp,rfl,by simp [Effect.context],fun data w' sent => by simp at sent⟩

def TurnRequest (webhook : Webhook) (requestContext requestContext' : Option Nat) (seg : List Effect) : Prop :=
  if webhook.hasSubscription then
    ∃ request, requestContext' = some request ∧ (∀ rendered r, .render rendered r ∈ seg → r = request) ∧
      match requestContext with
      | some shared => request = shared ∧ seg.countP Effect.isInitialize = 0
      | none => ∃ rest, seg = .initializeRequest request :: rest ∧ rest.countP Effect.isInitialize = 0
  else requestContext' = requestContext ∧ seg.countP Effect.isInitialize = 0 ∧ ∀ rendered r, .render rendered r ∉ seg

def TurnPayload (generatePayload : String) (webhook : Webhook) (eventPayload eventPayload' : Option Nat)
    (seg : List Effect) : Prop :=
  if webhook.hasSubscription then eventPayload' = eventPayload ∧ seg.count .generatePayload = 0
  else
    ∃ payload, eventPayload' = some payload ∧ (∀ delivery ∈ seg.filterMap Effect.created, delivery.payload = some payload) ∧
      match eventPayload with
      | some shared => payload = shared ∧ seg.count .generatePayload = 0
      | none => ∃ rest, seg = .generatePayload :: .createPayload payload ⟨generatePayload⟩ :: rest ∧
          rest.count .generatePayload = 0

structure Turn (generatePayload : String) (webhook : Webhook)
    (requestContext requestContext' eventPayload eventPayload' : Option Nat) (seg : List Effect) : Prop where
  request : TurnRequest webhook requestContext requestContext' seg
  payload : TurnPayload generatePayload webhook eventPayload eventPayload' seg
  made : (seg.filterMap Effect.created).map (·.webhook) <+: [webhook]

def Reached (stop : Effect → Bool) (webhooks : List Webhook) (new : List Effect) : Prop :=
  ((new.takeWhile fun e => !stop e).filterMap Effect.created).map (·.webhook) = webhooks ∧
    (new.takeWhile fun e => !stop e).filterMap Effect.posted = webhooks.map (·.targetUrl)

-- With no request shared yet: one call at most, made once the webhooks before the first subscription webhook are done.
def LazyRequest (webhooks : List Webhook) : Option Nat → List Effect → Prop
  | some shared, new => new.countP Effect.isInitialize = 0 ∧ ∀ rendered r, .render rendered r ∈ new → r = shared
  | none, new => new.countP Effect.isInitialize ≤ 1 ∧
      (∃ request, ∀ rendered r, .render rendered r ∈ new → r = request ∧ .initializeRequest request ∈ new) ∧
      (new.any Effect.isInitialize → Reached Effect.isInitialize (webhooks.takeWhile (!·.hasSubscription)) new) ∧
      (new.any Effect.isInitialize = false →
        (new.filterMap Effect.created).map (·.webhook) <+: webhooks.takeWhile (!·.hasSubscription))

def LazyPayload (generatePayload : String) (webhooks : List Webhook) : Option Nat → List Effect → Prop
  | some shared, new => new.count .generatePayload = 0 ∧
      ∀ delivery ∈ new.filterMap Effect.created, delivery.webhook.hasSubscription = false →
        delivery.payload = some shared
  | none, new => new.count .generatePayload ≤ 1 ∧
      (∃ payload, ∀ delivery ∈ new.filterMap Effect.created, delivery.webhook.hasSubscription = false →
        delivery.payload = some payload ∧ [.generatePayload, .createPayload payload ⟨generatePayload⟩] <:+: new) ∧
      (.generatePayload ∈ new →
        Reached (fun e => decide (e = .generatePayload)) (webhooks.takeWhile (·.hasSubscription)) new) ∧
      (.generatePayload ∉ new →
        (new.filterMap Effect.created).map (·.webhook) <+: webhooks.takeWhile (·.hasSubscription))

theorem lazyRequest_nil (webhooks : List Webhook) : ∀ requestContext, LazyRequest webhooks requestContext []
  | some _ => by simp [LazyRequest]
  | none => by simp [LazyRequest]

theorem lazyPayload_nil (webhooks : List Webhook) : ∀ eventPayload, LazyPayload generatePayload webhooks eventPayload []
  | some _ => by simp [LazyPayload]
  | none => by simp [LazyPayload]

variable {seg rest : List Effect} {earlier : List Webhook}

theorem reached_cons {stop : Effect → Bool} (clear : ∀ e ∈ seg, (!stop e) = true)
    (completed : (seg.filterMap Effect.created).map (·.webhook) = [webhook] ∧
      seg.filterMap Effect.posted = [webhook.targetUrl])
    (tail : Reached stop earlier rest) : Reached stop (webhook :: earlier) (seg ++ rest) := by
  obtain ⟨created,posted⟩ := completed
  obtain ⟨createdRest,postedRest⟩ := tail
  simp only [Reached, List.takeWhile_append_of_pos clear, List.filterMap_append, List.map_append, created, posted,
    createdRest, postedRest]
  simp

theorem created_prefix_cons (made : (seg.filterMap Effect.created).map (·.webhook) <+: [webhook])
    (completed : rest ≠ [] → (seg.filterMap Effect.created).map (·.webhook) = [webhook])
    (tail : (rest.filterMap Effect.created).map (·.webhook) <+: earlier) :
    ((seg ++ rest).filterMap Effect.created).map (·.webhook) <+: webhook :: earlier := by
  by_cases ended : rest = []
  · subst ended
    simpa using made.trans (List.cons_prefix_cons.mpr ⟨rfl,List.nil_prefix⟩)
  · rw [List.filterMap_append, List.map_append, completed ended]
    exact List.cons_prefix_cons.mpr ⟨rfl,tail⟩

variable {requestContext' eventPayload' : Option Nat}

theorem lazyRequest_cons (turn : Turn generatePayload webhook requestContext requestContext' eventPayload eventPayload' seg)
    (tail : LazyRequest webhooks requestContext' rest)
    (completed : rest ≠ [] → (seg.filterMap Effect.created).map (·.webhook) = [webhook] ∧
      seg.filterMap Effect.posted = [webhook.targetUrl]) :
    LazyRequest (webhook :: webhooks) requestContext (seg ++ rest) := by
  have request := turn.request
  unfold TurnRequest at request
  cases subscription : webhook.hasSubscription <;>
    simp only [subscription, if_true, Bool.false_eq_true, if_false] at request
  · obtain ⟨same,quiet,unrendered⟩ := request
    rw [same] at tail
    have inRest : ∀ rendered r, .render rendered r ∈ seg ++ rest → .render rendered r ∈ rest := fun rendered r member =>
      (List.mem_append.mp member).resolve_left (unrendered rendered r)
    have noInit : ∀ e ∈ seg, (!e.isInitialize) = true := by simpa using List.countP_eq_zero.mp quiet
    have quietSeg : seg.any Effect.isInitialize = false := by simpa using noInit
    cases requestContext with
    | some shared =>
      obtain ⟨none',shared'⟩ := tail
      exact ⟨by simp [quiet, none'],fun rendered r member => shared' rendered r (inRest rendered r member)⟩
    | none =>
      obtain ⟨once,⟨shared,asked⟩,reached,unreached⟩ := tail
      have fixed : webhook :: webhooks.takeWhile (!·.hasSubscription) =
          (webhook :: webhooks).takeWhile (!·.hasSubscription) := by simp [subscription]
      refine ⟨by simp [quiet, once],⟨shared,fun rendered r member => ?_⟩,fun any => ?_,fun none' => ?_⟩
      · obtain ⟨same,initial⟩ := asked rendered r (inRest rendered r member)
        exact ⟨same,List.mem_append_right _ initial⟩
      · have later : rest.any Effect.isInitialize := by simpa [quietSeg] using any
        exact fixed ▸ reached_cons noInit (completed fun empty => by simp [empty] at later) (reached later)
      · have never : rest.any Effect.isInitialize = false := by simpa [quietSeg] using none'
        exact fixed ▸ created_prefix_cons turn.made (fun nonempty => (completed nonempty).1) (unreached never)
  · obtain ⟨request,same,renders,start⟩ := request
    rw [same] at tail
    obtain ⟨none',shared'⟩ := tail
    have rendersAll : ∀ rendered r, .render rendered r ∈ seg ++ rest → r = request := fun rendered r member => by
      rcases List.mem_append.mp member with member | member
      · exact renders rendered r member
      · exact shared' rendered r member
    cases requestContext with
    | some shared =>
      obtain ⟨rfl,quiet⟩ := start
      exact ⟨by simp [quiet, none'],rendersAll⟩
    | none =>
      obtain ⟨first,rfl,quiet⟩ := start
      refine ⟨by simp [Effect.isInitialize, quiet, none'],⟨request,fun rendered r member => ⟨rendersAll rendered r member,
        by simp⟩⟩,fun _ => by simp [Reached, Effect.isInitialize, subscription],fun never => by simp [Effect.isInitialize] at never⟩

theorem lazyPayload_cons (turn : Turn generatePayload webhook requestContext requestContext' eventPayload eventPayload' seg)
    (tail : LazyPayload generatePayload webhooks eventPayload' rest)
    (completed : rest ≠ [] → (seg.filterMap Effect.created).map (·.webhook) = [webhook] ∧
      seg.filterMap Effect.posted = [webhook.targetUrl]) :
    LazyPayload generatePayload (webhook :: webhooks) eventPayload (seg ++ rest) := by
  have payload := turn.payload
  unfold TurnPayload at payload
  cases subscription : webhook.hasSubscription <;>
    simp only [subscription, if_true, Bool.false_eq_true, if_false] at payload
  · obtain ⟨payload,same,made,start⟩ := payload
    rw [same] at tail
    obtain ⟨none',shared'⟩ := tail
    have madeAll : ∀ delivery ∈ (seg ++ rest).filterMap Effect.created, delivery.webhook.hasSubscription = false →
        delivery.payload = some payload := fun delivery member fixed => by
      rw [List.filterMap_append, List.mem_append] at member
      rcases member with member | member
      · exact made delivery member
      · exact shared' delivery member fixed
    cases eventPayload with
    | some shared =>
      obtain ⟨rfl,quiet⟩ := start
      exact ⟨by simp [quiet, none'],madeAll⟩
    | none =>
      obtain ⟨first,rfl,quiet⟩ := start
      refine ⟨by simp [quiet, none'],⟨payload,fun delivery member fixed => ⟨madeAll delivery member fixed,[],
        first ++ rest,by simp⟩⟩,fun _ => by simp [Reached, subscription],fun never => by simp at never⟩
  · obtain ⟨same,quiet⟩ := payload
    rw [same] at tail
    have ofWebhook : ∀ delivery ∈ seg.filterMap Effect.created, delivery.webhook = webhook := fun delivery member =>
      List.mem_singleton.mp (turn.made.subset (List.mem_map_of_mem _ member))
    have inRest : ∀ delivery ∈ (seg ++ rest).filterMap Effect.created, delivery.webhook.hasSubscription = false →
        delivery ∈ rest.filterMap Effect.created := fun delivery member fixed => by
      rw [List.filterMap_append, List.mem_append] at member
      rcases member with member | member
      · simp [ofWebhook delivery member, subscription] at fixed
      · exact member
    have noGenerate : ∀ e ∈ seg, (!decide (e = .generatePayload)) = true := fun e member => by
      simpa using fun (same : e = .generatePayload) => (List.count_eq_zero.mp quiet) (same ▸ member)
    cases eventPayload with
    | some shared =>
      obtain ⟨none',shared'⟩ := tail
      exact ⟨by simp [quiet, none'],fun delivery member fixed => shared' delivery (inRest delivery member fixed) fixed⟩
    | none =>
      obtain ⟨once,⟨shared,built⟩,reached,unreached⟩ := tail
      have subscribed : webhook :: webhooks.takeWhile (·.hasSubscription) =
          (webhook :: webhooks).takeWhile (·.hasSubscription) := by simp [subscription]
      refine ⟨by simp [quiet, once],⟨shared,fun delivery member fixed => ?_⟩,fun generated => ?_,fun never => ?_⟩
      · obtain ⟨row,within⟩ := built delivery (inRest delivery member fixed) fixed
        exact ⟨row,within.trans (List.suffix_append seg rest).isInfix⟩
      · have later : Effect.generatePayload ∈ rest :=
          (List.mem_append.mp generated).resolve_left (List.count_eq_zero.mp quiet)
        exact subscribed ▸ reached_cons noGenerate (completed (List.ne_nil_of_mem later)) (reached later)
      · exact subscribed ▸ created_prefix_cons turn.made (fun nonempty => (completed nonempty).1)
          (unreached fun member => never (List.mem_append_right _ member))

theorem Effect.quiet_of_context {e : Effect} (quiet : e.context = false) :
    e.isInitialize = false ∧ e ≠ .generatePayload ∧ e.created = none ∧ ∀ rendered r, e ≠ .render rendered r := by
  cases e <;> first | (cases quiet; done) | exact ⟨rfl,nofun,rfl,fun _ _ => nofun⟩

theorem created_of_quiet {more : List Effect} (quiet : ∀ e ∈ more, e.context = false) :
    more.filterMap Effect.created = [] :=
  List.filterMap_eq_nil_iff.mpr fun e member => (Effect.quiet_of_context (quiet e member)).2.2.1

theorem Turn.append {more : List Effect}
    (turn : Turn generatePayload webhook requestContext requestContext' eventPayload eventPayload' seg)
    (quiet : ∀ e ∈ more, e.context = false) :
    Turn generatePayload webhook requestContext requestContext' eventPayload eventPayload' (seg ++ more) := by
  have noInit : more.countP Effect.isInitialize = 0 := List.countP_eq_zero.mpr fun e member => by
    simp [(Effect.quiet_of_context (quiet e member)).1]
  have noGenerate : more.count .generatePayload = 0 :=
    List.count_eq_zero.mpr fun member => (Effect.quiet_of_context (quiet _ member)).2.1 rfl
  have noDelivery := created_of_quiet quiet
  have noRender : ∀ rendered r, .render rendered r ∉ more := fun rendered r member =>
    (Effect.quiet_of_context (quiet _ member)).2.2.2 rendered r rfl
  obtain ⟨request,payload,made⟩ := turn
  refine ⟨?_,?_,by simpa [noDelivery] using made⟩
  · unfold TurnRequest at request ⊢
    cases subscription : webhook.hasSubscription <;>
      simp only [subscription, if_true, Bool.false_eq_true, if_false] at request ⊢
    · obtain ⟨same,quiet',unrendered⟩ := request
      exact ⟨same,by simp [quiet', noInit],by simp [unrendered, noRender]⟩
    · obtain ⟨request,same,renders,start⟩ := request
      refine ⟨request,same,fun rendered r member => ?_,?_⟩
      · exact renders rendered r ((List.mem_append.mp member).resolve_right (noRender rendered r))
      · cases requestContext with
        | some shared => exact ⟨start.1,by simp [start.2, noInit]⟩
        | none =>
          obtain ⟨first,rfl,quiet'⟩ := start
          exact ⟨first ++ more,rfl,by simp [quiet', noInit]⟩
  · unfold TurnPayload at payload ⊢
    cases subscription : webhook.hasSubscription <;>
      simp only [subscription, if_true, Bool.false_eq_true, if_false] at payload ⊢
    · obtain ⟨payload,same,made,start⟩ := payload
      refine ⟨payload,same,by simpa [noDelivery] using made,?_⟩
      cases eventPayload with
      | some shared => exact ⟨start.1,by simp [start.2, noGenerate]⟩
      | none =>
        obtain ⟨first,rfl,quiet'⟩ := start
        exact ⟨first ++ more,rfl,by simp [quiet', noGenerate]⟩
    · exact ⟨payload.1,by simp [payload.2, noGenerate]⟩

theorem turn_fixed (generatePayload eventType : String) (requestContext eventPayload : Option Nat)
    (fixed : webhook.hasSubscription = false) (p d : Nat) :
    Turn generatePayload webhook requestContext requestContext eventPayload (some (eventPayload.getD p))
      (payloadLog generatePayload eventPayload p ++
        [.createDelivery d ⟨.pending,eventType,some (eventPayload.getD p),webhook⟩]) := by
  cases eventPayload <;>
    exact ⟨by simp [TurnRequest, fixed, payloadLog, Effect.isInitialize],
      by simp [TurnPayload, fixed, payloadLog, Effect.created], by simp [payloadLog, Effect.created]⟩

theorem turn_subscription (generatePayload : String) (requestContext eventPayload : Option Nat) (tail : List Effect)
    (subscription : webhook.hasSubscription = true) (n : Nat)
    (quiet : tail.countP Effect.isInitialize = 0) (renders : ∀ rendered r, .render rendered r ∈ tail →
      r = requestContext.getD n) (noGenerate : tail.count .generatePayload = 0)
    (made : (tail.filterMap Effect.created).map (·.webhook) <+: [webhook]) :
    Turn generatePayload webhook requestContext (some (requestContext.getD n)) eventPayload eventPayload
      (askLog requestContext n ++ tail) := by
  cases requestContext <;>
    exact ⟨by simpa [TurnRequest, subscription, askLog] using And.intro renders (List.countP_eq_zero.mp quiet),
      by simp [TurnPayload, subscription, askLog, noGenerate], by simpa [askLog, Effect.created] using made⟩

theorem syncDelivery_turn (renderer : Renderer D) (eventType generatePayload : String) (webhook : Webhook)
    (requestContext eventPayload : Option Nat) (w : World) :
    ∃ seg requestContext' eventPayload',
      (after (syncDelivery renderer eventType generatePayload webhook requestContext eventPayload w)).log =
        w.log ++ seg ∧
      Turn generatePayload webhook requestContext requestContext' eventPayload eventPayload' seg ∧
      ∀ d delivery rc ep w1, syncDelivery renderer eventType generatePayload webhook requestContext eventPayload w =
          .ok (some (d, delivery), rc, ep) w1 →
        rc = requestContext' ∧ ep = eventPayload' ∧ d < w1.deliveries.length ∧
          seg.filterMap Effect.created = [delivery] ∧ seg.filterMap Effect.posted = [] := by
  cases subscription : webhook.hasSubscription
  · rw [syncDelivery_fixed subscription]
    refine ⟨_,_,_,by simp,turn_fixed generatePayload eventType requestContext eventPayload subscription
      w.payloads.length w.deliveries.length,?_⟩
    rintro d delivery rc ep w1 ⟨⟩
    simp [Effect.created, Effect.posted]
  · rw [syncDelivery_subscription subscription]
    cases subscribable : renderer.subscribable
    · refine ⟨_,_,_,?_,turn_subscription generatePayload requestContext eventPayload [] subscription w.log.length
        (by simp) (by simp) (by simp) (by simp),?_⟩
      · simp [subscribable]
      · intro d delivery rc ep w1 run
        simp [subscribable] at run
    · cases generated : renderer.generate webhook (requestContext.getD w.log.length) with
      | none =>
        refine ⟨_,_,_,?_,turn_subscription generatePayload requestContext eventPayload
          [.render webhook (requestContext.getD w.log.length)]
          subscription w.log.length (by simp [Effect.isInitialize]) (by simp) (by simp) (by simp [Effect.created]),?_⟩
        · simp [subscribable, generated]
        · intro d delivery rc ep w1 run
          simp [subscribable, generated] at run
      | some data =>
        refine ⟨_,_,_,?_,turn_subscription generatePayload requestContext eventPayload
          [.render webhook (requestContext.getD w.log.length), .createPayload w.payloads.length ⟨renderer.dumps data⟩,
            .createDelivery w.deliveries.length ⟨.pending,eventType,some w.payloads.length,webhook⟩]
          subscription w.log.length (by simp [Effect.isInitialize]) (by simp) (by simp) (by simp [Effect.created]),?_⟩
        · simp [subscribable, generated]
        · intro d delivery rc ep w1 run
          simp only [subscribable, generated, if_true, EStateM.Result.ok.injEq, Prod.mk.injEq,
            Option.some.injEq] at run
          obtain ⟨⟨⟨rfl,rfl⟩,rfl,rfl⟩,rfl⟩ := run
          simp [Effect.created, Effect.posted]

theorem triggerAllWebhooksSyncFrom_lazy : ∀ (webhooks : List Webhook) requestContext eventPayload (w : World),
    ∃ new, (after (triggerAllWebhooksSyncFrom loads renderer eventType generatePayload parse webhooks requestContext
      eventPayload w)).log = w.log ++ new ∧
      LazyRequest webhooks requestContext new ∧ LazyPayload generatePayload webhooks eventPayload new
  | [], requestContext, eventPayload, w =>
    ⟨[],by simp [triggerAllWebhooksSyncFrom, pure_apply],lazyRequest_nil _ _,lazyPayload_nil _ _⟩
  | webhook :: webhooks, requestContext, eventPayload, w => by
    obtain ⟨seg,requestContext',eventPayload',log,turn,made⟩ := syncDelivery_turn renderer eventType
      generatePayload webhook requestContext eventPayload w
    have ended : ∀ more, (∀ e ∈ more, e.context = false) →
        LazyRequest (webhook :: webhooks) requestContext (seg ++ more) ∧
        LazyPayload generatePayload (webhook :: webhooks) eventPayload (seg ++ more) := fun more quiet => by
      simpa using And.intro (lazyRequest_cons (turn.append quiet) (lazyRequest_nil webhooks _) (absurd rfl))
        (lazyPayload_cons (turn.append quiet) (lazyPayload_nil webhooks _) (absurd rfl))
    rw [triggerAllWebhooksSyncFrom_cons]
    rcases run : syncDelivery renderer eventType generatePayload webhook requestContext eventPayload w with
      ⟨⟨_ | ⟨d,delivery⟩,rc,ep⟩,w1⟩ | ⟨e,w1⟩ <;> dsimp only
    · rw [run, after_ok] at log
      exact ⟨seg,log,by simpa using ended [] (by simp)⟩
    · obtain ⟨rfl,rfl,present,created,posted⟩ := made d delivery rc ep w1 run
      rw [run, after_ok] at log
      obtain ⟨sent,sentLog,-,quiet,answered⟩ := sendWebhookRequestSync_frame loads delivery present
      have grown : ∀ w2 : World, w2.log = w1.log ++ sent → w2.log = w.log ++ (seg ++ sent) := fun w2 same => by simp [same, log]
      rcases send : sendWebhookRequestSync loads d delivery w1 with ⟨data,w2⟩ | ⟨e,w2⟩ <;> dsimp only
      · rw [send, after_ok] at sentLog
        have ofWebhook : delivery.webhook = webhook := by simpa [created] using turn.made
        have completed : ((seg ++ sent).filterMap Effect.created).map (·.webhook) = [webhook] ∧
            (seg ++ sent).filterMap Effect.posted = [webhook.targetUrl] := by
          simp [created, created_of_quiet quiet, ofWebhook, posted, answered data w2 send]
        cases parse data with
        | some parsed => exact ⟨seg ++ sent,grown w2 sentLog,ended sent quiet⟩
        | none =>
          dsimp only
          obtain ⟨new,newLog,request,payload⟩ := triggerAllWebhooksSyncFrom_lazy webhooks rc ep w2
          refine ⟨seg ++ sent ++ new,by simp [newLog, grown w2 sentLog],?_,?_⟩
          · exact lazyRequest_cons (turn.append quiet) request fun _ => completed
          · exact lazyPayload_cons (turn.append quiet) payload fun _ => completed
      · rw [send, after_error] at sentLog
        exact ⟨seg ++ sent,grown w2 sentLog,ended sent quiet⟩
    · rw [run, after_error] at log
      exact ⟨seg,log,by simpa using ended [] (by simp)⟩

theorem triggerAllWebhooksSyncFrom_fixed_append (later : List Webhook) :
    ∀ (fixed : List Webhook), (∀ webhook ∈ fixed, webhook.hasSubscription = false) →
      ∀ requestContext eventPayload (w : World),
        triggerAllWebhooksSyncFrom loads renderer eventType generatePayload parse (fixed ++ later) requestContext
            eventPayload w =
          match triggerAllWebhooksSyncFrom loads renderer eventType generatePayload parse fixed requestContext
              eventPayload w with
          | .ok none w1 => triggerAllWebhooksSyncFrom loads renderer eventType generatePayload parse later requestContext
              (if fixed = [] then eventPayload else some (eventPayload.getD w.payloads.length)) w1
          | result => result
  | [], _, requestContext, eventPayload, w => by simp [triggerAllWebhooksSyncFrom, pure_apply]
  | webhook :: fixed, allFixed, requestContext, eventPayload, w => by
    have first := allFixed webhook (List.mem_cons_self _ _)
    simp only [List.cons_append, triggerAllWebhooksSyncFrom_cons, syncDelivery_fixed first]
    rcases sendWebhookRequestSync loads w.deliveries.length _ _ with ⟨data,w2⟩ | ⟨e,w2⟩
    · dsimp only
      cases parse data with
      | some parsed => rfl
      | none =>
        simpa using triggerAllWebhooksSyncFrom_fixed_append later fixed
          (fun other member => allFixed other (List.mem_cons_of_mem _ member)) requestContext
          (some (eventPayload.getD w.payloads.length)) w2
    · rfl

-- The event must be subscribable, or the loop returns at its first subscription webhook.
theorem triggerAllWebhooksSyncFrom_subscribed_append (later : List Webhook) :
    ∀ (subs : List Webhook), (∀ webhook ∈ subs, webhook.hasSubscription = true) →
      renderer.subscribable = true ∨ subs = [] → ∀ requestContext eventPayload (w : World),
        triggerAllWebhooksSyncFrom loads renderer eventType generatePayload parse (subs ++ later) requestContext
            eventPayload w =
          match triggerAllWebhooksSyncFrom loads renderer eventType generatePayload parse subs requestContext
              eventPayload w with
          | .ok none w1 => triggerAllWebhooksSyncFrom loads renderer eventType generatePayload parse later
              (if subs = [] then requestContext else some (requestContext.getD w.log.length)) eventPayload w1
          | result => result
  | [], _, _, requestContext, eventPayload, w => by simp [triggerAllWebhooksSyncFrom, pure_apply]
  | webhook :: subs, allSubscribed, subscribable, requestContext, eventPayload, w => by
    have first := allSubscribed webhook (List.mem_cons_self _ _)
    have subscribable : renderer.subscribable = true := subscribable.resolve_right nofun
    simp only [List.cons_append, triggerAllWebhooksSyncFrom_cons, syncDelivery_subscription first, subscribable,
      if_true]
    cases renderer.generate webhook (requestContext.getD w.log.length) with
    | none => rfl
    | some data =>
      dsimp only
      rcases sendWebhookRequestSync loads w.deliveries.length _ _ with ⟨data,w2⟩ | ⟨e,w2⟩
      · dsimp only
        cases parse data with
        | some parsed => rfl
        | none =>
          simpa using triggerAllWebhooksSyncFrom_subscribed_append later subs
            (fun other member => allSubscribed other (List.mem_cons_of_mem _ member)) (.inl subscribable)
            (some (requestContext.getD w.log.length)) eventPayload w2
      · rfl

theorem triggerAllWebhooksSyncFrom_log_cons (loads : String → Except Exn J) (renderer : Renderer D)
    (eventType generatePayload : String) (parse : Option J → Option R) (webhook : Webhook) (webhooks : List Webhook)
    (requestContext eventPayload : Option Nat) (w : World) :
    ∃ more, (after (triggerAllWebhooksSyncFrom loads renderer eventType generatePayload parse (webhook :: webhooks)
      requestContext eventPayload w)).log =
        (after (syncDelivery renderer eventType generatePayload webhook requestContext eventPayload w)).log ++ more := by
  obtain ⟨_,_,_,-,-,made⟩ := syncDelivery_turn renderer eventType generatePayload webhook requestContext eventPayload w
  rw [triggerAllWebhooksSyncFrom_cons]
  rcases run : syncDelivery renderer eventType generatePayload webhook requestContext eventPayload w with
    ⟨⟨_ | ⟨d,delivery⟩,rc,ep⟩,w1⟩ | ⟨e,w1⟩ <;> dsimp only
  · exact ⟨[],by simp⟩
  · obtain ⟨-,-,present,-⟩ := made d delivery rc ep w1 run
    obtain ⟨sent,sentLog,-⟩ := sendWebhookRequestSync_frame loads delivery present
    rcases send : sendWebhookRequestSync loads d delivery w1 with ⟨data,w2⟩ | ⟨e,w2⟩ <;> dsimp only <;>
      rw [send] at sentLog <;> simp only [after_ok, after_error] at sentLog
    · cases parse data with
      | some parsed => exact ⟨sent,by simpa using sentLog⟩
      | none =>
        obtain ⟨new,newLog,-⟩ := @triggerAllWebhooksSyncFrom_lazy _ _ _ loads renderer eventType generatePayload parse
          webhooks rc ep w2
        exact ⟨sent ++ new,by simp [newLog, sentLog]⟩
    · exact ⟨sent,by simpa using sentLog⟩
  · exact ⟨[],by simp⟩

theorem syncDelivery_log_initialize (renderer : Renderer D) (eventType generatePayload : String)
    (eventPayload : Option Nat) (w : World) (subscription : webhook.hasSubscription = true) :
    ∃ more, (after (syncDelivery renderer eventType generatePayload webhook none eventPayload w)).log =
      w.log ++ .initializeRequest w.log.length :: more := by
  rw [syncDelivery_subscription subscription]
  cases renderer.subscribable
  · simp [askLog]
  · cases generated : renderer.generate webhook w.log.length <;> simp [askLog, generated]

theorem syncDelivery_log_generate (renderer : Renderer D) (eventType generatePayload : String)
    (requestContext : Option Nat) (w : World) (fixed : webhook.hasSubscription = false) :
    ∃ more, (after (syncDelivery renderer eventType generatePayload webhook requestContext none w)).log =
      w.log ++ .generatePayload :: .createPayload w.payloads.length ⟨generatePayload⟩ :: more := by
  simp [syncDelivery_fixed fixed, payloadLog]

theorem trigger_all_webhooks_sync_lazy_context (loads : String → Except Exn J) (renderer : Renderer D)
    (eventType generatePayload : String) (parse : Option J → Option R) (webhooks : List Webhook) (w : World) :
    (∃ new, (after (triggerAllWebhooksSync loads renderer eventType generatePayload parse webhooks w)).log =
        w.log ++ new ∧
      (new.countP Effect.isInitialize ≤ 1 ∧
        (∃ request, ∀ rendered r, .render rendered r ∈ new → r = request ∧ .initializeRequest request ∈ new) ∧
        (new.any Effect.isInitialize → Reached Effect.isInitialize (webhooks.takeWhile (!·.hasSubscription)) new) ∧
        (new.any Effect.isInitialize = false →
          (new.filterMap Effect.created).map (·.webhook) <+: webhooks.takeWhile (!·.hasSubscription))) ∧
      (new.count .generatePayload ≤ 1 ∧
        (∃ payload, ∀ delivery ∈ new.filterMap Effect.created, delivery.webhook.hasSubscription = false →
          delivery.payload = some payload ∧ [.generatePayload, .createPayload payload ⟨generatePayload⟩] <:+: new) ∧
        (.generatePayload ∈ new →
          Reached (fun e => decide (e = .generatePayload)) (webhooks.takeWhile (·.hasSubscription)) new) ∧
        (.generatePayload ∉ new →
          (new.filterMap Effect.created).map (·.webhook) <+: webhooks.takeWhile (·.hasSubscription)))) ∧
    (∀ fixed first rest, webhooks = fixed ++ first :: rest → (∀ webhook ∈ fixed, webhook.hasSubscription = false) →
      first.hasSubscription = true → ∀ w1,
        triggerAllWebhooksSync loads renderer eventType generatePayload parse fixed w = .ok none w1 →
        ∃ more, (after (triggerAllWebhooksSync loads renderer eventType generatePayload parse webhooks w)).log =
          w1.log ++ .initializeRequest w1.log.length :: more) ∧
    (∀ subs first rest, webhooks = subs ++ first :: rest → (∀ webhook ∈ subs, webhook.hasSubscription = true) →
      first.hasSubscription = false → renderer.subscribable = true ∨ subs = [] → ∀ w1,
        triggerAllWebhooksSync loads renderer eventType generatePayload parse subs w = .ok none w1 →
        ∃ more, (after (triggerAllWebhooksSync loads renderer eventType generatePayload parse webhooks w)).log =
          w1.log ++ .generatePayload :: .createPayload w1.payloads.length ⟨generatePayload⟩ :: more) := by
  refine ⟨triggerAllWebhooksSyncFrom_lazy webhooks none none w,?_,?_⟩
  · rintro fixed first rest rfl allFixed subscription w1 ran
    obtain ⟨turn,turnLog⟩ := syncDelivery_log_initialize renderer eventType generatePayload
      (if fixed = [] then none else some w.payloads.length) w1 subscription
    obtain ⟨more,moreLog⟩ := triggerAllWebhooksSyncFrom_log_cons loads renderer eventType generatePayload
      parse first rest none (if fixed = [] then none else some w.payloads.length) w1
    refine ⟨turn ++ more,?_⟩
    unfold triggerAllWebhooksSync at ran ⊢
    rw [triggerAllWebhooksSyncFrom_fixed_append _ fixed allFixed, ran]
    simpa [turnLog] using moreLog
  · rintro subs first rest rfl allSubscribed fixed subscribable w1 ran
    obtain ⟨turn,turnLog⟩ := syncDelivery_log_generate renderer eventType generatePayload
      (if subs = [] then none else some w.log.length) w1 fixed
    obtain ⟨more,moreLog⟩ := triggerAllWebhooksSyncFrom_log_cons loads renderer eventType generatePayload
      parse first rest (if subs = [] then none else some w.log.length) none w1
    refine ⟨turn ++ more,?_⟩
    unfold triggerAllWebhooksSync at ran ⊢
    rw [triggerAllWebhooksSyncFrom_subscribed_append _ subs allSubscribed subscribable, ran]
    simpa [turnLog] using moreLog

theorem trigger_all_webhooks_sync_lazy_context_sample :
    (∃ more, (after (triggerAllWebhooksSync (fun _ => .ok ()) sampleRenderer "order_created" "{}" id
        [subscriptionHook, sampleHook] sampleWorld)).log = sampleWorld.log ++ .initializeRequest 0 :: more) ∧
    ∃ more, (after (triggerAllWebhooksSync (fun _ => .ok ()) sampleRenderer "order_created" "{}" id
        [sampleHook, subscriptionHook] sampleWorld)).log =
      sampleWorld.log ++ .generatePayload :: .createPayload 1 ⟨"{}"⟩ :: more :=
  ⟨(trigger_all_webhooks_sync_lazy_context (fun _ => .ok ()) sampleRenderer "order_created" "{}" id
      [subscriptionHook, sampleHook] sampleWorld).2.1 [] subscriptionHook [sampleHook] rfl nofun rfl sampleWorld rfl,
    (trigger_all_webhooks_sync_lazy_context (fun _ => .ok ()) sampleRenderer "order_created" "{}" id
      [sampleHook, subscriptionHook] sampleWorld).2.2 [] sampleHook [subscriptionHook] rfl nofun rfl (.inr rfl)
        sampleWorld rfl⟩

end SaleorWebhook
