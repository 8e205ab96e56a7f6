import SaleorWebhook.Store
import SaleorWebhook.UrlParse

namespace SaleorWebhook

def parseUrl (targetUrl : String) : M ParseResult := fun w =>
  match urlparse w.nfkc targetUrl with
  | .ok parts => .ok parts w
  | .error e => .error e w

def hostnameOf (parts : ParseResult) : M (Option String) := fun w => .ok (parts.hostname w.lower) w

def signatureForPayload (message secret : String) : M String := fun w => .ok (w.signatureForPayload message secret) w

-- Each sender is one transport call: it takes the libraries' behaviour for the call and counts it.
def nextTransport : M Transport := fun w => .ok (w.transport w.calls) { w with calls := w.calls + 1 }

def liftExcept {α : Type} : Except Exn α → M α
  | .ok a => pure a
  | .error e => throw e

def splitOnChar (sep : Char) : List Char → List (List Char)
  | [] => [[]]
  | c :: rest =>
    match splitOnChar sep rest with
    | part :: parts => if c = sep then [] :: part :: parts else (c :: part) :: parts
    | [] => [[c]]

-- if e.response: a Response is truthy only when it is ok.
def httpResult : Except Exn HttpResponse → Except Exn WebhookResponse
  | .ok response => .ok {
      content := response.text
      responseHeaders := some response.headers
      responseStatusCode := some response.statusCode
      status := if response.ok then .success else .failed }
  | .error (.requestException response text) =>
    match response.filter HttpResponse.ok with
    | some response => .ok {
        content := response.text
        responseHeaders := some response.headers
        responseStatusCode := some response.statusCode
        status := .failed }
    | none => .ok { content := text, status := .failed }
  | .error e => .error e

def sendWebhookUsingHttp (targetUrl message domain signature eventType : String) : M WebhookResponse := do
  let transport ← nextTransport
  emit (.post targetUrl message eventType domain signature)
  liftExcept (httpResult transport.post)

-- The client region: the second label of a hostname of four labels whose first is sqs.
def sqsRegion (hostname : String) : String :=
  match (splitOnChar '.' hostname.toList).map String.mk with
  | ["sqs", region, _, _] => region
  | _ => "us-east-1"

def sqsResult : Except Exn String → Except Exn WebhookResponse
  | .ok response => .ok { content := response }
  | .error (.clientError text) => .ok { content := text, status := .failed }
  | .error e => .error e

def sendWebhookUsingAwsSqs (targetUrl message domain signature eventType : String) : M WebhookResponse := do
  let transport ← nextTransport
  let parts ← parseUrl targetUrl
  let some hostname ← hostnameOf parts
    | throw (.attributeError "\x27NoneType\x27 object has no attribute \x27split\x27")
  let region := sqsRegion hostname
  let (username, password) := parts.userinfo
  emit (.sqsClient region username (if password.any (!·.isEmpty) then password.map unquote else password))
  if let some e := transport.sqsClient then throw e
  let queueUrl := urlunparse "https" hostname parts.path parts.params parts.query parts.fragment
  let isFifo := ".fifo".toList.isSuffixOf parts.path.toList
  emit (.sendMessage queueUrl message eventType domain (if signature.isEmpty then none else some signature)
    (if isFifo then some domain else none))
  liftExcept (sqsResult transport.sendMessage)

-- except (MessageTooLargeError, RuntimeError) covers publish only, not the future result; RecursionError is a RuntimeError.
def publishResult (publish : Option Exn) (result : Except Exn String) : Except Exn WebhookResponse :=
  match publish with
  | some (.messageTooLarge text) | some (.runtimeError text) | some (.recursionError text) =>
    .ok { content := text, status := .failed }
  | some e => .error e
  | none =>
    match result with
    | .ok response => .ok { content := response }
    | .error e => .error e

def sendWebhookUsingGoogleCloudPubsub (targetUrl message domain signature eventType : String) :
    M WebhookResponse := do
  let transport ← nextTransport
  let parts ← parseUrl targetUrl
  emit .pubsubClient
  if let some e := transport.pubsubClient then throw e
  emit (.publish (String.mk (parts.path.toList.drop 1)) message eventType domain signature)
  liftExcept (publishResult transport.publish transport.result)

def schemeMatrix : WebhookSchemes → String → String → String → String → String → M WebhookResponse
  | .http | .https => sendWebhookUsingHttp
  | .awsSqs => sendWebhookUsingAwsSqs
  | .googleCloudPubsub => sendWebhookUsingGoogleCloudPubsub

-- data.encode("utf-8") is kept as the string itself.
def sendWebhookUsingSchemeMethod (targetUrl domain secret eventType data : String) : M WebhookResponse := do
  emit (.dispatch targetUrl data)
  let parts ← parseUrl targetUrl
  let signature ← signatureForPayload data secret
  match WebhookSchemes.ofValue? (asciiLower parts.scheme) with
  | some scheme => schemeMatrix scheme targetUrl data domain signature eventType
  | none => throw (.valueError ("Unknown webhook scheme: \x27" ++ parts.scheme ++ "\x27"))

def senderResult (scheme : WebhookSchemes) (t : Transport) (host : Option String) : Except Exn WebhookResponse :=
  match scheme with
  | .http | .https => httpResult t.post
  | .awsSqs =>
    match host, t.sqsClient with
    | none, _ => .error (.attributeError "\x27NoneType\x27 object has no attribute \x27split\x27")
    | some _, some e => .error e
    | some _, none => sqsResult t.sendMessage
  | .googleCloudPubsub =>
    match t.pubsubClient with
    | some e => .error e
    | none => publishResult t.publish t.result

def schemeResult (parts : ParseResult) (t : Transport) (host : Option String) : Except Exn WebhookResponse :=
  match WebhookSchemes.ofValue? (asciiLower parts.scheme) with
  | some scheme => senderResult scheme t host
  | none => .error (.valueError ("Unknown webhook scheme: \x27" ++ parts.scheme ++ "\x27"))

def dispatchResult (nfkc lower : String → String) (targetUrl : String) (t : Transport) : Except Exn WebhookResponse :=
  match urlparse nfkc targetUrl with
  | .ok parts => schemeResult parts t (parts.hostname lower)
  | .error e => .error e

variable {targetUrl message domain signature eventType secret data : String} {w : World} {parts : ParseResult}

@[simp] theorem liftExcept_ok {α : Type} (a : α) (w : World) : liftExcept (.ok a) w = .ok a w := rfl

@[simp] theorem liftExcept_error {α : Type} (e : Exn) (w : World) : (liftExcept (.error e) : M α) w = .error e w :=
  rfl

theorem sendWebhookUsingHttp_apply :
    sendWebhookUsingHttp targetUrl message domain signature eventType w =
      liftExcept (httpResult (w.transport w.calls).post)
        { w with calls := w.calls + 1, log := w.log ++ [.post targetUrl message eventType domain signature] } := rfl

theorem httpResult_settled {post : Except Exn HttpResponse} {response : WebhookResponse}
    (answer : httpResult post = .ok response) : response.status ≠ .pending := by
  unfold httpResult at answer
  split at answer
  · cases answer; split <;> simp
  · split at answer <;> cases answer <;> simp
  · cases answer

def Effect.transport : Effect → Bool
  | .post .. | .sqsClient .. | .sendMessage .. | .pubsubClient | .publish .. => true
  | _ => false

theorem Effect.ledger_of_transport {e : Effect} (transport : e.transport = true) : e.ledger = false := by
  cases e <;> first | rfl | cases transport

def Sent (w w' : World) : Prop :=
  ∃ sent, w' = { w with calls := w.calls + 1, log := w.log ++ sent } ∧ ∀ e ∈ sent, e.transport = true

theorem schemeMatrix_spec (scheme : WebhookSchemes) (message domain signature eventType : String)
    (parsed : urlparse w.nfkc targetUrl = .ok parts) :
    ∃ w', Sent w w' ∧ schemeMatrix scheme targetUrl message domain signature eventType w =
      liftExcept (senderResult scheme (w.transport w.calls) (parts.hostname w.lower)) w' := by
  cases scheme with
  | http | https => exact ⟨_,⟨_,rfl,by simp [Effect.transport]⟩,rfl⟩
  | awsSqs =>
    simp only [schemeMatrix, sendWebhookUsingAwsSqs, bind_apply, nextTransport, parseUrl, parsed, hostnameOf,
      senderResult]
    cases parts.hostname w.lower with
    | none => exact ⟨_,⟨[],by simp,by simp⟩,rfl⟩
    | some hostname =>
      cases (w.transport w.calls).sqsClient <;>
        simp only [bind_apply, emit_apply, throw_apply, pure_apply, List.append_assoc, List.singleton_append] <;>
        exact ⟨_,⟨_,rfl,by simp [Effect.transport]⟩,rfl⟩
  | googleCloudPubsub =>
    simp only [schemeMatrix, sendWebhookUsingGoogleCloudPubsub, bind_apply, nextTransport, parseUrl, parsed,
      emit_apply, senderResult]
    cases (w.transport w.calls).pubsubClient <;>
      simp only [bind_apply, emit_apply, throw_apply, pure_apply, List.append_assoc, List.singleton_append] <;>
      exact ⟨_,⟨_,rfl,by simp [Effect.transport]⟩,rfl⟩

theorem sendWebhookUsingSchemeMethod_unknown (parsed : urlparse w.nfkc targetUrl = .ok parts)
    (unknown : WebhookSchemes.ofValue? (asciiLower parts.scheme) = none) :
    sendWebhookUsingSchemeMethod targetUrl domain secret eventType data w =
      .error (.valueError ("Unknown webhook scheme: \x27" ++ parts.scheme ++ "\x27"))
        { w with log := w.log ++ [.dispatch targetUrl data] } := by
  simp only [sendWebhookUsingSchemeMethod, bind_apply, emit_apply, parseUrl, parsed, signatureForPayload, unknown]
  rfl

theorem sendWebhookUsingSchemeMethod_known (parsed : urlparse w.nfkc targetUrl = .ok parts)
    {scheme : WebhookSchemes} (known : WebhookSchemes.ofValue? (asciiLower parts.scheme) = some scheme) :
    sendWebhookUsingSchemeMethod targetUrl domain secret eventType data w =
      schemeMatrix scheme targetUrl data domain (w.signatureForPayload data secret) eventType
        { w with log := w.log ++ [.dispatch targetUrl data] } := by
  simp only [sendWebhookUsingSchemeMethod, bind_apply, emit_apply, parseUrl, parsed, signatureForPayload, known]

theorem sendWebhookUsingSchemeMethod_spec (domain secret eventType data : String)
    (parsed : urlparse w.nfkc targetUrl = .ok parts) :
    ∃ calls sent, sendWebhookUsingSchemeMethod targetUrl domain secret eventType data w =
      liftExcept (schemeResult parts (w.transport w.calls) (parts.hostname w.lower))
        { w with calls, log := w.log ++ sent } ∧ ∀ e ∈ sent, e.ledger = false := by
  cases known : WebhookSchemes.ofValue? (asciiLower parts.scheme) with
  | none =>
    rw [sendWebhookUsingSchemeMethod_unknown parsed known]
    exact ⟨w.calls,[.dispatch targetUrl data],by simp [schemeResult, known],by simp [Effect.ledger]⟩
  | some scheme =>
    obtain ⟨w',⟨sent,rfl,transport⟩,result⟩ := schemeMatrix_spec scheme data domain (w.signatureForPayload data secret)
      eventType (w := { w with log := w.log ++ [.dispatch targetUrl data] }) parsed
    rw [sendWebhookUsingSchemeMethod_known parsed known, result]
    refine ⟨w.calls + 1,.dispatch targetUrl data :: sent,by simp [schemeResult, known],?_⟩
    simpa [Effect.ledger] using fun e member => Effect.ledger_of_transport (transport e member)

theorem sendWebhookUsingSchemeMethod_outcome (targetUrl domain secret eventType data : String) :
    ∃ calls sent, sendWebhookUsingSchemeMethod targetUrl domain secret eventType data w =
      liftExcept (dispatchResult w.nfkc w.lower targetUrl (w.transport w.calls))
        { w with calls, log := w.log ++ sent } ∧ ∀ e ∈ sent, e.ledger = false := by
  cases parsed : urlparse w.nfkc targetUrl with
  | ok parts =>
    obtain ⟨calls,sent,result,transport⟩ := sendWebhookUsingSchemeMethod_spec domain secret eventType data parsed
    exact ⟨calls,sent,by simpa [dispatchResult, parsed] using result,transport⟩
  | error e =>
    refine ⟨w.calls,[.dispatch targetUrl data],?_,by simp [Effect.ledger]⟩
    simp [sendWebhookUsingSchemeMethod, bind_apply, parseUrl, parsed, dispatchResult]

-- A store of one pending delivery of an active http webhook, with its payload.
def sampleHook : Webhook := ⟨1,"http://shop.local/hook","secret",none,true,"app"⟩

def answeringWith (code : Nat) : Transport := ⟨.ok ⟨code,[],"{}"⟩,none,.ok "",none,none,.ok ""⟩

def sampleWorld : World :=
  ⟨[⟨"{}"⟩],[⟨.pending,"order_created",some 0,sampleHook⟩],[],[],0,"shop.local",fun _ => answeringWith 200,
    fun _ _ => "sig",id,id⟩

end SaleorWebhook
