import ConnectPy.StreamCallProofs
import ConnectPy.UnaryReplyProofs

/-! # A call in one piece, end to end

    A unary call of the Connect protocol is one HTTP exchange: whichever server runs
    the handler, the client returns the message that the handler returned, or raises the
    error that it raised (`unary_call_transparent`).

    A call that the server refuses reaches no handler.  Its error is reported all the
    same: as a `ConnectError` of its own, or, where HTTP refuses, as one for the HTTP
    status (`refusal_reported`). -/

namespace ConnectUnaryCall

open Utf8 (Bytes)
open Effect OrderedDict
open ConnectErrors ConnectPlatform ConnectHeaders ConnectWireErrors ConnectGrpcStatus
open ConnectEnvelope ConnectGrammar ConnectWriter ConnectStatusWire ConnectTrailersWire
open ConnectClientRequest ConnectContentType ConnectNegotiation ConnectUnaryRequest ConnectUnaryGet
open ConnectClient ConnectReply ConnectUnaryReply
open ConnectAsgi (Ctx Env Plan UnaryResponse grpcContentType trailersOnlyHeaders errorToHttpStatus)
open ConnectAsgiReply (Phase Tells)
open ConnectWsgi (App)
open ConnectWsgiReply (Heard Answers)

variable {p : Platform} {α β : Type}

/-! ## Replies that were served -/

/-- A server answered a request in one piece: nothing went wrong around its handler,
    which ended in this way, and this is the reply. -/
inductive Answered (plan : Plan α) (ctx : Ctx p) (outcome : Except Exc α) (reply : Reply) :
    Prop where
  | asgi {ω ι τ : Type} (env : Env p ω ι τ α) (At : Phase α → ω → Prop)
      (h : CallsAsgi env ctx outcome At) (n : Nat) (w : ω) (hw : At (firstPhase plan) w)
      (htells : Tells (ConnectAsgi.handleRequest env plan n (ConnectAsgi.Run.new w)).2.messages
        reply)
  | wsgi {ω ι τ : Type} (app : App p ω ι τ α) (At : Phase α → Heard → ω → Prop)
      (heard : ω → Heard) (h : CallsWsgi app ctx outcome At)
      (hheard : ∀ φ hd w, At φ hd w → heard w = hd)
      (k : Nat) (hk : 0 < k) (w : ω) (hw : At (firstPhase plan) .nothing w)
      (hanswers : Answers (heard (ConnectWsgi.handleRequest app plan k
          (ConnectWsgi.Run.new w)).2.world)
        (ConnectWsgi.handleRequest app plan k (ConnectWsgi.Run.new w)).2.chunks reply)

/-- **A server's reply is what the outcome comes to**, on the wire. -/
theorem answered_whole {plan : Plan α} {ctx : Ctx p} {outcome : Except Exc α} {reply said : Reply}
    (hwhole : Whole ctx plan outcome said) (h : Answered plan ctx outcome reply) :
    Reply.onWire p reply = Reply.onWire p said := by
  cases h with
  | asgi env At h n w hw htells =>
      rw [ConnectStreamCall.tells_unique htells (handleRequest_tells_whole h hwhole n hw)]
  | wsgi app At heard h hheard k hk w hw hanswers =>
      obtain ⟨hd, reply', hdone, htold, hwire⟩ := handleRequest_answers_whole h hwhole hk hw
      rw [hheard _ _ _ hdone] at hanswers
      rw [ConnectStreamCall.answers_unique hanswers htold]
      exact hwire

/-! ## The HTTP client -/

/-- The HTTP client fetched a whole response: its headers, and its body with the content
    encoding undone. -/
structure Fetches (unpack : Option String → Bytes → Option Bytes) (reply : Reply)
    (resp : FullResponse p) : Prop where
  status  : resp.status = reply.status
  headers : p.Delivers (onWire p reply.headers) resp.headers
  content : unpack (p.getHeader resp.headers "content-encoding") reply.body = some resp.content

/-- Only the wire form of a reply is fetched. -/
theorem Fetches.congr {unpack : Option String → Bytes → Option Bytes} {reply reply' : Reply}
    {resp : FullResponse p} (hwire : Reply.onWire p reply = Reply.onWire p reply')
    (h : Fetches unpack reply resp) : Fetches unpack reply' resp := by
  obtain ⟨hstatus, hheaders, hbody, -⟩ := Reply.mk.inj hwire
  exact ⟨h.status.trans hstatus, hheaders ▸ h.headers, hbody ▸ h.content⟩

/-! ## What the client makes of an error -/

/-- What the client raises for an error that was answered in one piece. -/
def reported (protocol : Option ServerProtocol) (e : Exc) : Exc :=
  match e, protocol.bind grpcContentType with
  | .httpError e, _ => (ConnectWireError.fromHttpStatus e.status).toException
  | e, some _ => seen .grpc (.fromException e)
  | e, none => seen .connect (.fromException e)

/-- The encodings of an error are undone: JSON where it is JSON, the status of gRPC
    where it is that; an HTTP error has a status that is one, and no body is no JSON. -/
def Legible (p : Platform) (protocol : Option ServerProtocol) (e : Exc) : Prop :=
  match e, protocol.bind grpcContentType with
  | .httpError h, _ => h.status ≠ 200 ∧ ∃ e', p.jsonLoads [] = .error e' ∧ isValueError e' = true
  | e, some _ => StatusCodec p (.fromException e)
  | e, none =>
      p.jsonLoads (Utf8.encode (p.jsonDumps (.obj (ConnectWireError.fromException e).toDict)))
        = .ok (.obj (ConnectWireError.fromException e).toDict)

/-! ## The three forms of an error -/

section Forms

variable {ctx : Option (Ctx p)} {protocol : Option ServerProtocol} {e : Exc}

theorem errorReply_http (h : HTTPError) : errorReply ctx protocol (.httpError h)
    = ⟨h.status, addContextHeaders h.headers ((ctx.map Ctx.responseHeaders).getD (.empty p))
        ((ctx.map Ctx.responseTrailers).getD (.empty p)), [], []⟩ := by
  rw [errorReply]
  rfl

theorem reported_http (h : HTTPError) : reported protocol (.httpError h)
    = (ConnectWireError.fromHttpStatus h.status).toException := rfl

theorem legible_http (h : HTTPError) : Legible p protocol (.httpError h)
    ↔ h.status ≠ 200 ∧ ∃ e', p.jsonLoads [] = .error e' ∧ isValueError e' = true := Iff.rfl

theorem errorReply_json (hprotocol : protocol.bind grpcContentType = none)
    (he : e.isHTTPError = false) : errorReply ctx protocol e
      = ⟨errorToHttpStatus (ConnectWireError.fromException e).code,
          addContextHeaders [("content-type", "application/json")]
            ((ctx.map Ctx.responseHeaders).getD (.empty p))
            ((ctx.map Ctx.responseTrailers).getD (.empty p)),
          Utf8.encode (p.jsonDumps (.obj (ConnectWireError.fromException e).toDict)), []⟩ := by
  unfold errorReply
  rw [hprotocol]
  cases e <;> first | rfl | cases he

theorem reported_json (hprotocol : protocol.bind grpcContentType = none)
    (he : e.isHTTPError = false) :
    reported protocol e = seen .connect (.fromException e) := by
  unfold reported
  rw [hprotocol]
  cases e <;> first | rfl | cases he

theorem legible_json (hprotocol : protocol.bind grpcContentType = none)
    (he : e.isHTTPError = false) (h : Legible p protocol e) :
    p.jsonLoads (Utf8.encode (p.jsonDumps (.obj (ConnectWireError.fromException e).toDict)))
      = .ok (.obj (ConnectWireError.fromException e).toDict) := by
  unfold Legible at h
  rw [hprotocol] at h
  cases e <;> first | exact h | cases he

theorem errorReply_grpc {contentType : String}
    (hprotocol : protocol.bind grpcContentType = some contentType) (he : e.isHTTPError = false) :
    errorReply ctx protocol e
      = ⟨200, (trailersOnlyHeaders contentType ctx e).allitems, [], []⟩ := by
  unfold errorReply
  rw [hprotocol]
  cases e <;> first | rfl | cases he

theorem reported_grpc {contentType : String}
    (hprotocol : protocol.bind grpcContentType = some contentType) (he : e.isHTTPError = false) :
    reported protocol e = seen .grpc (.fromException e) := by
  unfold reported
  rw [hprotocol]
  cases e <;> first | rfl | cases he

theorem legible_grpc {contentType : String}
    (hprotocol : protocol.bind grpcContentType = some contentType) (he : e.isHTTPError = false)
    (h : Legible p protocol e) : StatusCodec p (.fromException e) := by
  unfold Legible at h
  rw [hprotocol] at h
  cases e <;> first | exact h | cases he

end Forms

theorem errorToHttpStatus_ne (c : Code) : errorToHttpStatus c ≠ 200 := by
  cases c <;> decide

/-- The body of a JSON error. -/
theorem responseError_json {e : Exc}
    (hjson : p.jsonLoads
        (Utf8.encode (p.jsonDumps (.obj (ConnectWireError.fromException e).toDict)))
      = .ok (.obj (ConnectWireError.fromException e).toDict)) {resp : FullResponse p}
    (hcontent : resp.content
      = Utf8.encode (p.jsonDumps (.obj (ConnectWireError.fromException e).toDict))) :
    responseError resp = seen .connect (.fromException e) := by
  rw [responseError, fromResponse, hcontent, hjson]
  dsimp only
  rw [fromDict_toDict]
  rfl

/-- An empty body. -/
theorem responseError_empty (hempty : ∃ e', p.jsonLoads [] = .error e' ∧ isValueError e' = true)
    {resp : FullResponse p} (hcontent : resp.content = []) :
    responseError resp = (ConnectWireError.fromHttpStatus resp.status).toException := by
  obtain ⟨e', hload, hvalue⟩ := hempty
  rw [responseError, fromResponse, hcontent, hload]
  dsimp only
  rw [if_pos hvalue]

/-! ## The unary client -/

/-- The client gets the response of its request in time. -/
structure Exchanges (client : Client β α) (useGet : Bool) (requestHeaders : Headers p)
    (request : β) (timeoutMs : Option Int) (send : HttpRequest → Except Exc (FullResponse p))
    (resp : FullResponse p) : Prop where
  inTime : isOver timeoutMs = false
  sent   : ∃ sent, unaryRequest client.requestCodec (client.sendCompression.getD .identity) useGet
    requestHeaders request = .ok sent ∧ send sent = .ok resp

theorem sendConnectUnary_exchanges (f : Flavor) {client : Client β α} {useGet : Bool}
    {requestHeaders : Headers p} {request : β} {timeoutMs : Option Int}
    {send : HttpRequest → Except Exc (FullResponse p)} {resp : FullResponse p}
    (h : Exchanges client useGet requestHeaders request timeoutMs send resp) :
    sendConnectUnary f client useGet requestHeaders request timeoutMs send
      = (unaryResponse client.codec client.responseCompressions client.readMaxBytes
          resp).mapError (unaryClauses f) := by
  obtain ⟨sent, hrequest, hsend⟩ := h.sent
  have htry : unaryTry client useGet requestHeaders request send
      = unaryResponse client.codec client.responseCompressions client.readMaxBytes resp := by
    rw [unaryTry, hrequest]
    dsimp only
    rw [hsend]
  rw [sendConnectUnary, h.inTime, if_neg Bool.false_ne_true, htry]
  cases unaryResponse client.codec client.responseCompressions client.readMaxBytes resp <;> rfl

/-- A reported error is a `ConnectError`, and these pass the except clauses as they are. -/
theorem reported_connectError (protocol : Option ServerProtocol) (e : Exc) :
    ∃ e', reported protocol e = .connectError e' := by
  unfold reported
  cases protocol.bind grpcContentType <;> cases e <;> exact ⟨_, rfl⟩

theorem unaryClauses_reported (f : Flavor) (protocol : Option ServerProtocol) (e : Exc) :
    unaryClauses f (reported protocol e) = reported protocol e := by
  obtain ⟨e', he'⟩ := reported_connectError protocol e
  rw [he']
  rfl

/-- The client can read the unary messages of a server: it has their codec, whose name a
    content type keeps, it resolves their compression, and its HTTP client undoes it. -/
structure Understands (client : Client β α) (unpack : Option String → Bytes → Option Bytes)
    (u : UnaryResponse α) : Prop where
  codec       : client.codec = u.codec
  decodes     : ∀ m data, u.codec.encode m = .ok data → u.codec.decode data = .ok m
  token       : isToken u.codec.name = true
  lowercase   : asciiLower u.codec.name = u.codec.name
  compression : client.responseCompressions.get? u.compression.name = some u.compression
  named       : u.compression.name ≠ ""
  unpacks     : ∀ data out, u.compression.compress data = .ok out →
    unpack (some u.compression.name) out = some data

theorem tooLarge_of_fits {n : Nat} {limit : Option Int} (h : exceeds n limit = false) :
    tooLarge n limit = none := by
  cases limit with
  | none => rfl
  | some limit =>
      rw [exceeds, decide_eq_false_iff_not] at h
      rw [tooLarge, if_neg h]

theorem contentType_ne_contentEncoding :
    p.lower "content-type" ≠ p.lower "content-encoding" :=
  ConnectCompression.contentType_ne .connect false

/-- **A unary message is read.** -/
theorem unaryResponse_message {client : Client β α}
    {unpack : Option String → Bytes → Option Bytes} {u : UnaryResponse α}
    (hu : Understands client unpack u) {m : α} {body : Bytes} (hbody : unaryBody u m = .ok body)
    (hfits : ∀ data, u.codec.encode m = .ok data → exceeds data.length client.readMaxBytes = false)
    {ctx : Ctx p} {resp : FullResponse p} (hfetch : Fetches unpack (unaryReply u ctx body) resp) :
    unaryResponse client.codec client.responseCompressions client.readMaxBytes resp = .ok m := by
  obtain ⟨data, hencode⟩ : ∃ data, u.codec.encode m = .ok data := by
    cases h : u.codec.encode m with
    | ok data => exact ⟨data, rfl⟩
    | error e => rw [unaryBody, h] at hbody; cases hbody
  rw [unaryBody, hencode] at hbody
  dsimp only at hbody
  -- The three headers that the client reads are those that the server wrote.
  have htype : contentType resp.headers = "application/" ++ u.codec.name := by
    rw [contentType, p.getHeader_of_delivers hfetch.headers]
    exact congrArg (Option.getD · "") (lookup_unaryHeaders u.codec.name u.compression.name
      ctx.responseHeaders ctx.responseTrailers)
  have hencoding : p.getHeader resp.headers "content-encoding" = some u.compression.name := by
    rw [p.getHeader_of_delivers hfetch.headers]
    exact (lookup_cons_ne contentType_ne_contentEncoding _ _).trans (lookup_cons_self _ _ _)
  have hcontent : resp.content = data := by
    have h := hfetch.content
    rw [hencoding] at h
    exact Option.some.inj (h.symm.trans (hu.unpacks data body hbody))
  have hvalid : validateResponse p client.codec.name resp.status (contentType resp.headers)
      = .ok () := by
    rw [htype, hu.codec, hfetch.status]
    exact (validateResponse_iff hu.token).mpr hu.lowercase
  have hcompression : handleResponseCompression .connect false resp.headers
      client.responseCompressions = .ok u.compression := by
    have hget : p.getHeader resp.headers (ClientProtocol.connect.compressionHeader false)
        = some u.compression.name := hencoding
    rw [handleResponseCompression, hget]
    dsimp only
    rw [if_neg hu.named, hu.compression]
  have hsmall : tooLarge resp.content.length client.readMaxBytes = none := by
    rw [hcontent]
    exact tooLarge_of_fits (hfits data hencode)
  rw [unaryResponse, hvalid, hcompression, hsmall]
  dsimp only
  rw [if_pos (show resp.status = 200 from hfetch.status), hcontent, hu.codec]
  exact decodeMessage_ok (hu.decodes m data hencode)

/-- What the client needs to read an error: nothing encodes its body, and the body is
    small. -/
structure Unencoded (client : Client β α) (unpack : Option String → Bytes → Option Bytes)
    (reply : Reply) : Prop where
  plain   : ∀ b, unpack none b = some b
  header  : lookup (p.lower "content-encoding") (onWire p reply.headers) = none
  fits    : exceeds reply.body.length client.readMaxBytes = false

/-- **A unary error is read**, in JSON or as an HTTP status. -/
theorem unaryResponse_error {client : Client β α}
    {unpack : Option String → Bytes → Option Bytes} {ctx : Option (Ctx p)}
    {protocol : Option ServerProtocol} (hprotocol : protocol.bind grpcContentType = none)
    {e : Exc} (hlegible : Legible p protocol e)
    (hu : Unencoded (p := p) client unpack (errorReply ctx protocol e)) {resp : FullResponse p}
    (hfetch : Fetches unpack (errorReply ctx protocol e) resp) :
    unaryResponse client.codec client.responseCompressions client.readMaxBytes resp
      = .error (reported protocol e) := by
  have hencoding : p.getHeader resp.headers "content-encoding" = none := by
    rw [p.getHeader_of_delivers hfetch.headers]
    exact hu.header
  have hcontent : resp.content = (errorReply ctx protocol e).body := by
    have h := hfetch.content
    rw [hencoding, hu.plain] at h
    exact (Option.some.inj h).symm
  have hcompression : handleResponseCompression .connect false resp.headers
      client.responseCompressions = .ok .identity := by
    have hget : p.getHeader resp.headers (ClientProtocol.connect.compressionHeader false)
        = none := hencoding
    rw [handleResponseCompression, hget]
  have hsmall : tooLarge resp.content.length client.readMaxBytes = none := by
    rw [hcontent]
    exact tooLarge_of_fits hu.fits
  by_cases hhttp : e.isHTTPError = true
  · -- HTTP refuses: whatever the content type, only the status counts.
    obtain ⟨h, rfl⟩ : ∃ h, e = .httpError h := by
      cases e <;> first | exact ⟨_, rfl⟩ | cases hhttp
    rw [errorReply_http] at hcontent
    obtain ⟨hstatus, hempty⟩ := (legible_http h).mp hlegible
    have hresp : resp.status = h.status := by
      rw [hfetch.status, errorReply_http]
    have hne : resp.status ≠ 200 := hresp ▸ hstatus
    rw [reported_http, unaryResponse, validateResponse, if_pos hne]
    by_cases hjson : normalizeContentType p (contentType resp.headers) = "application/json"
    · rw [if_pos hjson, hcompression, hsmall]
      dsimp only
      rw [if_neg hne, responseError_empty hempty hcontent, hresp]
    · rw [if_neg hjson, hresp]
  · have hhttp : e.isHTTPError = false := Bool.eq_false_iff.mpr hhttp
    -- Otherwise the error is in the body, and its type says so.
    rw [errorReply_json hprotocol hhttp] at hcontent
    have hne : resp.status ≠ 200 := by
      rw [hfetch.status, errorReply_json hprotocol hhttp]
      exact errorToHttpStatus_ne _
    have htype : contentType resp.headers = "application/json" := by
      rw [contentType, p.getHeader_of_delivers hfetch.headers, errorReply_json hprotocol hhttp]
      exact congrArg (Option.getD · "") (lookup_cons_self _ _ _)
    have hjson : normalizeContentType p (contentType resp.headers) = "application/json" := by
      have hplain : Plain ("application/" ++ "json") :=
        (plain_start false).append (plain_token (by decide))
      rw [htype]
      exact (normalizeContentType_plain hplain).trans (by decide)
    rw [reported_json hprotocol hhttp, unaryResponse, validateResponse, if_pos hne, if_pos hjson,
      hcompression, hsmall]
    dsimp only
    rw [if_neg hne,
      responseError_json (legible_json hprotocol hhttp hlegible) hcontent]

/-! ## Handlers that follow a script -/

/-- An ASGI request whose unary handler ends in this way. -/
def unaryEnv (ctx : Ctx p) (outcome : Except Exc α) : Env p (Phase α) Unit Unit α :=
  { ConnectStreamCall.scriptEnv ctx [] none with callUnary := fun _ => (called outcome, .done) }

theorem unaryEnv_calls (ctx : Ctx p) (outcome : Except Exc α) :
    CallsAsgi (unaryEnv ctx outcome) ctx outcome fun φ w => w = φ where
  encodes := fun _ => rfl
  onStart := fun _ w hw => ⟨(), w, rfl, hw⟩
  send := fun _ _ _ w hw => ⟨w, rfl, hw⟩
  connected := fun _ _ _ => rfl
  settled := fun _ _ => rfl
  acloseRequest := fun w hw => ⟨w, rfl, hw⟩
  onEnd := fun _ _ _ _ w hw => ⟨w, rfl, hw⟩
  callUnary := fun _ _ => ⟨rfl, rfl⟩

/-- A WSGI request whose unary handler ends in this way, under an app server that
    listens. -/
def unaryApp (ctx : Ctx p) (outcome : Except Exc α) : App p (Phase α × Heard) Unit Unit α :=
  { ConnectStreamCall.scriptApp ctx [] none with
    callUnary := fun w => (called outcome, (.done, w.2)) }

theorem unaryApp_calls (ctx : Ctx p) (outcome : Except Exc α) :
    CallsWsgi (unaryApp ctx outcome) ctx outcome fun φ heard w => w = (φ, heard) where
  onStart := fun _ _ w hw => ⟨(), w, rfl, hw⟩
  startResponse := by
    rintro φ status headers heard _ rfl
    exact ⟨_, rfl, rfl⟩
  settled := fun _ _ _ => rfl
  drain := fun _ w hw => ⟨w, rfl, hw⟩
  writeError := fun _ _ w hw => ⟨w, rfl, hw⟩
  onEnd := fun _ _ _ _ w hw => ⟨w, rfl, hw⟩
  isSome := fun _ _ => rfl
  callUnary := by
    rintro heard _ rfl
    exact ⟨rfl, rfl⟩

/-- **Every outcome is answered**, by both servers. -/
theorem answered_script {plan : Plan α} {ctx : Ctx p} {outcome : Except Exc α} {reply : Reply}
    (hwhole : Whole ctx plan outcome reply) : Answered plan ctx outcome reply :=
  .asgi (unaryEnv ctx outcome) _ (unaryEnv_calls ctx outcome) 1 (firstPhase plan) rfl
    (handleRequest_tells_whole (unaryEnv_calls ctx outcome) hwhole 1 rfl)

theorem answered_script_wsgi {plan : Plan α} {ctx : Ctx p} {outcome : Except Exc α}
    {said : Reply} (hwhole : Whole ctx plan outcome said) :
    ∃ reply, Answered plan ctx outcome reply ∧ Reply.onWire p reply = Reply.onWire p said := by
  obtain ⟨heard, reply, hdone, hanswers, hwire⟩ := handleRequest_answers_whole
    (unaryApp_calls ctx outcome) hwhole Nat.one_pos
    (show ((firstPhase plan, Heard.nothing) : Phase α × Heard) = (firstPhase plan, .nothing) from
      rfl)
  refine ⟨reply, .wsgi (unaryApp ctx outcome) _ Prod.snd (unaryApp_calls ctx outcome) ?_ 1
    Nat.one_pos (firstPhase plan, .nothing) rfl ?_, hwire⟩
  · rintro φ hd _ rfl
    rfl
  · rw [hdone]
    exact hanswers

/-! ## A unary call for a hat -/

/-- The JSON text of the error. -/
def noSuchHatText : String :=
  "\x7b\"code\": \"not_found\", \"message\": \"no such hat: é\", \"details\": "
    ++ "[\x7b\"type\": \"acme.Hat\", \"value\": \"CAc\"\x7d]\x7d"

def noSuchHatJson : Json :=
  .obj (ConnectWireError.fromException (.connectError noSuchHat)).toDict

/-- The platform that knows this text. -/
abbrev jsonPlatform : Platform :=
  .ascii (fun b => if b = Utf8.encode noSuchHatText then .ok noSuchHatJson
      else .error (.exception .valueError "no json"))
    (fun _ => noSuchHatText) protoStatus fun _ => .error (.exception .valueError "no status")

/-- A unary method over bytes, and its client. -/
def hatUnary : UnaryResponse Bytes := ⟨.raw, .identity⟩

def hatClient : Client Bytes Bytes :=
  { ConnectClient.rawClient with protocol := .connect }

/-- A response header and a trailer of the handler. -/
def hatCtx : Ctx jsonPlatform := ⟨.ofItems _ [("x-hat", "top")], .ofItems _ [("x", "1")]⟩

theorem hats_understood : Understands hatClient (fun _ => some) hatUnary where
  codec := rfl
  decodes := by
    rintro m data ⟨⟩
    rfl
  token := by decide
  lowercase := by decide
  compression := rfl
  named := by decide
  unpacks := by
    rintro data out ⟨⟩
    rfl

theorem hats_legible : Legible jsonPlatform (some .connect) (.connectError noSuchHat) := by
  show (if Utf8.encode noSuchHatText = Utf8.encode noSuchHatText then
    (.ok noSuchHatJson : Except Exc Json) else .error (.exception .valueError "no json"))
      = .ok noSuchHatJson
  exact if_pos rfl

theorem hats_unencoded : Unencoded (p := jsonPlatform) hatClient (fun _ => some)
    (errorReply (some hatCtx) (some .connect) (.connectError noSuchHat)) where
  plain := fun _ => rfl
  header := by decide
  fits := rfl

/-- The response as the HTTP client hands it over. -/
def fetched (reply : Reply) : FullResponse jsonPlatform :=
  ⟨reply.status, Multimap.ofItems (onWire jsonPlatform reply.headers), reply.body⟩

theorem fetches_fetched (reply : Reply) : Fetches (fun _ => some) reply (fetched reply) :=
  ⟨rfl, rfl, rfl⟩

theorem exchanges_fetched (reply : Reply) : Exchanges hatClient false (.empty jsonPlatform) []
    none (fun _ => .ok (fetched reply)) (fetched reply) :=
  ⟨rfl, _, rfl, rfl⟩

/-! ## The call -/

/-- What a call of a unary method ends with: a message that cannot be written is an
    error as well. -/
def written (u : UnaryResponse α) : Except Exc α → Except Exc α
  | .ok m =>
      match unaryBody u m with
      | .ok _ => .ok m
      | .error e => .error e
  | .error e => .error e

theorem whole_written {u : UnaryResponse α} (ctx : Ctx p) {outcome : Except Exc α}
    (hexc : ∀ e, written u outcome = .error e → e.isException = true) :
    (∃ m body, outcome = .ok m ∧ written u outcome = .ok m ∧ unaryBody u m = .ok body
      ∧ Whole ctx (.unary u) outcome (unaryReply u ctx body))
    ∨ ∃ e, written u outcome = .error e
      ∧ Whole ctx (.unary u) outcome (errorReply (some ctx) (some .connect) e) := by
  cases outcome with
  | error e => exact .inr ⟨e, rfl, .raised (hexc e rfl)⟩
  | ok m =>
      cases hbody : unaryBody u m with
      | ok body =>
          have hw : written u (.ok m) = .ok m := by rw [written, hbody]
          exact .inl ⟨m, body, rfl, hw, hbody, .message hbody⟩
      | error e =>
          have hw : written u (.ok m) = .error e := by rw [written, hbody]
          exact .inr ⟨e, hw, .unwritten hbody (hexc e hw)⟩

/-- **A UNARY CALL IS TRANSPARENT.**  Whichever server runs the handler, and whatever
    interceptors are around it, the client returns the message that the handler
    returned, or raises the error that it raised. -/
theorem unary_call_transparent (f : Flavor) {client : Client β α}
    {unpack : Option String → Bytes → Option Bytes} {u : UnaryResponse α} {ctx : Ctx p}
    {outcome : Except Exc α} {reply : Reply} (hanswered : Answered (.unary u) ctx outcome reply)
    (hu : Understands client unpack u)
    (hfits : ∀ m data, outcome = .ok m → u.codec.encode m = .ok data →
      exceeds data.length client.readMaxBytes = false)
    (herror : ∀ e, written u outcome = .error e → e.isException = true
      ∧ Legible p (some .connect) e
      ∧ Unencoded (p := p) client unpack (errorReply (some ctx) (some .connect) e))
    {resp : FullResponse p} (hfetch : Fetches unpack reply resp) {useGet : Bool}
    {requestHeaders : Headers p} {request : β} {timeoutMs : Option Int}
    {send : HttpRequest → Except Exc (FullResponse p)}
    (hexchange : Exchanges client useGet requestHeaders request timeoutMs send resp) :
    sendConnectUnary f client useGet requestHeaders request timeoutMs send
      = (written u outcome).mapError (reported (some .connect)) := by
  rw [sendConnectUnary_exchanges f hexchange]
  rcases whole_written ctx fun e he => (herror e he).1 with
    ⟨m, body, rfl, hm, hbody, hwhole⟩ | ⟨e, he, hwhole⟩
  · have hmessage := unaryResponse_message hu hbody (fun data => hfits m data rfl)
      (hfetch.congr (answered_whole hwhole hanswered))
    rw [hmessage, hm]
    rfl
  · obtain ⟨-, hlegible, hplain⟩ := herror e he
    rw [unaryResponse_error rfl hlegible hplain (hfetch.congr (answered_whole hwhole hanswered)), he]
    exact congrArg Except.error (unaryClauses_reported f _ e)

/-- A hat from the ASGI server, and from the WSGI server that there is none. -/
theorem unary_call_transparent_hats :
    (∃ reply, Answered (.unary hatUnary) hatCtx (.ok [7]) reply
      ∧ sendConnectUnary .async hatClient false (.empty jsonPlatform) [] none
          (fun _ => .ok (fetched reply)) = .ok [7])
    ∧ ∃ reply, Answered (.unary hatUnary) hatCtx (.error (.connectError noSuchHat)) reply
      ∧ sendConnectUnary .sync hatClient false (.empty jsonPlatform) [] none
          (fun _ => .ok (fetched reply)) = .error (.connectError noSuchHat) := by
  constructor
  · refine ⟨_, answered_script (.message rfl), ?_⟩
    refine unary_call_transparent .async (answered_script (.message rfl)) hats_understood
      (fun _ _ _ _ => rfl) ?_ (fetches_fetched _) (exchanges_fetched _)
    intro e he
    cases he
  · obtain ⟨reply, hanswered, -⟩ := answered_script_wsgi
      (show Whole hatCtx (.unary hatUnary) (.error (.connectError noSuchHat)) _ from .raised rfl)
    refine ⟨reply, hanswered, ?_⟩
    refine unary_call_transparent .sync hanswered hats_understood ?_ ?_ (fetches_fetched _)
      (exchanges_fetched _)
    · rintro m data ⟨⟩
    · rintro e ⟨⟩
      exact ⟨rfl, hats_legible, hats_unencoded⟩

/-! ## A refused stream -/

/-- The context of a request before anything is written to it. -/
def freshCtx (p : Platform) : Ctx p := ⟨.empty p, .empty p⟩

/-- A fresh context adds nothing to an error. -/
theorem errorReply_fresh (hasCtx : Bool) (protocol : Option ServerProtocol) (e : Exc) :
    errorReply (if hasCtx then some (freshCtx p) else none) protocol e
      = errorReply (none : Option (Ctx p)) protocol e := by
  cases hasCtx <;> rfl

section Trailers

variable {contentType : String} {e : Exc} {headers : p.HTTPHeaders}

/-- What the client finds in the headers of a status without a body. -/
theorem getHeader_trailersOnly
    (hd : p.Delivers (onWire p (trailersOnlyHeaders contentType (none : Option (Ctx p)) e).allitems)
      headers) {name : String} (hname : p.lower name = name) :
    p.getHeader headers name
      = if "content-type" = name then some contentType
        else lookup name (statusAssignments p (some (.fromException e))) := by
  have hwire : onWire p (trailersOnlyHeaders contentType (none : Option (Ctx p)) e).allitems
      = (trailersOnlyHeaders contentType (none : Option (Ctx p)) e).allitems :=
    Headers.map_lower_allitems _
  have hlower : p.lower "content-type" = "content-type" :=
    p.lower_of_ascii (by decide) (by decide)
  rw [hwire] at hd
  rw [getHeader_of_delivers_headers hd hname, trailersOnlyHeaders, Headers.groups_setItem, hlower]
  split
  · subst name
    exact Multimap.first?_set_self _ _ _
  · rename_i hne
    rw [Multimap.first?_set_ne _ hne, statusTrailers_first?]
    exact Option.or_none

/-- The status has no encoding of messages. -/
theorem lookup_statusAssignments_encoding (e : Option ConnectWireError) :
    lookup "grpc-encoding" (statusAssignments p e) = none := by
  rw [lookup_eq_none_iff]
  intro hmem
  have hname := (statusAssignments_names e).subset hmem
  revert hname
  decide

/-- The status, as it would be read from the trailers. -/
theorem raiseStatus_trailersOnly
    (hd : p.Delivers (onWire p (trailersOnlyHeaders contentType (none : Option (Ctx p)) e).allitems)
      headers) (hcodec : StatusCodec p (.fromException e)) :
    p.getHeader headers "grpc-status"
        = some (connectStatusToGrpc (ConnectWireError.fromException e).code)
      ∧ raiseStatus headers (connectStatusToGrpc (ConnectWireError.fromException e).code) none
        = some (seen .grpc (.fromException e)) := by
  -- Without user trailers the status can be delivered as it is.
  obtain ⟨h', hd'⟩ := delivers_of_clean (p := p) clean_empty (some (.fromException e))
  have hs' := shows_of_delivers hd'
  have hempty : Unreserved (Headers.empty p) := ⟨rfl, rfl⟩
  refine ⟨?_, (raiseStatus_congr _ none ?_ ?_).trans (raiseStatus_shows hs' hempty hcodec)⟩
  · rw [getHeader_trailersOnly hd (lower_grpcStatus p), if_neg (by decide), lookup_status]
    rfl
  · rw [getHeader_trailersOnly hd (lower_grpcMessage p), if_neg (by decide), lookup_message,
      hs'.message, hempty.1, Option.map_id]
    rfl
  · rw [getHeader_trailersOnly hd (lower_grpcDetails p), if_neg (by decide), lookup_details,
      hs'.details, hempty.2, Option.map_id]
    rfl

end Trailers

/-- A body without bytes has no messages, and then the headers have the status. -/
theorem readResponse_trailersOnly {k : ReaderKind} (hk : k = .grpc ∨ k = .grpcWeb)
    (cfg : ReaderConfig α) (response : Option (ResponseMetadata p)) (resp : Response p)
    (htrailers : p.getHeader resp.trailers "grpc-status" = none) {status : String}
    (hstatus : p.getHeader resp.headers "grpc-status" = some status) {chunks : List Bytes}
    (hchunks : chunks.flatten = []) :
    (readResponse k cfg (Reader.new response) resp chunks).messages = []
      ∧ (readResponse k cfg (Reader.new response) resp chunks).error
        = raiseStatus resp.headers status none := by
  have hblock : withBlock k cfg (Reader.new response) chunks
      = ⟨[], ⟨start response, []⟩, none⟩ := by
    refine withBlock_of_drain ?_ (.inr rfl)
    rw [hchunks]
    exact drain_start_messages .nil response
  have hnone : p.getHeader (start response : ReaderState p).trailers "grpc-status" = none :=
    p.getHeader_empty _
  rw [readResponse, hblock]
  refine ⟨rfl, ?_⟩
  rcases hk with rfl | rfl
  · exact handleGrpcComplete_headers rfl htrailers hstatus none
  · exact handleGrpcComplete_headers rfl hnone hstatus none

/-- What the client of a stream ends with that the server refuses.  The content type of a
    gRPC status without a body names no codec, and is read as that of `proto`. -/
def refused (client : Client β α) (protocol : Option ServerProtocol) (e : Exc) : Exc :=
  match e.isHTTPError, protocol.bind grpcContentType with
  | false, some contentType =>
      if client.codec.name = "proto" then reported protocol e
      else invalidContentType .internal contentType
        (client.protocol.contentTypePrefix true ++ client.codec.name)
  | _, _ => reported protocol e

theorem refused_connectError (client : Client β α) (protocol : Option ServerProtocol) (e : Exc) :
    ∃ e', refused client protocol e = .connectError e' := by
  unfold refused
  split
  · split
    · exact reported_connectError protocol e
    · exact ⟨_, rfl⟩
  · exact reported_connectError protocol e

/-- The content type of a status without a body. -/
theorem validate_trailersOnly {protocol : ClientProtocol} {contentType : String}
    (h : grpcContentType (serverProtocol protocol) = some contentType) (name : String) :
    validateStreamResponse protocol name contentType
      = if name = "proto" then .ok ()
        else .error (invalidContentType .internal contentType
          (protocol.contentTypePrefix true ++ name)) := by
  cases protocol with
  | connect => cases h
  | grpc =>
      obtain rfl := Option.some.inj h
      exact if_congr eq_comm rfl rfl
  | grpcWeb =>
      obtain rfl := Option.some.inj h
      exact if_congr eq_comm rfl rfl

/-- Only the wire form of a reply is carried. -/
theorem carries_congr {reply reply' : Reply} {resp : Opened p}
    (hwire : Reply.onWire p reply = Reply.onWire p reply') (h : Carries reply resp) :
    Carries reply' resp := by
  obtain ⟨hstatus, hheaders, hbody, htrailers⟩ := Reply.mk.inj hwire
  exact ⟨h.status.trans hstatus, hheaders ▸ h.headers, h.body.trans hbody,
    htrailers ▸ h.trailers, h.unbroken, h.exit⟩

/-- An error that has an HTTP status of its own is read from that, or from its JSON. -/
theorem withResponse_error (f : Flavor) {client : Client β α} {protocol : Option ServerProtocol}
    {e : Exc} (hplain : e.isHTTPError = true ∨ protocol.bind grpcContentType = none)
    (hlegible : Legible p protocol e) {resp : Opened p}
    (hcarries : Carries (errorReply (none : Option (Ctx p)) protocol e) resp)
    (timeLeft : Option Int) (current : Option (ResponseMetadata p)) :
    (withResponse f client resp timeLeft current).messages = []
      ∧ (withResponse f client resp timeLeft current).error = some (reported protocol e) := by
  have hleft : ∀ (hne : resp.status ≠ 200), withResponse f client resp timeLeft current
      = ⟨[], none, none, handleResponseHeaders current resp.status resp.headers,
        some (responseError ⟨resp.status, resp.headers, resp.chunks.flatten⟩)⟩ := by
    intro hne
    rw [withResponse, if_neg hne, hcarries.unbroken]
    rfl
  by_cases hhttp : e.isHTTPError = true
  · obtain ⟨h, rfl⟩ : ∃ h, e = .httpError h := by
      cases e <;> first | exact ⟨_, rfl⟩ | cases hhttp
    obtain ⟨hne, hempty⟩ := (legible_http h).mp hlegible
    have hstatus : resp.status = h.status := hcarries.status
    rw [hleft (hstatus ▸ hne), responseError_empty hempty hcarries.body, reported_http]
    exact ⟨rfl, congrArg (fun n => some (ConnectWireError.fromHttpStatus n).toException) hstatus⟩
  · have hhttp : e.isHTTPError = false := Bool.eq_false_iff.mpr hhttp
    have hprotocol : protocol.bind grpcContentType = none :=
      hplain.resolve_left (Bool.eq_false_iff.mp hhttp)
    rw [errorReply_json hprotocol hhttp] at hcarries
    have hne : resp.status ≠ 200 := by
      rw [hcarries.status]
      exact errorToHttpStatus_ne _
    rw [hleft hne, responseError_json (legible_json hprotocol hhttp hlegible) hcarries.body,
      reported_json hprotocol hhttp]
    exact ⟨rfl, rfl⟩

/-- An error of gRPC is read from the headers, where the content type allows it. -/
theorem withResponse_trailersOnly (f : Flavor) {client : Client β α} {contentType : String}
    (hgrpc : grpcContentType (serverProtocol client.protocol) = some contentType) {e : Exc}
    (hcodec : StatusCodec p (.fromException e)) {resp : Opened p}
    (hcarries : Carries
      ⟨200, (trailersOnlyHeaders contentType (none : Option (Ctx p)) e).allitems, [], []⟩ resp)
    {timeLeft : Option Int} (htime : isOver timeLeft = false)
    (current : Option (ResponseMetadata p)) :
    (withResponse f client resp timeLeft current).messages = []
      ∧ (withResponse f client resp timeLeft current).error
        = some (if client.codec.name = "proto" then seen .grpc (.fromException e)
          else invalidContentType .internal contentType
            (client.protocol.contentTypePrefix true ++ client.codec.name)) := by
  obtain ⟨hstatus, hraise⟩ := raiseStatus_trailersOnly hcarries.headers hcodec
  have hk : readerKind client.protocol = .grpc ∨ readerKind client.protocol = .grpcWeb := by
    cases hq : client.protocol with
    | connect => rw [hq] at hgrpc; cases hgrpc
    | grpc => exact .inl rfl
    | grpcWeb => exact .inr rfl
  -- The content type names no codec.
  have htype : ConnectClient.contentType resp.headers = contentType := by
    rw [ConnectClient.contentType, getHeader_trailersOnly hcarries.headers
      (p.lower_of_ascii (by decide) (by decide)), if_pos rfl]
    rfl
  have hvalid := validate_trailersOnly hgrpc client.codec.name
  rw [withResponse, if_pos hcarries.status]
  split
  · rename_i hproto
    rw [if_pos hproto, ← htype] at hvalid
    -- A client with the default codec reads on, and an empty body ends in the status.
    have hcompression : handleResponseCompression client.protocol true resp.headers
        client.responseCompressions = .ok .identity := by
      have hheader : client.protocol.compressionHeader true = "grpc-encoding" := by
        cases hq : client.protocol with
        | connect => rw [hq] at hgrpc; cases hgrpc
        | grpc => rfl
        | grpcWeb => rfl
      have hnone : p.getHeader resp.headers "grpc-encoding" = none := by
        rw [getHeader_trailersOnly hcarries.headers (p.lower_of_ascii (by decide) (by decide)),
          if_neg (by decide)]
        exact lookup_statusAssignments_encoding _
      rw [handleResponseCompression, hheader, hnone]
    have htrailers : p.getHeader resp.trailers "grpc-status" = none :=
      p.getHeader_of_delivers hcarries.trailers _
    obtain ⟨hmessages, herror⟩ := readBody_whole f hvalid hcompression hcarries.unbroken htime
      (handleResponseHeaders current resp.status resp.headers)
    obtain ⟨hmessages', herror'⟩ := readResponse_trailersOnly hk
      ⟨client.codec, .identity, client.readMaxBytes⟩
      (handleResponseHeaders current resp.status resp.headers) ⟨resp.headers, resp.trailers⟩
      htrailers hstatus hcarries.body
    exact ⟨hmessages.trans hmessages', herror.trans (herror'.trans hraise)⟩
  · rename_i hproto
    -- Any other one complains about the content type.
    rw [if_neg hproto, ← htype] at hvalid
    rw [readBody, hvalid, htype]
    exact ⟨rfl, rfl⟩

/-- **A REFUSAL IS REPORTED.**  A request that the server refuses, in whatever protocol,
    ends for the client of a stream with the error, and without messages. -/
theorem refusal_reported (streamErrorCode : Exc → Option StreamErrorCode) (f : Flavor)
    {client : Client β α} {protocol : Option ServerProtocol} {hasCtx : Bool} {e : Exc}
    {he : e.isException = true} {outcome : Except Exc α} {reply : Reply}
    (hanswered : Answered (.refused protocol hasCtx e he) (freshCtx p) outcome reply)
    (hprotocol : ∀ q ∈ protocol, q = serverProtocol client.protocol)
    (hlegible : Legible p protocol e) {resp : Opened p} (hcarries : Carries reply resp)
    {requests : Requests β} {content : Option Bytes}
    (hcontent : requestContent client requests = .ok content)
    {x : Exchange p} (hopened : x.opened = .ok resp) (htime : isOver x.timeoutMs = false)
    (htimeAfter : isOver x.timeAfterBody = false) (current : Option (ResponseMetadata p)) :
    sendRequestBidiStream streamErrorCode f client requests x current
      = ([], some (refused client protocol e)) := by
  have hwire := answered_whole .refused hanswered
  rw [errorReply_fresh] at hwire
  have hcarries' := carries_congr hwire hcarries
  have hleft : (withResponse f client resp x.timeAfterBody current).messages = []
      ∧ (withResponse f client resp x.timeAfterBody current).error
        = some (refused client protocol e) := by
    cases hhttp : e.isHTTPError with
    | true =>
        rw [refused, hhttp]
        exact withResponse_error f (.inl hhttp) hlegible hcarries' _ _
    | false =>
        cases hp : protocol.bind grpcContentType with
        | none =>
            rw [refused, hhttp, hp]
            exact withResponse_error f (.inr hp) hlegible hcarries' _ _
        | some contentType =>
            obtain ⟨q, rfl, hq⟩ := Option.bind_eq_some_iff.mp hp
            obtain rfl := hprotocol q rfl
            -- With a gRPC content type the status is among the headers.
            rw [refused, hhttp, hp]
            dsimp only
            rw [reported_grpc hp hhttp]
            rw [errorReply_grpc hp hhttp] at hcarries'
            exact withResponse_trailersOnly f hq (legible_grpc hp hhttp hlegible) hcarries'
              htimeAfter _
  rw [sendRequestBidiStream, htime, if_neg Bool.false_ne_true, tryBody, hcontent, hopened]
  dsimp only
  obtain ⟨e', he'⟩ := refused_connectError client protocol e
  rw [hcarries.exit, hleft.1, hleft.2, he']
  rfl

/-- A gRPC client of bytes whose codec has this name. -/
def codecClient (name : String) : Client Bytes Bytes :=
  { rawClient with codec := { Codec.raw with name := name } }

/-- One refusal, over gRPC: a client of `proto` has the error, and a client of `json` the
    complaint about the content type. -/
theorem refusal_reported_hats :
    ∃ reply, Answered (α := Bytes) (.refused (some .grpc) true (.connectError noSuchHat) rfl)
        (freshCtx hatPlatform) (.ok []) reply
      ∧ sendRequestBidiStream streamError .async (codecClient "proto") (.list [])
          ⟨none, .ok (ConnectStreamCall.byteByByte reply), none, none⟩ none
        = ([], some (.connectError noSuchHat))
      ∧ sendRequestBidiStream streamError .sync (codecClient "json") (.list [])
          ⟨none, .ok (ConnectStreamCall.byteByByte reply), none, none⟩ none
        = ([], some (invalidContentType .internal "application/grpc" "application/grpc+json")) := by
  have hanswered : Answered (α := Bytes)
      (.refused (some .grpc) true (.connectError noSuchHat) rfl) (freshCtx hatPlatform) (.ok []) _ :=
    answered_script .refused
  have hlegible : Legible hatPlatform (some .grpc) (.connectError noSuchHat) :=
    ⟨by decide, Platform.ofStatus_lossless _⟩
  refine ⟨_, hanswered, ?_, ?_⟩
  · exact refusal_reported streamError .async hanswered (by rintro q ⟨⟩; rfl) hlegible
      (ConnectStreamCall.carries_byteByByte _) rfl rfl rfl rfl none
  · exact refusal_reported streamError .sync hanswered (by rintro q ⟨⟩; rfl) hlegible
      (ConnectStreamCall.carries_byteByByte _) rfl rfl rfl rfl none

end ConnectUnaryCall
