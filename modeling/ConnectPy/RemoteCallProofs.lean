import ConnectPy.CompressionAgreementProofs
import ConnectPy.SingleMessageProofs
import ConnectPy.StreamCallProofs

/-! # A remote call — and the function behind it

    The headers that a client sends lead both servers to the same plan: the client's
    protocol, its codec, a compression that the client resolves, and the compression
    that the request is in (`dispatched`).  The body that it sends is read as its
    messages, whichever server takes it from its app server and in whatever pieces
    (`received`).

    With `stream_call_transparent` for the way back, a call comes to what the function
    behind it comes to: it can be replaced by an application of that function to the
    requests (`remote_call`). -/

namespace ConnectRemoteCall

open Utf8 (Bytes)
open Framing Effect OrderedDict
open ConnectErrors ConnectPlatform ConnectHeaders ConnectWireErrors ConnectEnvelope
open ConnectGrammar ConnectWriter ConnectStatusWire ConnectTrailersWire
open ConnectClientRequest ConnectContentType ConnectNegotiation ConnectUnaryRequest
open ConnectRequestBody ConnectDispatch ConnectCompression ConnectClient ConnectSingle
open ConnectReply ConnectStreamCall
open ConnectAsgi (Ctx EndpointKind StreamResponse Plan usesTrailers)

variable {p : Platform} {α β : Type}

/-! ## The two ends -/

/-- The name of the compression that a client sends in. -/
def sends (client : Client α β) : String := (client.sendCompression.getD .identity).name

/-- What the two ends of a method have in common: the codec by its name, and what the
    names of compressions mean. -/
structure Shared (client : Client α β) (server : Compressions) (codecs : Dict String (Codec β)) :
    Prop where
  registered : codecs.get? client.codec.name = some client.codec
  token      : isToken client.codec.name = true
  notGrpc    : startsWith "grpc" client.codec.name = false
  lowercase  : client.protocol = .connect → asciiLower client.codec.name = client.codec.name
  resolved   : Resolved client.responseCompressions
  listable   : Listable client.responseCompressions.keys
  served     : Resolved server
  named      : sends client ≠ ""
  meaning    : ∀ {name c c'}, server.get? name = some c →
    client.responseCompressions.get? name = some c' → c' = c

/-- A request for a method with a stream, as it comes to the server. -/
structure Reaches (client : Client α β) (userAgent : String) (call : Call p) (r : Request p) :
    Prop where
  codecName : call.codecName = client.codec.name
  accept    : call.acceptCompression = acceptHeader client.responseCompressions
  sends     : call.sendCompression = client.sendCompression
  kind      : client.protocol = .connect → call.stream = true ∧ r.kind ≠ .unary
  post      : r.httpMethod = "POST"
  trailers  : usesTrailers (serverProtocol client.protocol) = true → r.supportsTrailers = true
  arrives   : Arrives client.protocol call.stream (requestHeaders client.protocol userAgent call)
    r.headers
  accepted  : ∃ ctx, createRequestContext (serverProtocol client.protocol) r = .ok ctx

section Dispatch

variable {client : Client α β} {server : Compressions} {codecs : Dict String (Codec β)}
  {userAgent : String} {call : Call p} {r : Request p}

theorem Reaches.contentType (h : Reaches client userAgent call r) : r.contentType
    = client.protocol.contentTypePrefix call.stream ++ client.codec.name := by
  rw [Request.contentType, h.arrives.contentType, h.codecName]
  rfl

theorem Reaches.negotiated (h : Reaches client userAgent call r) (hs : Shared client server codecs) :
    negotiateServerProtocol r.contentType = serverProtocol client.protocol := by
  rw [h.contentType]
  exact negotiateServerProtocol_request client.protocol call.stream hs.notGrpc

theorem Reaches.called (h : Reaches client userAgent call r) (hs : Shared client server codecs) :
    Called client.protocol call.stream r where
  negotiated := h.negotiated hs
  kind := by
    intro hconnect
    obtain ⟨hstream, hkind⟩ := h.kind hconnect
    rw [hstream]
    exact iff_of_false (by decide) hkind

/-- The codec that either server finds. -/
theorem Reaches.codec (h : Reaches client userAgent call r) (hs : Shared client server codecs)
    {stream : Bool} (hstream : client.protocol = .connect → stream = call.stream) :
    codecs.get? (serverCodecName p r.contentType stream (serverProtocol client.protocol))
      = some client.codec := by
  rw [h.contentType, serverCodecName_request client.protocol hstream hs.token]
  by_cases hconnect : client.protocol = .connect
  · rw [if_pos hconnect, hs.lowercase hconnect, hs.registered]
  · rw [if_neg hconnect, hs.registered]

/-- The request is on the path of streams. -/
theorem Reaches.path (h : Reaches client userAgent call r) :
    ¬ (r.kind = .unary ∧ serverProtocol client.protocol = .connect) := by
  rintro ⟨hunary, hconnect⟩
  have hp : client.protocol = .connect := by
    cases hq : client.protocol with
    | connect => rfl
    | grpc => rw [hq] at hconnect; cases hconnect
    | grpcWeb => rw [hq] at hconnect; cases hconnect
  exact (h.kind hp).2 hunary

/-- There the two ends name the two headers alike. -/
theorem Reaches.headers (h : Reaches client userAgent call r) (hs : Shared client server codecs) :
    (serverProtocol client.protocol).compressionHeaderName
        = client.protocol.compressionHeader call.stream
      ∧ ConnectNegotiation.acceptCompressionHeader (serverProtocol client.protocol)
        = client.protocol.acceptCompressionHeader call.stream := by
  have hpath := h.path
  rw [← h.negotiated hs] at hpath ⊢
  exact (h.called hs).stream hpath

/-- The plan of both servers. -/
def plannedStream (client : Client α β) (server : Compressions) (r : Request p) :
    StreamResponse β :=
  streamResponse server (serverProtocol client.protocol) client.codec r

/-- **Both servers plan the stream** that the client asks for. -/
theorem dispatched (h : Reaches client userAgent call r) (hs : Shared client server codecs) :
    asgiPlan server codecs r = .stream (plannedStream client server r)
      ∧ wsgiPlan server codecs r = .stream (plannedStream client server r) := by
  obtain ⟨ctx, hctx⟩ := h.accepted
  have htrailers : (usesTrailers (serverProtocol client.protocol) && !r.supportsTrailers) = false := by
    cases hu : usesTrailers (serverProtocol client.protocol) with
    | false => rfl
    | true => rw [h.trailers hu]; rfl
  have hpath := h.path
  constructor
  -- The ASGI server looks at the method first, which is POST.
  · have hname : asgiCodecName r (serverProtocol client.protocol)
        = serverCodecName p r.contentType (!decide (r.kind = .unary))
            (serverProtocol client.protocol) := by
      rw [asgiCodecName, if_neg]
      rw [h.post]
      decide
    have hcodec : codecs.get? (asgiCodecName r (serverProtocol client.protocol))
        = some client.codec := by
      rw [hname]
      refine h.codec hs fun hp => ?_
      obtain ⟨hstream, hkind⟩ := h.kind hp
      rw [hstream, decide_eq_false hkind]
      rfl
    have hunary : (decide (r.kind = .unary)
        && decide (serverProtocol client.protocol = .connect)) = false := by
      rw [← Bool.decide_and]
      exact decide_eq_false hpath
    rw [asgiPlan, h.negotiated hs, htrailers, if_neg Bool.false_ne_true, hctx]
    dsimp only
    rw [hcodec]
    dsimp only
    rw [hunary, if_neg Bool.false_ne_true]
    rfl
  · have hcodec : codecs.get? (serverCodecName p r.contentType true (serverProtocol client.protocol))
        = some client.codec :=
      h.codec hs fun hp => (h.kind hp).1.symm
    rw [wsgiPlan, h.negotiated hs, htrailers, if_neg Bool.false_ne_true, hctx]
    dsimp only
    rw [if_neg hpath, wsgiStream, hcodec]
    rfl

/-- The response is in a compression that the client resolves. -/
theorem plannedStream_matches (h : Reaches client userAgent call r)
    (hs : Shared client server codecs) : Matches client (plannedStream client server r) := by
  obtain ⟨name, hname, -, hget, hcname⟩ :=
    negotiateCompression_accepted hs.resolved hs.listable hs.served
  have hcompression : (plannedStream client server r).compression
      = negotiateCompression (acceptHeader client.responseCompressions) server := by
    show negotiateCompression ((r.headers.get? (ConnectNegotiation.acceptCompressionHeader
      (serverProtocol client.protocol))).getD "") server = _
    rw [(h.headers hs).2, h.arrives.accept, h.accept]
    rfl
  rw [← hcompression] at hget hcname
  obtain ⟨c', hc'⟩ : ∃ c', client.responseCompressions.get? name = some c' :=
    Option.isSome_iff_exists.mp ((Dict.contains_iff _ _).mpr hname)
  refine ⟨rfl, rfl, ?_, ?_⟩
  · rw [hcname, hc', hs.meaning hget hc']
  · rw [hcname]
    exact (hs.listable name hname).1

/-- The request is taken in the compression that it is in. -/
theorem plannedStream_takes (h : Reaches client userAgent call r)
    (hs : Shared client server codecs) {c : Compression} (hc : server.get? (sends client) = some c) :
    (plannedStream client server r).requestCompression = .ok ()
      ∧ (negotiateStreamCompression (serverProtocol client.protocol) r.headers server).1
        = some c := by
  have hheader : orIdentity
      (r.headers.get? (serverProtocol client.protocol).compressionHeaderName) = sends client := by
    rw [(h.headers hs).1, h.arrives.compression, h.sends, sends]
    cases hsend : client.sendCompression with
    | none => rfl
    | some send =>
        have hne := hs.named
        rw [sends, hsend] at hne
        exact orIdentity_some hne
  have hnegotiated :
      (negotiateStreamCompression (serverProtocol client.protocol) r.headers server).1 = some c := by
    rw [negotiateStreamCompression, hheader]
    exact hc
  refine ⟨?_, hnegotiated⟩
  rw [plannedStream, streamResponse]
  dsimp only
  rw [hnegotiated]

end Dispatch

/-! ## The requests -/

/-- What a handler is given of a body: the stream of the ASGI server, over the events of
    its app server, or that of the WSGI server, over `wsgi.input`. -/
inductive Received (p : Platform) (cfg : ReaderConfig α) (body : Bytes)
    (stream : List α × Option Exc) : Prop where
  | asgi (events : List Event) (h : Splits events body)
      (hread : forEvents cfg (Reader.new none : Reader p) events = some stream)
  | wsgi (environ : Environ) (hdata : environ.wsgiInput.data = body)
      (htruthful : Truthful environ.contentLength body)
      (hread : forBody cfg (Reader.new none : Reader p) (.fromEnviron environ) = stream)

theorem received_streamOf {cfg : ReaderConfig α} {body : Bytes} {stream : List α × Option Exc}
    (h : Received p cfg body stream) : stream = streamOf p cfg body := by
  obtain ⟨hasgi, hwsgi⟩ := request_streams_agree p cfg body
  cases h with
  | asgi events h hread =>
      rw [hasgi events h] at hread
      exact (Option.some.inj hread).symm
  | wsgi environ hdata htruthful hread =>
      rw [← hread]
      exact hwsgi environ hdata htruthful

/-- **The requests arrive**, all of them and nothing behind them. -/
theorem received {w : EnvelopeWriter α} (hcodec : Codec.Lossless w.codec)
    (hcompression : ∀ c ∈ w.compression, Lossless c) {readMaxBytes : Option Int}
    {requests : List α}
    (hfits : ∀ m ∈ requests, ∀ data, w.codec.encode m = .ok data → Fits w readMaxBytes data)
    {body : Bytes} (hbody : w.writeAll requests = .ok body) {stream : List α × Option Exc}
    (h : Received p (w.reader readMaxBytes) body stream) : stream = (requests, none) := by
  obtain ⟨b, hb, hmessages⟩ : ∃ b, w.writeAll requests = .ok b
      ∧ Messages (w.reader readMaxBytes) requests b :=
    messages_writeAll hcodec hcompression requests hfits
  rw [hb] at hbody
  obtain rfl := Except.ok.inj hbody
  rw [received_streamOf h, streamOf, drain_start_messages hmessages]
  refine congrArg (Prod.mk requests) ?_
  exact checkEnded_clean (.inr (afterMessages_nextMessageLength _ requests _))

/-! ## The call -/

/-- The writer of the requests. -/
def requestWriter (client : Client α β) : EnvelopeWriter α :=
  ⟨client.requestCodec, client.sendCompression⟩

/-- The requests of a call, encoded in one piece, as the server reads them: with the
    client's codec, and with the compression that it has under the name. -/
structure Uploaded (p : Platform) (client : Client α β) (server : Compressions)
    (readMaxBytes : Option Int) (requests : List α) (stream : List α × Option Exc) : Prop where
  codec       : Codec.Lossless client.requestCodec
  compression : ∀ c ∈ client.sendCompression, Lossless c
  same        : server.get? (sends client) = some (client.sendCompression.getD .identity)
  fits        : ∀ m ∈ requests, ∀ data, client.requestCodec.encode m = .ok data →
    Fits (requestWriter client) readMaxBytes data
  received    : ∃ body, (requestWriter client).writeAll requests = .ok body
    ∧ ∀ c, server.get? (sends client) = some c →
      Received p ⟨client.requestCodec, c, readMaxBytes⟩ body stream

/-- **A REMOTE CALL IS THE CALL OF A FUNCTION.**  `function` is what the handler makes of
    the stream of its requests: the messages of its response, and its error if it raises
    one.  The client ends with what `function` makes of the requests that it was given:
    whichever server runs it, whatever compressions they settle on, and however the
    bytes are cut on the way there and back. -/
theorem remote_call (streamErrorCode : Exc → Option StreamErrorCode) (f : Flavor)
    {client : Client α β} {server : Compressions} {codecs : Dict String (Codec β)}
    (hs : Shared client server codecs) {userAgent : String} {call : Call p} {r : Request p}
    (hr : Reaches client userAgent call r) {readMaxBytes : Option Int} {requests : List α}
    {stream : List α × Option Exc} (hup : Uploaded p client server readMaxBytes requests stream)
    (function : List α × Option Exc → List β × Option Exc) {plan : Plan β}
    (hplan : plan = asgiPlan server codecs r ∨ plan = wsgiPlan server codecs r) {ctx : Ctx p}
    {reply : Reply} (hserved : ∀ st, plan = .stream st → st.requestCompression = .ok () →
      Served st ctx (function stream).1 (function stream).2 reply)
    (hintact : Intact client (plannedStream client server r) (function (requests, none)).1)
    (hreadable : Readable client.protocol (plannedStream client server r).writer
      client.readMaxBytes ctx.responseTrailers
      ((function (requests, none)).2.map ConnectWireError.fromException))
    {resp : Opened p} (hcarries : Carries reply resp) {input : Requests α}
    (hinput : input = .list requests ∨ input = .iterator) {x : Exchange p}
    (hopened : x.opened = .ok resp) (htime : isOver x.timeoutMs = false)
    (htimeAfter : isOver x.timeAfterBody = false) (current : Option (ResponseMetadata p)) :
    sendRequestBidiStream streamErrorCode f client input x current
      = ((function (requests, none)).1,
        ((function (requests, none)).2.map ConnectWireError.fromException).map
          (seen client.protocol)) := by
  -- There: the server plans the stream that was asked for, and reads the requests.
  obtain ⟨hasgi, hwsgi⟩ := dispatched hr hs
  have hplanned : plan = .stream (plannedStream client server r) := by
    rcases hplan with rfl | rfl
    · exact hasgi
    · exact hwsgi
  have htakes := (plannedStream_takes hr hs hup.same).1
  obtain ⟨body, hbody, hreceived⟩ := hup.received
  have hstream : stream = (requests, none) :=
    received hup.codec hup.compression hup.fits hbody (hreceived _ hup.same)
  subst hstream
  obtain ⟨content, hcontent⟩ : ∃ content, requestContent client input = .ok content := by
    rcases hinput with rfl | rfl
    · exact ⟨some body, congrArg (Except.map some) hbody⟩
    · exact ⟨none, rfl⟩
  -- And back: its reply can be read, and there is only one.
  have hserves := hserved _ hplanned htakes
  have hm := plannedStream_matches hr hs
  obtain ⟨said, hsaid⟩ := exists_saying hm hintact hreadable
  obtain rfl := served_saying hsaid htakes hserves
  exact sendRequestBidiStream_saying streamErrorCode f hm hintact hsaid hreadable hcarries hcontent
    hopened htime htimeAfter current

/-! ## A remote call for hats -/

/-- A gRPC stream of bytes in both directions, and its request. -/
def hatCall : Call hatPlatform where
  userHeaders := .none
  timeoutMs := none
  codecName := "raw"
  stream := true
  acceptCompression := acceptHeader rawClient.responseCompressions
  sendCompression := none

def hatRequest : Request hatPlatform where
  kind := .bidiStream
  idempotency := .unknown
  httpMethod := "POST"
  httpScheme := "http"
  headers := requestHeaders .grpc "grpc-python-connect" hatCall
  clientAddress := none
  encoding := none
  supportsTrailers := true

/-- A server of that codec that compresses nothing. -/
def hatCodecs : Dict String (Codec Bytes) := Dict.empty.insert "raw" .raw

theorem hats_resolved : Resolved rawClient.responseCompressions :=
  resolved_insert_identity fun _ _ h => by cases h

theorem hats_shared : Shared rawClient rawClient.responseCompressions hatCodecs where
  registered := rfl
  token := by decide
  notGrpc := by decide
  lowercase := by
    intro h
    cases h
  resolved := hats_resolved
  listable := by
    intro name hname
    obtain rfl : name = "identity" := List.mem_singleton.mp hname
    decide
  served := hats_resolved
  named := by decide
  meaning := by
    intro name c c' h h'
    exact Option.some.inj (h'.symm.trans h)

theorem hats_reach : Reaches rawClient "grpc-python-connect" hatCall hatRequest where
  codecName := rfl
  accept := rfl
  sends := rfl
  kind := by
    intro h
    cases h
  post := rfl
  trailers := fun _ => rfl
  arrives := fun _ _ => rfl
  accepted := ⟨_, rfl⟩

/-- The handler turns the requests round, and then has no more hats. -/
def hatFunction (stream : List Bytes × Option Exc) : List Bytes × Option Exc :=
  (stream.1.reverse, hatEnd)

theorem hats_uploaded : Uploaded hatPlatform rawClient rawClient.responseCompressions none
    [[7], []] (streamOf hatPlatform ⟨.raw, .identity, none⟩
      [0, 0, 0, 0, 1, 7, 0, 0, 0, 0, 0]) where
  codec := fun m => ⟨m, rfl, rfl⟩
  compression := by
    intro c hc
    cases hc
  same := rfl
  fits := (hats_intact (by decide)).fits
  received := by
    refine ⟨[0, 0, 0, 0, 1, 7, 0, 0, 0, 0, 0], rfl, ?_⟩
    rintro c ⟨⟩
    exact .asgi [.request (some [0, 0]) (some true),
      .request (some [0, 0, 1, 7, 0, 0, 0, 0, 0]) none] (.more (.last rfl []))
      ((request_streams_agree hatPlatform _ _).1 _ (.more (.last rfl [])))

/-- The only compression of the client. -/
theorem hats_compression :
    (plannedStream rawClient rawClient.responseCompressions hatRequest).compression = .identity := by
  have hget := (plannedStream_matches hats_reach hats_shared).compression
  have hname : (plannedStream rawClient rawClient.responseCompressions hatRequest).compression.name
      = "identity" := by
    have hmem := (Dict.contains_iff rawClient.responseCompressions _).mp
      (Option.isSome_iff_exists.mpr ⟨_, hget⟩)
    exact List.mem_singleton.mp hmem
  rw [hname] at hget
  exact (Option.some.inj hget).symm

theorem hats_writer : (plannedStream rawClient rawClient.responseCompressions hatRequest).writer
    = hatStream.writer :=
  congrArg (fun c => (⟨.raw, some c⟩ : EnvelopeWriter Bytes)) hats_compression

theorem hats_returned : Intact rawClient
    (plannedStream rawClient rawClient.responseCompressions hatRequest) [[], [7]] where
  codec := fun m => ⟨m, rfl, rfl⟩
  compression := hats_compression ▸ lossless_identity
  fits := by
    rw [hats_writer]
    exact (hats_intact (by decide)).fits

/-- Two hats there, two hats back, and the error, read byte by byte. -/
theorem remote_call_hats :
    ∃ reply, Served (plannedStream rawClient rawClient.responseCompressions hatRequest) hatCtx
        [[], [7]] hatEnd reply
      ∧ sendRequestBidiStream streamError .async rawClient (.list [[7], []])
          ⟨none, .ok (byteByByte reply), none, none⟩ none
        = ([[], [7]], some (.connectError noSuchHat)) := by
  have hreadable : Readable (α := Bytes) rawClient.protocol
      (plannedStream rawClient rawClient.responseCompressions hatRequest).writer
      rawClient.readMaxBytes hatCtx.responseTrailers (hatEnd.map ConnectWireError.fromException) :=
    hats_readable
  obtain ⟨reply, hsaid⟩ := exists_saying (plannedStream_matches hats_reach hats_shared)
    hats_returned hreadable
  have hfollows : Follows (plannedStream rawClient rawClient.responseCompressions hatRequest)
      [[], [7]] hatEnd := by
    refine ⟨(hats_follow []).exception, ?_⟩
    intro h
    cases h
  have hserved := served_script hfollows hsaid
    (plannedStream_takes hats_reach hats_shared hats_uploaded.same).1
  refine ⟨reply, hserved, ?_⟩
  have hstream : streamOf hatPlatform ⟨.raw, .identity, none⟩ [0, 0, 0, 0, 1, 7, 0, 0, 0, 0, 0]
      = ([[7], []], none) := by
    obtain ⟨body, hbody, hreceived⟩ := hats_uploaded.received
    exact received hats_uploaded.codec hats_uploaded.compression hats_uploaded.fits hbody
      (hreceived _ hats_uploaded.same)
  refine remote_call streamError .async hats_shared hats_reach hats_uploaded hatFunction
    (.inl rfl) ?_ hats_returned hreadable (carries_byteByByte reply) (.inl rfl) rfl
    rfl rfl none
  intro st hst _
  rw [(dispatched hats_reach hats_shared).1] at hst
  obtain rfl := Plan.stream.inj hst
  rw [hstream]
  exact hserved

end ConnectRemoteCall
