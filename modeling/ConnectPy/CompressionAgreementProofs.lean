import ConnectPy.DispatchProofs
import ConnectPy.WsgiRequestProofs

/-! # Compression negotiation always agrees

    Of a client that lists the compressions it accepts and names the one it sends
    in, and a server with compressions of its own: the server answers in the first
    compression of the list that it supports and declares it, the client resolves
    what is declared, the envelopes are flagged accordingly, and the request is
    read with the compression it was sent in or not at all (`negotiation_agrees`).

    Nothing is asked of the server's names.  Those of the client have to survive a
    list separated by commas. -/

namespace ConnectCompression

open Utf8 (Bytes)
open Framing OrderedDict Effect
open ConnectErrors ConnectPlatform ConnectHeaders ConnectWireErrors ConnectEnvelope ConnectWriter
open ConnectTrailersWire ConnectUnaryRequest ConnectClientRequest ConnectContentType
open ConnectNegotiation ConnectDispatch
open ConnectAsgi (Plan StreamResponse UnaryResponse)

variable {p : Platform} {α β ω : Type}

/-! ## The response -/

/-- The compression that a planned response is in. -/
def responseCompression : Plan α → Option Compression
  | .refused _ _ _ _ => none
  | .unary u => some u.compression
  | .stream st => some st.compression

/-- The headers of a planned response. -/
def responseHeaders (headers trailers : Headers p) : Plan α → List (String × String)
  | .refused _ _ _ _ => []
  | .unary u => unaryHeaders u.codec.name u.compression.name headers trailers
  | .stream st => streamHeaders st.protocol st.codec.name st.compression.name headers

/-- The endpoint that a request is for is the one the client calls. -/
structure Called (protocol : ClientProtocol) (stream : Bool) (r : Request p) : Prop where
  negotiated : negotiateServerProtocol r.contentType = serverProtocol protocol
  kind       : protocol = .connect → (stream = false ↔ r.kind = .unary)

theorem Called.unary {protocol : ClientProtocol} {stream : Bool} {r : Request p}
    (h : Called protocol stream r) (hconnect : negotiateServerProtocol r.contentType = .connect)
    (hkind : r.kind = .unary) : protocol = .connect ∧ stream = false := by
  have hprotocol : protocol = .connect := by
    have hnegotiated := h.negotiated
    rw [hconnect] at hnegotiated
    cases protocol with
    | connect => rfl
    | grpc => exact nomatch hnegotiated
    | grpcWeb => exact nomatch hnegotiated
  exact ⟨hprotocol, (h.kind hprotocol).mpr hkind⟩

/-- On the path of streams both sides use the same two headers. -/
theorem Called.stream {protocol : ClientProtocol} {stream : Bool} {r : Request p}
    (hcalled : Called protocol stream r)
    (h : ¬ (r.kind = .unary ∧ negotiateServerProtocol r.contentType = .connect)) :
    (negotiateServerProtocol r.contentType).compressionHeaderName
        = protocol.compressionHeader stream
      ∧ ConnectNegotiation.acceptCompressionHeader (negotiateServerProtocol r.contentType)
        = protocol.acceptCompressionHeader stream := by
  rw [hcalled.negotiated]
  cases protocol with
  | connect =>
      cases stream with
      | false => exact absurd ⟨(hcalled.kind rfl).mp rfl, hcalled.negotiated⟩ h
      | true => exact ⟨rfl, rfl⟩
  | grpc => exact ⟨rfl, rfl⟩
  | grpcWeb => exact ⟨rfl, rfl⟩

theorem contentType_ne (protocol : ClientProtocol) (stream : Bool) :
    p.lower "content-type" ≠ p.lower (protocol.compressionHeader stream) := by
  cases protocol <;> cases stream <;> exact lower_ne (by decide) (by decide) (by decide)

/-- Below the content type stands the compression, in the header the client reads. -/
theorem lookup_responseHeaders {protocol : ClientProtocol} {stream : Bool} {r : Request p}
    (hcalled : Called protocol stream r) {compressions : Compressions} {plan : Plan α}
    (hplan : Planned compressions r plan) {c : Compression}
    (hc : responseCompression plan = some c) (headers trailers : Headers p) :
    lookup (p.lower (protocol.compressionHeader stream))
      (onWire p (responseHeaders headers trailers plan)) = some c.name := by
  have hne : p.lower "content-type" ≠ p.lower (protocol.compressionHeader stream) :=
    contentType_ne protocol stream
  cases hplan with
  | refused q hasCtx e => exact nomatch hc
  | unary codec default hconnect hkind =>
      obtain ⟨rfl, rfl⟩ := hcalled.unary hconnect hkind
      obtain rfl := Option.some.inj hc
      exact (lookup_cons_ne hne _ _).trans (lookup_cons_self _ _ _)
  | stream codec h =>
      obtain rfl := Option.some.inj hc
      rw [← (hcalled.stream h).1] at hne ⊢
      exact (lookup_cons_ne hne _ _).trans (lookup_cons_self _ _ _)

/-- A planned response is in the compression that the accept header leads to. -/
theorem responseCompression_planned {protocol : ClientProtocol} {stream : Bool} {r : Request p}
    (hcalled : Called protocol stream r) {compressions : Compressions} {accept : String}
    (haccept : r.headers.get? (protocol.acceptCompressionHeader stream) = some accept)
    {plan : Plan α} (hplan : Planned compressions r plan) {c : Compression}
    (hc : responseCompression plan = some c) : c = negotiateCompression accept compressions := by
  cases hplan with
  | refused q hasCtx e => exact nomatch hc
  | unary codec default hconnect hkind =>
      obtain ⟨rfl, rfl⟩ := hcalled.unary hconnect hkind
      obtain rfl := Option.some.inj hc
      have hget : r.headers.get? "accept-encoding" = some accept := haccept
      rw [hget]
      rfl
  | stream codec h =>
      obtain rfl := Option.some.inj hc
      show negotiateCompression ((r.headers.get? (ConnectNegotiation.acceptCompressionHeader
        (negotiateServerProtocol r.contentType))).getD "") compressions = _
      rw [(hcalled.stream h).2, haccept]
      rfl

/-! ## The compressed bit -/

/-- An envelope of a writer: a message, or the end of its stream. -/
inductive Written (p : Platform) (w : EnvelopeWriter α) : Bytes → Prop where
  | message {m : α} {b : Bytes} (h : w.write m = .ok b) : Written p w b
  | connectEnd {t : Headers p} {error : Option ConnectWireError} {b : Bytes}
      (h : connectEnd w t error = .ok b) : Written p w b
  | webEnd {t : Headers p} {error : Option ConnectWireError} {b : Bytes}
      (h : webEnd w t error = .ok b) : Written p w b

theorem flagOf_frame {w : EnvelopeWriter α} {flags : UInt8} {data b : Bytes}
    (h : w.frame flags data = .ok b) : flagOf b = flags := by
  rw [EnvelopeWriter.frame] at h
  split at h
  · cases h
  · rw [pack] at h
    split at h
    · injection h with h
      exact h ▸ rfl
    · cases h

/-- The lowest bit of every envelope is that of the writer. -/
theorem Written.bit {w : EnvelopeWriter α} {b : Bytes} (h : Written p w b) :
    flagOf b &&& 0b01 = w.prefixByte := by
  cases h with
  | @message m b h =>
      rw [EnvelopeWriter.write] at h
      split at h
      · cases h
      · rw [flagOf_frame h]
        rcases prefixByte_cases w with hw | hw <;> rw [hw] <;> rfl
  | connectEnd h =>
      rw [flagOf_frame h]
      rcases prefixByte_cases w with hw | hw <;> rw [hw] <;> rfl
  | webEnd h =>
      rw [flagOf_frame h]
      rcases prefixByte_cases w with hw | hw <;> rw [hw] <;> rfl

/-- **The bit is set** exactly when the writer has a compression other than the
    identity. -/
theorem Written.bit_iff {codec : Codec α} {c : Compression} {b : Bytes}
    (h : Written p ⟨codec, some c⟩ b) : flagOf b &&& 0b01 ≠ 0 ↔ c.isIdentity = false := by
  rw [h.bit, EnvelopeWriter.prefixByte]
  dsimp only
  cases c.isIdentity with
  | false => exact iff_of_true (by decide) rfl
  | true => exact iff_of_false (by decide) (by decide)

/-- A reader with such a compression has no use for its error about compressed
    messages without compression. -/
theorem messageContents_supported {cfg : ReaderConfig α} {flags : UInt8}
    (h : flags &&& 0b01 ≠ 0 → cfg.compression.isIdentity = false) (data : Bytes) :
    messageContents cfg flags data
      = if flags &&& 0b01 = 0 ∨ data = [] then .ok data
        else decompress cfg.compression data cfg.readMaxBytes := by
  rw [messageContents]
  by_cases hflags : flags &&& 0b01 = 0
  · rw [if_pos hflags, if_pos (Or.inl hflags)]
  · rw [if_neg hflags, h hflags, if_neg Bool.false_ne_true]
    by_cases hdata : data = []
    · rw [if_pos hdata, if_pos (Or.inr hdata)]
    · rw [if_neg hdata, if_neg (not_or.mpr ⟨hflags, hdata⟩)]

/-! ## The request -/

/-- Use the compression of a name, or refuse the request. -/
def withNamed (compressions : Compressions) (name : String) (use : Compression → Except Exc β) :
    Except Exc β :=
  match compressions.get? name with
  | none => .error (unknownCompressionError name compressions)
  | some c => use c

/-- Decompress what is not empty with one compression, and decode. -/
def decodeWith (codec : Codec α) (readMaxBytes : Option Int) (body : Bytes) (c : Compression) :
    Except Exc α :=
  match (if body = [] then .ok body else decompress c body readMaxBytes) with
  | .error e => .error e
  | .ok body => decodeMessage codec body

theorem decodeBody_named (codec : Codec α) (compressions : Compressions)
    (readMaxBytes : Option Int) (name : String) (body : Bytes) :
    Server.decodeBody ⟨codec, compressions, readMaxBytes⟩ name body
      = withNamed compressions name (decodeWith codec readMaxBytes body) := rfl

theorem orIdentity_some {name : String} (h : name ≠ "") : orIdentity (some name) = name :=
  if_neg h

/-- Reading a unary request and calling its handler, in `_call_unary` and in
    `_handle_unary`. -/
def callUnary (request : Option (Except Exc α)) (function : α → Prog ω Exc β) :
    Prog ω Exc β :=
  match request with
  | none => Prog.stuck
  | some request => Prog.ofExcept request >>= function

/-- A body within the limit is decoded with the compression that its header names. -/
theorem readPostRequest_named {codec : Codec α} {compressions : Compressions}
    {readMaxBytes : Option Int} {events : List Event} {body : Bytes} (hbody : Splits events body)
    (hlimit : tooLarge body.length readMaxBytes = none) {headers : Headers p} {name : String}
    (hname : name ≠ "") (hheader : headers.get? "content-encoding" = some name) :
    readPostRequest ⟨codec, compressions, readMaxBytes⟩ events headers
      = some (withNamed compressions name (decodeWith codec readMaxBytes body)) := by
  rcases readChunks_spec hbody readMaxBytes [] 0 with ⟨e, hlarge, -⟩ | ⟨-, more, hmore, hread⟩
  · rw [Nat.zero_add, hlimit] at hlarge
    exact nomatch hlarge
  · rw [readPostRequest, hread, hheader, orIdentity_some hname, ← decodeBody_named, ← hmore]
    rfl

theorem handlePostRequest_named {codec : Codec α} {compressions : Compressions}
    {readMaxBytes : Option Int} {environ : Environ}
    (htruth : Truthful environ.contentLength environ.wsgiInput.data)
    (hlimit : tooLarge environ.wsgiInput.data.length readMaxBytes = none) {name : String}
    (hname : name ≠ "") (hheader : environ.httpContentEncoding = some name) :
    handlePostRequest ⟨codec, compressions, readMaxBytes⟩ environ
      = orInternal (withNamed compressions name
          (decodeWith codec readMaxBytes environ.wsgiInput.data)) := by
  have hempty : environ.wsgiInput.data = [] → tooLarge 0 readMaxBytes = none := by
    intro hnil
    rw [hnil] at hlimit
    exact hlimit
  rw [handlePostRequest, readPostBody_spec htruth hempty, hlimit, hheader, orIdentity_some hname,
    ← decodeBody_named]

theorem readGetRequest_named {codec : Codec α} {compressions : Compressions}
    {readMaxBytes : Option Int} {params : Multimap String String} {message : String}
    {data : Bytes} (hmessage : Multimap.first? params "message" = some message)
    (hdata : messageParameter params message = .ok data) {name : String} (hname : name ≠ "")
    (hparam : Multimap.first? params "compression" = some name) :
    readGetRequest ⟨codec, compressions, readMaxBytes⟩ params
      = withNamed compressions name (decodeWith codec readMaxBytes data) := by
  rw [readGetRequest, hmessage]
  dsimp only
  rw [hdata, hparam, orIdentity_some hname, ← decodeBody_named]

/-- A stream's request compression is the one its header names. -/
theorem streamResponse_named (compressions : Compressions) (protocol : ServerProtocol)
    (codec : Codec α) {r : Request p} {name : String} (hname : name ≠ "")
    (hheader : r.headers.get? protocol.compressionHeaderName = some name) :
    (streamResponse compressions protocol codec r).requestCompression
        = withNamed compressions name (fun _ => .ok ())
      ∧ (negotiateStreamCompression protocol r.headers compressions).1
        = compressions.get? name := by
  have hget : (negotiateStreamCompression protocol r.headers compressions).1
      = compressions.get? name := by
    rw [negotiateStreamCompression, hheader, orIdentity_some hname]
  refine ⟨?_, hget⟩
  rw [streamResponse, withNamed]
  dsimp only
  rw [hget, hheader]
  cases compressions.get? name <;> rfl

/-- A stream that is refused for its compression never gets to its handler. -/
theorem serve_refused {ι τ : Type} (env : ConnectAsgi.Env p ω ι τ α) {st : StreamResponse α}
    {e : Exc} (h : st.requestCompression = .error e) (n : Nat) :
    ConnectAsgi.serve env (.stream st) n
      = (do
          ConnectAsgi.startRun env
          Prog.raise e) := by
  rw [ConnectAsgi.serve, h]
  rfl

theorem streamBody_refused {ι τ : Type} (app : ConnectWsgi.App p ω ι τ α)
    {st : StreamResponse α} {e : Exc} (h : st.requestCompression = .error e) :
    ConnectWsgi.streamBody app st
      = (do
          ConnectWsgi.startRun app
          Prog.raise e) := by
  rw [ConnectWsgi.streamBody, h]
  rfl

/-! ## Agreement -/

/-- A planned response in a compression: the first of the client's list that the
    server has, which the client resolves and reads with. -/
structure ResponseAgrees (p : Platform) (client server : Compressions)
    (protocol : ClientProtocol) (stream : Bool) (plan : Plan α) (c : Compression) : Prop where
  first : ∃ name ∈ client.keys, client.keys.find? server.contains = some name
    ∧ server.get? name = some c ∧ c.name = name
  resolved : ∀ (headers trailers : Headers p) (h : p.HTTPHeaders),
    p.Delivers (onWire p (responseHeaders headers trailers plan)) h →
    ∃ c', handleResponseCompression protocol stream h client = .ok c' ∧ c'.name = c.name
      ∧ ∀ st, plan = .stream st → ∀ b, Written p st.writer b →
        (flagOf b &&& 0b01 ≠ 0 ↔ c.name ≠ "identity")
        ∧ ∀ (codec : Codec α) (readMaxBytes : Option Int) (data : Bytes),
          messageContents ⟨codec, c', readMaxBytes⟩ (flagOf b) data
            = if flagOf b &&& 0b01 = 0 ∨ data = [] then .ok data
              else decompress c' data readMaxBytes

/-- A request in a compression of some name: it is decoded with the compression the
    server has under it, and where there is none it is refused before its handler.  With
    a POST request the headers of the client arrive and name the compression, with a GET
    request the query does. -/
structure RequestAgrees (server : Compressions) (name : String) (protocol : ClientProtocol)
    (stream : Bool) (client : Headers p) (r : Request p) : Prop where
  named : ∀ c, server.get? name = some c → c.name = name
  post : Arrives protocol stream client r.headers → protocol = .connect → stream = false →
    ∀ {α : Type} (codec : Codec α) (readMaxBytes : Option Int) (body : Bytes),
    tooLarge body.length readMaxBytes = none →
    (∀ events, Splits events body →
      readPostRequest ⟨codec, server, readMaxBytes⟩ events r.headers
        = some (withNamed server name (decodeWith codec readMaxBytes body)))
    ∧ ∀ environ : Environ, environ.wsgiInput.data = body → Truthful environ.contentLength body →
      environ.httpContentEncoding = r.headers.get? "content-encoding" →
      handlePostRequest ⟨codec, server, readMaxBytes⟩ environ
        = orInternal (withNamed server name (decodeWith codec readMaxBytes body))
  query : protocol = .connect → stream = false → ∀ (codecName : String) (requestData : Bytes),
    Multimap.first? (Multimap.ofItems (prepareGetParams codecName requestData
      (Multimap.ofItems client.allitems)).1) "compression" = some name
  get : ∀ {α : Type} (codec : Codec α) (readMaxBytes : Option Int)
    (params : Multimap String String) (message : String) (data : Bytes),
    Multimap.first? params "message" = some message → messageParameter params message = .ok data →
    Multimap.first? params "compression" = some name →
    readGetRequest ⟨codec, server, readMaxBytes⟩ params
        = withNamed server name (decodeWith codec readMaxBytes data)
      ∧ handleGetRequest ⟨codec, server, readMaxBytes⟩ params
        = orInternal (withNamed server name (decodeWith codec readMaxBytes data))
  stream : Arrives protocol stream client r.headers →
    ∀ {α : Type} (plan : Plan α), Planned server r plan → ∀ st, plan = .stream st →
    (negotiateStreamCompression st.protocol r.headers server).1 = server.get? name
      ∧ st.requestCompression = withNamed server name fun _ => .ok ()
  unary_refused : server.get? name = none → ∀ {α β ω : Type} (use : Compression → Except Exc α)
    (function : α → Prog ω Exc β),
    callUnary (some (withNamed server name use)) function
        = Prog.raise (unknownCompressionError name server)
      ∧ callUnary (some (orInternal (withNamed server name use))) function
        = Prog.raise (unknownCompressionError name server)
  stream_refused : server.get? name = none → ∀ {α ω ι τ : Type} (st : StreamResponse α),
    st.requestCompression = withNamed server name (fun _ => .ok ()) →
    (∀ (env : ConnectAsgi.Env p ω ι τ α) (n : Nat), ConnectAsgi.serve env (.stream st) n
      = (do
          ConnectAsgi.startRun env
          Prog.raise (unknownCompressionError name server)))
    ∧ ∀ app : ConnectWsgi.App p ω ι τ α, ConnectWsgi.streamBody app st
      = (do
          ConnectWsgi.startRun app
          Prog.raise (unknownCompressionError name server))

section Agreement

variable {protocol : ClientProtocol} {stream : Bool} {r : Request p}

theorem response_agrees {client server : Compressions} (hclient : Resolved client)
    (hlist : Listable client.keys) (hserver : Resolved server)
    (hcalled : Called protocol stream r)
    (haccept : r.headers.get? (protocol.acceptCompressionHeader stream)
      = some (acceptHeader client))
    {plan : Plan α} (hplan : Planned server r plan) {c : Compression}
    (hc : responseCompression plan = some c) :
    ResponseAgrees p client server protocol stream plan c := by
  obtain rfl := responseCompression_planned hcalled haccept hplan hc
  obtain ⟨name, hname, hfind, hget, hcname⟩ :=
    negotiateCompression_accepted hclient hlist hserver
  refine ⟨⟨name, hname, hfind, hget, hcname⟩, ?_⟩
  intro headers trailers h hdelivers
  have hheader : p.getHeader h (protocol.compressionHeader stream) = some name := by
    rw [p.getHeader_of_delivers hdelivers, lookup_responseHeaders hcalled hplan hc, hcname]
  obtain ⟨c', hresolved, hc'name, hc'iff⟩ :=
    handleResponseCompression_declared hclient hlist hname hheader
  refine ⟨c', hresolved, hc'name.trans hcname.symm, ?_⟩
  rintro st rfl b hb
  have hst : st.compression = negotiateCompression (acceptHeader client) server :=
    Option.some.inj hc
  have hbit : flagOf b &&& 0b01 ≠ 0 ↔ name ≠ "identity" := by
    have hiff := hb.bit_iff
    rw [hiff, hst, ← Bool.not_eq_true, hserver.isIdentity_iff hget]
  refine ⟨by rw [hbit, hcname], ?_⟩
  intro codec readMaxBytes data
  refine messageContents_supported ?_ data
  intro hflag
  have hne := hbit.mp hflag
  rw [← Bool.not_eq_true]
  exact fun hi => hne (hc'iff.mp hi)

theorem request_agrees {server : Compressions} (hserver : Resolved server) (userAgent : String)
    {call : Call p} {send : Compression} (hcall : call.sendCompression = some send)
    (hname : send.name ≠ "") (hcalled : Called protocol call.stream r) :
    RequestAgrees server send.name protocol call.stream
      (requestHeaders protocol userAgent call) r where
  named := fun c hc => hserver.name hc
  post := by
    rintro harrives rfl hunary α codec readMaxBytes body hlimit
    -- By POST the name is in the header of a unary request.
    have hheader : r.headers.get? "content-encoding" = some send.name := by
      have hsent := harrives.compression
      rw [hunary, hcall] at hsent
      exact hsent
    refine ⟨fun events hbody => readPostRequest_named hbody hlimit hname hheader, ?_⟩
    rintro environ rfl htruth hencoding
    exact handlePostRequest_named htruth hlimit hname (hencoding.trans hheader)
  query := by
    rintro rfl hunary codecName requestData
    exact first?_compression userAgent hunary hcall codecName requestData
  get := by
    intro α codec readMaxBytes params message data hmessage hdata hparam
    -- By GET it is among the parameters, and the header is not read.
    have hread : readGetRequest ⟨codec, server, readMaxBytes⟩ params = _ :=
      readGetRequest_named hmessage hdata hname hparam
    exact ⟨hread, congrArg orInternal hread⟩
  stream := by
    intro harrives α plan hplan st hst
    -- A stream has its name in a header of its own protocol.
    have hheader := harrives.compression
    rw [hcall] at hheader
    cases hplan with
    | refused q hasCtx e => exact nomatch hst
    | unary codec default hconnect hkind => exact nomatch hst
    | stream codec h =>
        injection hst with hst
        subst hst
        have hnamed := streamResponse_named server (negotiateServerProtocol r.contentType) codec
          hname (by rw [(hcalled.stream h).1]; exact hheader)
        exact ⟨hnamed.2, hnamed.1⟩
  unary_refused := by
    intro hnone α β ω use function
    rw [withNamed, hnone]
    exact ⟨rfl, rfl⟩
  stream_refused := by
    intro hnone α ω ι τ st hst
    rw [withNamed, hnone] at hst
    exact ⟨fun env n => serve_refused env hst n, fun app => streamBody_refused app hst⟩

end Agreement

/-- **Compression negotiation always agrees.**  For every client, by the compressions
    it accepts and the one it sends in, every server, every protocol and kind of
    call, by POST or by GET, and both servers' plans for the request: the response and
    the request.  Of the headers the response depends on the accepted ones only. -/
theorem negotiation_agrees {gzip gzip' : Compression} (hgzip : gzip.name = "gzip")
    (hgzip' : gzip'.name = "gzip") (accept supported : Option (List Compression))
    (hlistable : ∀ cs ∈ accept, Listable (cs.map Compression.name)) (send : Compression)
    (hsend : send.name ≠ "") (protocol : ClientProtocol) (userAgent : String) (call : Call p)
    (haccept : call.acceptCompression = acceptHeader (resolveCompressions gzip accept))
    (hcall : call.sendCompression = some send) (r : Request p)
    (harrives : r.headers.get? (protocol.acceptCompressionHeader call.stream)
      = (requestHeaders protocol userAgent call).get?
          (protocol.acceptCompressionHeader call.stream))
    (hcalled : Called protocol call.stream r) :
    (∀ (codecs : Dict String (Codec α)) (plan : Plan α),
      plan = asgiPlan (resolveCompressions gzip' supported) codecs r
        ∨ plan = wsgiPlan (resolveCompressions gzip' supported) codecs r →
      ∀ c, responseCompression plan = some c →
        ResponseAgrees p (resolveCompressions gzip accept) (resolveCompressions gzip' supported)
          protocol call.stream plan c)
    ∧ RequestAgrees (resolveCompressions gzip' supported) send.name protocol call.stream
        (requestHeaders protocol userAgent call) r := by
  have hclient := resolved_resolveCompressions hgzip accept
  have hserver := resolved_resolveCompressions hgzip' supported
  have hlist : Listable (resolveCompressions gzip _).keys :=
    listable_resolveCompressions hlistable
  refine ⟨?_, request_agrees hserver userAgent hcall hsend hcalled⟩
  intro codecs plan hplan c hc
  have hplanned : Planned (resolveCompressions gzip' supported) r plan := by
    rcases hplan with rfl | rfl
    · exact planned_asgiPlan _ codecs r
    · exact planned_wsgiPlan _ codecs r
  have hheader := harrives.trans (requestHeaders_accept protocol userAgent call)
  exact response_agrees hclient hlist hserver hcalled (by rw [hheader, haccept]) hplanned hc

/-- A compression named `gzip` that does nothing. -/
def plainGzip : Compression := .custom ⟨"gzip", .ok, fun data _ => .ok data⟩

/-- A call in it of a client that also accepts it. -/
def gzipCall (stream : Bool) : Call Platform.plain where
  userHeaders := .none
  timeoutMs := none
  codecName := "raw"
  stream := stream
  acceptCompression := acceptHeader (resolveCompressions plainGzip none)
  sendCompression := some plainGzip

/-- The request that a gRPC stream arrives as. -/
def gzipRequest : Request Platform.plain where
  kind := .bidiStream
  idempotency := .unknown
  httpMethod := "POST"
  httpScheme := "http"
  headers := requestHeaders .grpc "grpc-python-connect" (gzipCall true)
  clientAddress := none
  encoding := none
  supportsTrailers := true

/-- A unary call by GET, of whose headers the server has the accepted compressions. -/
def gzipGet : Request Platform.plain where
  kind := .unary
  idempotency := .noSideEffects
  httpMethod := "GET"
  httpScheme := "http"
  headers := (Headers.empty Platform.plain).setItem "accept-encoding"
    (acceptHeader (resolveCompressions plainGzip none))
  clientAddress := none
  encoding := some "raw"
  supportsTrailers := true

theorem gzipRequest_called : Called .grpc true gzipRequest := by
  refine ⟨?_, nofun⟩
  have hcontent : gzipRequest.contentType = "application/grpc+" ++ "raw" := by
    show ((requestHeaders .grpc "grpc-python-connect" (gzipCall true)).get? "content-type").getD ""
      = _
    rw [requestHeaders_contentType]
    rfl
  rw [hcontent]
  exact negotiateServerProtocol_grpc "raw"

theorem gzipGet_called : Called .connect false gzipGet := by
  refine ⟨rfl, ?_⟩
  intro _
  exact iff_of_true rfl rfl

/-- The codecs of a server of bytes. -/
def rawCodecs : Dict String (Codec Bytes) := Dict.empty.insert "raw" Codec.raw

/-- A server without compressions answers the stream in identity and refuses what is in
    gzip; one that has gzip answers the GET request in it. -/
theorem negotiation_agrees_gzip :
    (ResponseAgrees Platform.plain (resolveCompressions plainGzip none)
        (resolveCompressions plainGzip (some [])) .grpc true
        (asgiPlan (resolveCompressions plainGzip (some [])) rawCodecs gzipRequest) .identity
      ∧ RequestAgrees (resolveCompressions plainGzip (some [])) "gzip" .grpc true
          (requestHeaders .grpc "grpc-python-connect" (gzipCall true)) gzipRequest)
    ∧ ResponseAgrees Platform.plain (resolveCompressions plainGzip none)
        (resolveCompressions plainGzip none) .connect false
        (wsgiPlan (resolveCompressions plainGzip none) rawCodecs gzipGet) plainGzip
      ∧ RequestAgrees (resolveCompressions plainGzip none) "gzip" .connect false
          (requestHeaders .connect "connectrpc" (gzipCall false)) gzipGet := by
  have haccept : gzipGet.headers.get? "accept-encoding"
      = (requestHeaders .connect "connectrpc" (gzipCall false)).get? "accept-encoding" :=
    (Headers.get?_setItem_self _ _ _).trans
      (requestHeaders_accept .connect "connectrpc" (gzipCall false)).symm
  have hgzip : plainGzip.name = "gzip" := rfl
  have hstream := negotiation_agrees (α := Bytes) hgzip hgzip
    none (some []) nofun plainGzip (by decide) .grpc "grpc-python-connect" (gzipCall true) rfl rfl
    gzipRequest rfl gzipRequest_called
  have hget := negotiation_agrees (α := Bytes) hgzip hgzip
    none none nofun plainGzip (by decide) .connect "connectrpc" (gzipCall false) rfl rfl
    gzipGet haccept gzipGet_called
  refine ⟨⟨?_, hstream.2⟩, ?_, hget.2⟩
  · exact hstream.1 rawCodecs _ (Or.inl rfl) _ rfl
  · exact hget.1 rawCodecs _ (Or.inr rfl) _ rfl

end ConnectCompression
