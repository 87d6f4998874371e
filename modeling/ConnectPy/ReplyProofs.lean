import ConnectPy.ClientCallProofs
import ConnectPy.CompressionAgreementProofs

/-! # Replies — between a server and a client

    An HTTP response as a whole: a status, headers, a body and trailers.  Both servers
    come to such a reply, each in its own way of handing it to an app server, and a
    client makes messages and an error of it.

    `Says` is what a stream of messages that ends in some way comes to in each of the
    three protocols.  A client that is handed such a reply, over any chunks, yields the
    messages and ends as the stream did (`sendRequestBidiStream_saying`). -/

namespace ConnectReply

open Utf8 (Bytes)
open Framing Resumable OrderedDict
open ConnectErrors ConnectPlatform ConnectHeaders ConnectWireErrors ConnectGrpcStatus
open ConnectEnvelope ConnectGrammar ConnectEndMessage ConnectWriter ConnectStatusWire
open ConnectTrailersWire ConnectClientRequest ConnectContentType ConnectNegotiation ConnectClient
open ConnectAsgi (Ctx EndpointKind StreamResponse)

variable {p : Platform} {α β : Type}

/-! ## Replies -/

/-- A whole HTTP response. -/
structure Reply where
  status   : Nat
  headers  : List (String × String)
  body     : Bytes
  trailers : List (String × String)

/-- What a stream puts behind its messages: the end of its body, or trailers. -/
def streamReply (st : StreamResponse α) (ctx : Ctx p) (messages : Bytes)
    (ending : Bytes ⊕ Headers p) : Reply where
  status := 200
  headers := streamHeaders st.protocol st.codec.name st.compression.name ctx.responseHeaders
  body := messages ++ ending.elim id fun _ => []
  trailers := ending.elim (fun _ => []) Headers.allitems

/-- What a handler's stream of messages, ended by an error or not, comes to. -/
inductive Says (st : StreamResponse α) (ctx : Ctx p) (ms : List α) (error : Option Exc) :
    Reply → Prop where
  | intro {messages : Bytes} {ending : Bytes ⊕ Headers p}
      (hmessages : st.writer.writeAll ms = .ok messages)
      (hending : st.writerEnd ctx.responseTrailers (error.map ConnectWireError.fromException)
        = .ok ending) :
      Says st ctx ms error (streamReply st ctx messages ending)

/-- The HTTP layer hands a reply over as it is, in any chunks, and nothing breaks off. -/
structure Carries (reply : Reply) (resp : Opened p) : Prop where
  status   : resp.status = reply.status
  headers  : p.Delivers (onWire p reply.headers) resp.headers
  body     : resp.chunks.flatten = reply.body
  trailers : p.Delivers reply.trailers resp.trailers
  unbroken : resp.broken = none
  exit     : ∀ e, resp.exit e = e

/-! ## The error of the end -/

/-- The details of an error as they come out of its encoding. -/
def seenDetail : ClientProtocol → ErrorDetail → ErrorDetail
  | .connect => ConnectWireErrors.received
  | .grpc => carried
  | .grpcWeb => carried

/-- What a client raises for an error that the server wrote. -/
def seen (q : ClientProtocol) (e : ConnectWireError) : Exc :=
  .connectError ⟨e.code, e.message, e.details.map (seenDetail q)⟩

/-- What an end of a stream asks of its encodings: that they are undone, and that it
    fits into a frame.  The handler's trailers must not pass for a status of gRPC. -/
def Readable (q : ClientProtocol) (w : EnvelopeWriter α) (readMaxBytes : Option Int)
    (t : Headers p) (outcome : Option ConnectWireError) : Prop :=
  match q with
  | .connect => Fits w readMaxBytes (endMessageData t outcome)
      ∧ p.jsonLoads (endMessageData t outcome) = .ok (endMessage t outcome)
  | .grpc => ∀ e, outcome = some e → Unreserved t ∧ StatusCodec p e
  | .grpcWeb => Clean t ∧ Fits w readMaxBytes (trailerData t outcome)
      ∧ ∀ e, outcome = some e → Unreserved t ∧ StatusCodec p e

/-- **A status that was shown is raised**, rendered in any way that keeps the server's
    own texts: the three names of the status are all that matters. -/
theorem raiseStatus_rendered {h : p.HTTPHeaders} {t : Headers p} {e : ConnectWireError}
    {render : String → String} (hr : KeepsStatus render) (hs : Shows h t (some e) render)
    (ht : Unreserved t) (hcodec : StatusCodec p e) :
    raiseStatus h (connectStatusToGrpc e.code) none
      = some (.connectError ⟨e.code, e.message, e.details.map carried⟩) := by
  -- Without user trailers the status can be delivered as it is.
  obtain ⟨h', hd'⟩ := delivers_of_clean (p := p) clean_empty (some e)
  have hs' := shows_of_delivers hd'
  have hempty : Unreserved (Headers.empty p) := ⟨rfl, rfl⟩
  refine Eq.trans (raiseStatus_congr _ none ?_ ?_) (raiseStatus_shows hs' hempty hcodec)
  · rw [hs.message, hs'.message, ht.1, hempty.1, Option.map_id, id]
    split
    · exact congrArg some (hr.quote e.message)
    · rfl
  · rw [hs.details, hs'.details, ht.2, hempty.2, Option.map_id, id]
    split
    · rfl
    · exact congrArg some (hr.base64 _)

/-- The outcome of a completed gRPC response whose status is shown. -/
theorem handleGrpcComplete_shown {q : ClientProtocol} (hq : q ≠ .connect) {h : p.HTTPHeaders}
    {t : Headers p} {outcome : Option ConnectWireError} {render : String → String}
    (hr : KeepsStatus render) (hs : Shows h t outcome render)
    (he : ∀ e, outcome = some e → Unreserved t ∧ StatusCodec p e) (r : Reader p)
    (headers : p.HTTPHeaders) :
    (handleGrpcComplete r h headers none).2 = outcome.map (seen q) := by
  rw [handleGrpcComplete_some r (hs.status hr)]
  cases outcome with
  | none => exact raiseStatus_zero h none
  | some e =>
      obtain ⟨ht, hcodec⟩ := he e rfl
      refine (raiseStatus_rendered hr hs ht hcodec).trans ?_
      cases q with
      | connect => exact absurd rfl hq
      | grpc => rfl
      | grpcWeb => rfl

/-! ## Reading a stream -/

section Reading

variable {w : EnvelopeWriter α} {readMaxBytes : Option Int} {ms : List α} {body : Bytes}

/-- A whole Connect stream, read. -/
theorem readResponse_connect (hw : ∀ c ∈ w.compression, Lossless c)
    (hms : Messages (w.reader readMaxBytes) ms body) {t : Headers p}
    {outcome : Option ConnectWireError} (hread : Readable .connect w readMaxBytes t outcome)
    {last : Bytes} (hlast : connectEnd w t outcome = .ok last)
    (current : Option (ResponseMetadata p)) (response : Response p) {chunks : List Bytes}
    (hchunks : chunks.flatten = body ++ last) :
    (readResponse .connect (w.reader readMaxBytes) (Reader.new current) response chunks).messages
        = ms
      ∧ (readResponse .connect (w.reader readMaxBytes) (Reader.new current) response chunks).error
        = outcome.map (seen .connect) := by
  obtain ⟨f, hf, hlegal, hx, hframe⟩ := handleFrame_connectEnd hw hread.1 hread.2
    (afterMessages .connect (start current) ms)
  obtain rfl : f.bytes = last := Except.ok.inj (hf.symm.trans hlast)
  have hdrain := drain_start_frame hms hlegal hx current
  rw [hframe, ← hchunks] at hdrain
  cases outcome with
  | none =>
      have hblock := withBlock_of_drain hdrain (Or.inl rfl)
      rw [readResponse, hblock]
      exact ⟨rfl, rfl⟩
  | some e =>
      have hblock := withBlock_of_drain_error hdrain
      rw [readResponse, hblock]
      exact ⟨rfl, rfl⟩

/-- A whole gRPC stream, read. -/
theorem readResponse_grpc (hms : Messages (w.reader readMaxBytes) ms body) {t : Headers p}
    {outcome : Option ConnectWireError} (hread : Readable .grpc w readMaxBytes t outcome)
    (current : Option (ResponseMetadata p)) {response : Response p}
    (hd : p.Delivers (grpcEnd t outcome).allitems response.trailers) {chunks : List Bytes}
    (hchunks : chunks.flatten = body) :
    (readResponse .grpc (w.reader readMaxBytes) (Reader.new current) response chunks).messages = ms
      ∧ (readResponse .grpc (w.reader readMaxBytes) (Reader.new current) response chunks).error
        = outcome.map (seen .grpc) := by
  have hblock : withBlock .grpc (w.reader readMaxBytes) (Reader.new current) chunks
      = ⟨ms, ⟨afterMessages .grpc (start current) ms, []⟩, none⟩ := by
    refine withBlock_of_drain ?_ (Or.inr (afterMessages_nextMessageLength .grpc ms _))
    rw [hchunks]
    exact drain_start_messages hms current
  rw [readResponse, hblock]
  exact ⟨rfl, handleGrpcComplete_shown (q := .grpc) (by decide) keepsStatus_id
    (shows_of_delivers hd) hread _ _⟩

/-- A whole gRPC-Web stream, read. -/
theorem readResponse_grpcWeb (hw : ∀ c ∈ w.compression, Lossless c)
    (hms : Messages (w.reader readMaxBytes) ms body) {t : Headers p}
    {outcome : Option ConnectWireError} (hread : Readable .grpcWeb w readMaxBytes t outcome)
    {last : Bytes} (hlast : webEnd w t outcome = .ok last)
    (current : Option (ResponseMetadata p)) (response : Response p) {chunks : List Bytes}
    (hchunks : chunks.flatten = body ++ last) :
    (readResponse .grpcWeb (w.reader readMaxBytes) (Reader.new current) response chunks).messages
        = ms
      ∧ (readResponse .grpcWeb (w.reader readMaxBytes) (Reader.new current) response chunks).error
        = outcome.map (seen .grpcWeb) := by
  obtain ⟨hclean, hfits, hstatus⟩ := hread
  obtain ⟨f, trailers, hf, hlegal, hx, hframe, hcontent⟩ := handleFrame_lines hw
    (statusTrailers_clean hclean outcome) hfits (afterMessages .grpcWeb (start current) ms)
  obtain rfl : f.bytes = last := Except.ok.inj (hf.symm.trans hlast)
  -- No trailer was read before the end of the stream.
  have hempty : p.content (afterMessages .grpcWeb (start current) ms).trailers = Dict.empty := by
    rw [afterMessages_trailers]
    exact p.content_empty
  rw [hempty] at hcontent
  have hdrain := drain_start_frame hms hlegal hx current
  rw [hframe, ← hchunks] at hdrain
  have hblock := withBlock_of_drain hdrain (Or.inl rfl)
  rw [readResponse, hblock]
  exact ⟨rfl, handleGrpcComplete_shown (q := .grpcWeb) (by decide) keepsStatus_readValue
    (shows_of_lines hcontent) hstatus _ _⟩

end Reading

/-! ## Reading it as a client -/

/-- The client speaks the protocol of the stream, has its codec, and resolves its
    compression. -/
structure Matches (client : Client β α) (st : StreamResponse α) : Prop where
  protocol    : st.protocol = serverProtocol client.protocol
  codec       : client.codec = st.codec
  compression : client.responseCompressions.get? st.compression.name = some st.compression
  named       : st.compression.name ≠ ""

/-- What a stream is made of can be undone, and its messages fit into the limit. -/
structure Intact (client : Client β α) (st : StreamResponse α) (ms : List α) : Prop where
  codec       : Codec.Lossless st.codec
  compression : Lossless st.compression
  fits        : ∀ m ∈ ms, ∀ data, st.codec.encode m = .ok data →
    Fits st.writer client.readMaxBytes data

/-- The client accepts the headers of the stream. -/
theorem validate_streamReply {client : Client β α} {st : StreamResponse α}
    (hm : Matches client st) {h : p.HTTPHeaders} {responseHeaders : Headers p}
    (hd : p.Delivers (onWire p (streamHeaders st.protocol st.codec.name st.compression.name
      responseHeaders)) h) :
    validateStreamResponse client.protocol client.codec.name (contentType h) = .ok ()
      ∧ handleResponseCompression client.protocol true h client.responseCompressions
        = .ok st.compression := by
  rw [hm.protocol] at hd
  constructor
  · rw [contentType, p.getHeader_of_delivers hd, lookup_streamHeaders, hm.codec]
    exact validateStreamResponse_contentType client.protocol st.codec.name
  · have hname : (serverProtocol client.protocol).compressionHeaderName
        = client.protocol.compressionHeader true := by
      cases client.protocol <;> rfl
    have hlookup : p.getHeader h (client.protocol.compressionHeader true)
        = some st.compression.name := by
      rw [p.getHeader_of_delivers hd, streamHeaders, hname]
      exact (lookup_cons_ne (ConnectCompression.contentType_ne client.protocol true) _ _).trans
        (lookup_cons_self _ _ _)
    rw [handleResponseCompression, hlookup]
    dsimp only
    rw [if_neg hm.named, hm.compression]

/-- The body of a response that arrives whole and in time is read to its end. -/
theorem readBody_whole (f : Flavor) {client : Client β α} {resp : Opened p}
    {timeLeft : Option Int} {c : Compression}
    (hvalid : validateStreamResponse client.protocol client.codec.name (contentType resp.headers)
      = .ok ())
    (hcompression : handleResponseCompression client.protocol true resp.headers
      client.responseCompressions = .ok c)
    (hbroken : resp.broken = none) (htime : isOver timeLeft = false)
    (response : Option (ResponseMetadata p)) :
    let d := readResponse (readerKind client.protocol) ⟨client.codec, c, client.readMaxBytes⟩
      (Reader.new response) ⟨resp.headers, resp.trailers⟩ resp.chunks
    (readBody f client resp timeLeft response).messages = d.messages
      ∧ (readBody f client resp timeLeft response).error = d.error := by
  rw [readBody, hvalid, hcompression, hbroken]
  dsimp only
  rw [readResponse, withBlock]
  obtain ⟨messages, reader, error⟩ := feedAll (readerKind client.protocol)
    ⟨client.codec, c, client.readMaxBytes⟩ (Reader.new response) resp.chunks
  cases error with
  | some e => exact ⟨rfl, rfl⟩
  | none =>
      dsimp only [Option.or_none]
      rw [endBody, if_neg (by rw [htime]; simp)]
      dsimp only
      cases checkEnded (readerKind client.protocol) reader with
      | some e => exact ⟨rfl, rfl⟩
      | none => exact ⟨rfl, rfl⟩

theorem map_ok {ε γ δ : Type} {r : Except ε γ} {g : γ → δ} {d : δ} (h : r.map g = .ok d) :
    ∃ c, r = .ok c ∧ g c = d := by
  cases r with
  | error e => cases h
  | ok c => exact ⟨c, rfl, Except.ok.inj h⟩

/-- **What a stream says is read**, in all three protocols. -/
theorem readResponse_saying {client : Client β α} {st : StreamResponse α} {ctx : Ctx p}
    {ms : List α} {error : Option Exc} {reply : Reply} (hm : Matches client st)
    (hi : Intact client st ms) (hsaid : Says st ctx ms error reply)
    (hread : Readable client.protocol st.writer client.readMaxBytes ctx.responseTrailers
      (error.map ConnectWireError.fromException))
    {resp : Opened p} (hcarries : Carries reply resp) (current : Option (ResponseMetadata p)) :
    let d := readResponse (readerKind client.protocol)
      ⟨client.codec, st.compression, client.readMaxBytes⟩ (Reader.new current)
      ⟨resp.headers, resp.trailers⟩ resp.chunks
    d.messages = ms
      ∧ d.error = (error.map ConnectWireError.fromException).map (seen client.protocol) := by
  obtain ⟨hmessages, hending⟩ := hsaid
  have hw : ∀ c ∈ st.writer.compression, Lossless c := by
    intro c hc
    obtain rfl : st.compression = c := Option.some.inj hc
    exact hi.compression
  obtain ⟨b, hb, hms⟩ := messages_writeAll (w := st.writer) hi.codec hw ms hi.fits
  obtain rfl := Except.ok.inj (hb.symm.trans hmessages)
  have hcfg : (⟨client.codec, st.compression, client.readMaxBytes⟩ : ReaderConfig α)
      = st.writer.reader client.readMaxBytes := by
    rw [hm.codec]
    rfl
  have hbody := hcarries.body
  have htrailers := hcarries.trailers
  rw [hcfg]
  rw [StreamResponse.writerEnd, hm.protocol] at hending
  -- The end of the stream is the protocol's.
  obtain ⟨q, hq⟩ : ∃ q, client.protocol = q := ⟨_, rfl⟩
  rw [hq] at hread hending ⊢
  cases q with
  | connect =>
      obtain ⟨last, hlast, rfl⟩ := map_ok hending
      exact readResponse_connect hw hms hread hlast current _ hbody
  | grpc =>
      obtain rfl := Except.ok.inj hending
      have hd : p.Delivers (grpcEnd ctx.responseTrailers
          (error.map ConnectWireError.fromException)).allitems
          (Response.mk resp.headers resp.trailers).trailers := htrailers
      exact readResponse_grpc hms hread current hd (hbody.trans (List.append_nil b))
  | grpcWeb =>
      obtain ⟨last, hlast, rfl⟩ := map_ok hending
      exact readResponse_grpcWeb hw hms hread hlast current _ hbody

/-- **A client reads what a stream says**: its messages, and its error if it has one. -/
theorem sendRequestBidiStream_saying (streamErrorCode : Exc → Option StreamErrorCode) (f : Flavor)
    {client : Client β α} {st : StreamResponse α} {ctx : Ctx p} {ms : List α}
    {error : Option Exc} {reply : Reply} (hm : Matches client st) (hi : Intact client st ms)
    (hsaid : Says st ctx ms error reply)
    (hread : Readable client.protocol st.writer client.readMaxBytes ctx.responseTrailers
      (error.map ConnectWireError.fromException))
    {resp : Opened p} (hcarries : Carries reply resp) {requests : Requests β}
    {content : Option Bytes} (hcontent : requestContent client requests = .ok content)
    {x : Exchange p} (hopened : x.opened = .ok resp) (htime : isOver x.timeoutMs = false)
    (htimeAfter : isOver x.timeAfterBody = false) (current : Option (ResponseMetadata p)) :
    sendRequestBidiStream streamErrorCode f client requests x current
      = (ms, (error.map ConnectWireError.fromException).map (seen client.protocol)) := by
  have hstatus : resp.status = 200 := by
    rw [hcarries.status]
    cases hsaid
    rfl
  have hheaders : p.Delivers (onWire p (streamHeaders st.protocol st.codec.name
      st.compression.name ctx.responseHeaders)) resp.headers := by
    have hd := hcarries.headers
    cases hsaid
    exact hd
  obtain ⟨hvalid, hcompression⟩ := validate_streamReply hm hheaders
  obtain ⟨hbodyMessages, hbodyError⟩ := readBody_whole f hvalid hcompression hcarries.unbroken
    htimeAfter (handleResponseHeaders current resp.status resp.headers)
  obtain ⟨hmessages, herror⟩ := readResponse_saying hm hi hsaid hread hcarries
    (handleResponseHeaders current resp.status resp.headers)
  have hleft : withResponse f client resp x.timeAfterBody current
      = readBody f client resp x.timeAfterBody
          (handleResponseHeaders current resp.status resp.headers) := by
    rw [withResponse, if_pos hstatus]
  rw [sendRequestBidiStream, htime, if_neg Bool.false_ne_true, tryBody, hcontent, hopened]
  dsimp only
  rw [hcarries.exit, hleft, hbodyMessages, hbodyError, hmessages, herror, Option.map_map]
  refine congrArg (Prod.mk ms) ?_
  -- A `ConnectError` passes the except clauses as it is.
  cases error with
  | none => rfl
  | some e => rfl

end ConnectReply
