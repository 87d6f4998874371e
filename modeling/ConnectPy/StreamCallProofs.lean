import ConnectPy.WsgiReplyProofs

/-! # A call with streams, end to end

    What a client makes of a call is what the handler made of it, whichever server is
    between them.  Both servers come to the one reply that the handler's messages and
    its end determine (`served_saying`, `served_unique`); the client reads it back, over
    any chunks, into these messages and this end (`stream_call_transparent`). -/

namespace ConnectStreamCall

open Utf8 (Bytes)
open Effect
open ConnectErrors ConnectPlatform ConnectHeaders ConnectWireErrors ConnectGrpcStatus
open ConnectEndMessage ConnectWriter ConnectStatusWire ConnectTrailersWire
open OrderedDict ConnectClientRequest ConnectContentType ConnectClient ConnectReply
open ConnectAsgi (Ctx Env EndpointKind StreamResponse)
open ConnectAsgiReply (Phase Tells encodePairs)
open ConnectWsgi (App)
open ConnectWsgiReply (Heard Answers)

variable {p : Platform} {α β : Type}

/-! ## Replies that were served -/

/-- A server answered a request for a stream: its handler gave these messages and ended
    in this way, nothing else went wrong, and this is the reply. -/
inductive Served (st : StreamResponse α) (ctx : Ctx p) (ms : List α) (outcome : Option Exc)
    (reply : Reply) : Prop where
  | asgi {ω ι τ : Type} (env : Env p ω ι τ α) (At : Phase α → ω → Prop)
      (h : ConnectAsgiReply.Plays env st ctx ms outcome At)
      (n : Nat) (hn : ms.length < n) (w : ω) (hw : At .before w)
      (htells : Tells (ConnectAsgi.handleRequest env (.stream st) n
        (ConnectAsgi.Run.new w)).2.messages reply)
  | wsgi {ω ι τ : Type} (app : App p ω ι τ α) (At : Phase α → Heard → ω → Prop)
      (heard : ω → Heard) (h : ConnectWsgiReply.Plays app st ctx ms outcome At)
      (hheard : ∀ φ hd w, At φ hd w → heard w = hd)
      (k : Nat) (hk : ms.length < k) (w : ω) (hw : At .before .nothing w)
      (hanswers : Answers (heard (ConnectWsgi.handleRequest app (.stream st) k
          (ConnectWsgi.Run.new w)).2.world)
        (ConnectWsgi.handleRequest app (.stream st) k (ConnectWsgi.Run.new w)).2.chunks reply)

theorem encodePairs_injective {l l' : List (String × String)}
    (h : encodePairs l = encodePairs l') : l = l' := by
  refine List.map_injective_iff.mpr ?_ h
  rintro ⟨k, v⟩ ⟨k', v'⟩ he
  rw [Prod.mk.injEq] at he
  exact Prod.ext (Utf8.encode_injective he.1) (Utf8.encode_injective he.2)

/-- Messages tell one reply. -/
theorem tells_unique {messages : List ConnectAsgi.Message} {r r' : Reply}
    (h : Tells messages r) (h' : Tells messages r') : r = r' := by
  obtain ⟨announced, hstart⟩ := h.start
  obtain ⟨announced', hstart'⟩ := h'.start
  have heq := Option.some.inj (hstart.symm.trans hstart')
  injection heq with hstatus hheaders
  obtain ⟨status, headers, body, trailers⟩ := r
  obtain ⟨status', headers', body', trailers'⟩ := r'
  obtain rfl : status = status' := hstatus
  obtain rfl : headers = headers' := encodePairs_injective hheaders
  obtain rfl : body = body' := h.body.symm.trans h'.body
  obtain rfl : trailers = trailers' := encodePairs_injective (h.trailers.symm.trans h'.trailers)
  rfl

/-- What an app server heard is one reply. -/
theorem answers_unique {heard : Heard} {chunks : List Bytes} {r r' : Reply}
    (h : Answers heard chunks r) (h' : Answers heard chunks r') : r = r' := by
  have heq := List.singleton_injective (h.start.symm.trans h'.start)
  obtain ⟨status, headers, body, trailers⟩ := r
  obtain ⟨status', headers', body', trailers'⟩ := r'
  obtain ⟨rfl, rfl⟩ := Prod.mk.inj heq
  obtain rfl : body = body' := h.body.symm.trans h'.body
  obtain rfl : trailers = trailers' := h.trailers.symm.trans h'.trailers
  rfl

/-- **A server's reply is what the stream says.** -/
theorem served_saying {st : StreamResponse α} {ctx : Ctx p} {ms : List α} {outcome : Option Exc}
    {reply said : Reply} (hsaid : Says st ctx ms outcome said)
    (hcompression : st.requestCompression = .ok ()) (h : Served st ctx ms outcome reply) :
    reply = said := by
  cases h with
  | asgi env At h n hn w hw htells =>
      exact tells_unique htells
        (ConnectAsgiReply.handleRequest_tells h hsaid hcompression hn hw)
  | wsgi app At heard h hheard k hk w hw hanswers =>
      obtain ⟨hd, hdone, htold⟩ :=
        ConnectWsgiReply.handleRequest_answers h hsaid hcompression hk hw
      rw [hheard _ _ _ hdone] at hanswers
      exact answers_unique hanswers htold

/-! ## Handlers that follow a script -/

/-- A script that a handler of this kind can follow: the end is an exception if it is
    an error, and one message is all that a method with a single response can give. -/
structure Follows (st : StreamResponse α) (ms : List α) (outcome : Option Exc) : Prop where
  exception : ∀ e ∈ outcome, e.isException = true
  single    : st.endpoint.returnsOne = true →
    ms.length = 1 ∧ outcome = none ∨ ms = [] ∧ outcome.isSome = true

/-- The outcome of the single response of a script. -/
def scriptSingle : List α → Option Exc → Outcome Exc α
  | m :: _, _ => .ret m
  | [], some e => .raise e
  | [], none => .stuck

/-- How a script ends. -/
def scriptEnd : Option Exc → Outcome Exc (Option α)
  | none => .ret none
  | some e => .raise e

/-- What `anext` gives in a phase of a script. -/
def scriptNext (outcome : Option Exc) : Phase α → Outcome Exc (Option α) × Phase α
  | .suspended _ (m :: rest) => (.ret (some m), .suspended true rest)
  | .suspended _ [] => (scriptEnd outcome, .done)
  | φ => (.ret none, φ)

/-- An ASGI request whose handler follows a script. -/
def scriptEnv (ctx : Ctx p) (ms : List α) (outcome : Option Exc) :
    Env p (Phase α) Unit Unit α where
  interceptors := [()]
  ctx := fun _ => ctx
  onStart := fun _ => pure ()
  onEnd := fun _ _ _ _ => pure ()
  callUnary := Prog.raise (.exception .valueError "no unary method")
  callSingle := fun _ => (scriptSingle ms outcome, .done)
  openStream := fun _ => (.ret (), .suspended false ms)
  nextResponse := scriptNext outcome
  disconnected := fun _ => false
  aclose := pure ()
  throwInto := fun _ => pure ()
  watchEnter := pure ()
  watchExit := pure ()
  acloseRequest := pure ()
  scopeExit := fun e _ => e
  cleanupExit := fun e _ => some e
  expired := fun _ => false
  disconnectedFirst := fun _ => false
  send := fun _ _ w => (.sent, w)
  send_start_cut := fun _ _ _ _ _ h => nomatch h
  send_after_scope := fun _ _ _ h => nomatch h
  encodeText := fun s => .ok (Utf8.encode s)

theorem scriptSingle_single {st : StreamResponse α} {ms : List α} {outcome : Option Exc}
    (h : Follows st ms outcome) (hone : st.endpoint.returnsOne = true) :
    ConnectAsgiReply.Single ms outcome (scriptSingle ms outcome) := by
  rcases h.single hone with ⟨hlength, rfl⟩ | ⟨rfl, hsome⟩
  · obtain ⟨m, rfl⟩ := List.length_eq_one_iff.mp hlength
    exact .ret m
  · obtain ⟨e, rfl⟩ := Option.isSome_iff_exists.mp hsome
    exact .raise (h.exception e rfl)

theorem scriptEnd_finish {st : StreamResponse α} {ms : List α} {outcome : Option Exc}
    (h : Follows st ms outcome) :
    ConnectAsgiReply.Finish (α := α) outcome (scriptEnd outcome) := by
  cases outcome with
  | none => exact .ret
  | some e => exact .raise (h.exception e rfl)

/-- Every script is played. -/
theorem scriptEnv_plays {st : StreamResponse α} {ms : List α} {outcome : Option Exc}
    (h : Follows st ms outcome) (ctx : Ctx p) :
    ConnectAsgiReply.Plays (scriptEnv ctx ms outcome) st ctx ms outcome fun φ w => w = φ where
  encodes := fun _ => rfl
  onStart := fun _ w hw => ⟨(), w, rfl, hw⟩
  watchEnter := fun w hw => ⟨w, rfl, hw⟩
  callSingle := fun hone _ _ => ⟨scriptSingle_single h hone, rfl⟩
  openStream := fun _ _ _ => ⟨_, rfl, rfl⟩
  next := by
    rintro begun m rest _ rfl
    exact ⟨_, rfl, rfl⟩
  finish := by
    rintro begun _ rfl
    exact ⟨scriptEnd_finish h, rfl⟩
  send := fun _ _ _ w hw => ⟨w, rfl, hw⟩
  connected := fun _ _ _ => rfl
  headers := fun _ _ _ => rfl
  settled := fun _ _ => rfl
  aclose := fun w hw => ⟨w, rfl, hw⟩
  throwInto := fun _ w hw => ⟨w, rfl, hw⟩
  watchExit := fun w hw => ⟨w, rfl, hw⟩
  acloseRequest := fun w hw => ⟨w, rfl, hw⟩
  onEnd := fun _ _ _ _ w hw => ⟨w, rfl, hw⟩

/-- What resuming the generator comes to in a phase of a script. -/
def scriptResume (outcome : Option Exc) : Phase α → ConnectWsgi.Resumed α × Phase α
  | .suspended _ (m :: rest) => (.yielded m, .suspended true rest)
  | .suspended _ [] =>
      (match outcome with
        | none => .returned
        | some e => .raised e false, .done)
  | φ => (.returned, φ)

/-- A WSGI request whose handler follows a script, under an app server that listens. -/
def scriptApp (ctx : Ctx p) (ms : List α) (outcome : Option Exc) :
    App p (Phase α × Heard) Unit Unit α where
  interceptors := [()]
  ctx := fun _ => ctx
  onStart := fun _ => pure ()
  onEnd := fun _ _ _ => pure ()
  callUnary := Prog.raise (.exception .valueError "no unary method")
  callSingle := fun w => (scriptSingle ms outcome, (.done, w.2))
  openStream := fun w => (.ret (), (.suspended false ms, w.2))
  responses := {
    kind := .generator
    resume := fun _ w => ((scriptResume outcome w.1).1, ((scriptResume outcome w.1).2, w.2))
    close := pure () }
  isNone := fun _ => false
  startResponse := fun status headers w => (.ret (), (w.1, w.2.start status headers))
  sendTrailers := fun trailers w => (.ret (), (w.1, w.2.sendTrailers trailers))
  drainRequestBody := pure ()
  writeError := fun _ => pure ()

theorem scriptApp_plays {st : StreamResponse α} {ms : List α} {outcome : Option Exc}
    (h : Follows st ms outcome) (ctx : Ctx p) :
    ConnectWsgiReply.Plays (scriptApp ctx ms outcome) st ctx ms outcome
      fun φ heard w => w = (φ, heard) where
  onStart := fun _ _ w hw => ⟨(), w, rfl, hw⟩
  callSingle := by
    rintro hone heard _ rfl
    exact ⟨scriptSingle_single h hone, rfl⟩
  openStream := by
    rintro - heard _ rfl
    exact ⟨_, rfl, rfl⟩
  next := by
    rintro begun m rest heard _ rfl
    exact ⟨_, rfl, rfl⟩
  finish := by
    rintro begun heard _ rfl
    refine ⟨?_, rfl⟩
    cases outcome with
    | none => exact .returned
    | some e => exact .raised (h.exception e rfl) false
  close := fun _ w hw => ⟨w, rfl, hw⟩
  isSome := fun _ _ => rfl
  startResponse := by
    rintro φ status headers heard _ rfl
    exact ⟨_, rfl, rfl⟩
  sendTrailers := by
    rintro trailers heard _ rfl
    exact ⟨_, rfl, rfl⟩
  headers := fun _ _ _ _ => rfl
  settled := fun _ _ _ => rfl
  drain := fun _ w hw => ⟨w, rfl, hw⟩
  writeError := fun _ _ w hw => ⟨w, rfl, hw⟩
  onEnd := fun _ _ _ _ w hw => ⟨w, rfl, hw⟩

/-- **Every script is served**, by both servers, with the reply it says. -/
theorem served_script {st : StreamResponse α} {ctx : Ctx p} {ms : List α} {outcome : Option Exc}
    {reply : Reply} (h : Follows st ms outcome) (hsaid : Says st ctx ms outcome reply)
    (hcompression : st.requestCompression = .ok ()) : Served st ctx ms outcome reply :=
  .asgi (scriptEnv ctx ms outcome) _ (scriptEnv_plays h ctx) (ms.length + 1) (Nat.lt_succ_self _)
    .before rfl (ConnectAsgiReply.handleRequest_tells (scriptEnv_plays h ctx) hsaid hcompression
      (Nat.lt_succ_self _) rfl)

theorem served_script_wsgi {st : StreamResponse α} {ctx : Ctx p} {ms : List α}
    {outcome : Option Exc} {reply : Reply} (h : Follows st ms outcome)
    (hsaid : Says st ctx ms outcome reply) (hcompression : st.requestCompression = .ok ()) :
    Served st ctx ms outcome reply := by
  obtain ⟨heard, hdone, hanswers⟩ := ConnectWsgiReply.handleRequest_answers
    (scriptApp_plays h ctx) hsaid hcompression (Nat.lt_succ_self ms.length)
    (show ((Phase.before, Heard.nothing) : Phase α × Heard) = (.before, .nothing) from rfl)
  refine .wsgi (scriptApp ctx ms outcome) _ Prod.snd (scriptApp_plays h ctx) ?_ (ms.length + 1)
    (Nat.lt_succ_self _) (.before, .nothing) rfl ?_
  · rintro φ hd _ rfl
    rfl
  · rw [hdone]
    exact hanswers

/-! ## A stream of hats -/

/-- A gRPC stream of bytes. -/
def hatStream : StreamResponse Bytes where
  protocol := .grpc
  codec := .raw
  compression := .identity
  endpoint := .serverStream
  requestCompression := .ok ()

/-- A response header and a trailer of the handler. -/
def hatCtx : Ctx hatPlatform := ⟨.ofItems _ [("x-hat", "top")], .ofItems _ [("x", "1")]⟩

/-- Two hats. -/
def hats : List Bytes := [[7], []]

/-- There is no third one. -/
def hatEnd : Option Exc := some (.connectError noSuchHat)

theorem hats_follow (ms : List Bytes) : Follows hatStream ms hatEnd where
  exception := by
    rintro e ⟨⟩
    rfl
  single := by
    intro h
    cases h

theorem hats_match : Matches rawClient hatStream where
  protocol := rfl
  codec := rfl
  compression := rfl
  named := by decide

theorem hats_intact {ms : List Bytes} (h : ∀ m ∈ ms, m.length < 0x100000000) :
    Intact rawClient hatStream ms where
  codec := fun m => ⟨m, rfl, rfl⟩
  compression := lossless_identity
  fits := by
    intro m hm data hdata
    obtain rfl : m = data := Except.ok.inj hdata
    refine ⟨rfl, fun out hout => ?_⟩
    obtain rfl : m = out := Except.ok.inj hout
    exact ⟨h m hm, rfl⟩

theorem hats_readable : Readable (α := Bytes) .grpc hatStream.writer none hatCtx.responseTrailers
    (hatEnd.map ConnectWireError.fromException) := by
  rintro e ⟨⟩
  exact ⟨⟨rfl, rfl⟩, ⟨by decide, Platform.ofStatus_lossless _⟩⟩

/-- The response as the HTTP layer hands it over, byte by byte. -/
def byteByByte (reply : Reply) : Opened hatPlatform where
  status := reply.status
  headers := Multimap.ofItems (onWire hatPlatform reply.headers)
  chunks := reply.body.map fun b => [b]
  broken := none
  trailers := Multimap.ofItems reply.trailers
  exit := id

theorem carries_byteByByte (reply : Reply) : Carries reply (byteByByte reply) where
  status := rfl
  headers := rfl
  body := by
    show (reply.body.map fun b => [b]).flatten = reply.body
    rw [← List.flatMap_def]
    exact List.flatMap_singleton' reply.body
  trailers := rfl
  unbroken := rfl
  exit := fun _ => rfl

/-! ## The call -/

theorem exists_saying {client : Client β α} {st : StreamResponse α} {ctx : Ctx p} {ms : List α}
    {outcome : Option Exc} (hm : Matches client st) (hi : Intact client st ms)
    (hread : Readable client.protocol st.writer client.readMaxBytes ctx.responseTrailers
      (outcome.map ConnectWireError.fromException)) :
    ∃ reply, Says st ctx ms outcome reply := by
  have hw : ∀ c ∈ st.writer.compression, Lossless c := by
    intro c hc
    obtain rfl : st.compression = c := Option.some.inj hc
    exact hi.compression
  obtain ⟨b, hb, -⟩ := messages_writeAll (w := st.writer) hi.codec hw ms hi.fits
  obtain ⟨ending, hending⟩ : ∃ ending, st.writerEnd ctx.responseTrailers
      (outcome.map ConnectWireError.fromException) = .ok ending := by
    obtain ⟨q, hq⟩ : ∃ q, client.protocol = q := ⟨_, rfl⟩
    rw [StreamResponse.writerEnd, hm.protocol, hq]
    rw [hq] at hread
    cases q with
    | connect =>
        obtain ⟨f, hf, -⟩ := handleFrame_connectEnd hw hread.1 hread.2
          (ConnectGrammar.start (p := p) none)
        exact ⟨_, congrArg (Except.map Sum.inl) hf⟩
    | grpc => exact ⟨_, rfl⟩
    | grpcWeb =>
        obtain ⟨hclean, hfits, -⟩ := hread
        obtain ⟨f, -, hf, -⟩ := handleFrame_lines hw
          (statusTrailers_clean hclean (outcome.map ConnectWireError.fromException)) hfits
          (ConnectGrammar.start (p := p) none)
        exact ⟨_, congrArg (Except.map Sum.inl) hf⟩
  exact ⟨_, .intro hb hending⟩

/-- **A CALL WITH A RESPONSE STREAM IS TRANSPARENT.**  Whichever server runs the
    handler, whatever interceptors are around it, and however the bytes are cut on the
    way: the client yields the handler's messages, in order, and then ends as the
    handler did, with its error when it raised one. -/
theorem stream_call_transparent (streamErrorCode : Exc → Option StreamErrorCode) (f : Flavor)
    {client : Client β α} {st : StreamResponse α} {ctx : Ctx p} {ms : List α}
    {outcome : Option Exc} {reply : Reply} (hserved : Served st ctx ms outcome reply)
    (hcompression : st.requestCompression = .ok ()) (hm : Matches client st)
    (hi : Intact client st ms)
    (hread : Readable client.protocol st.writer client.readMaxBytes ctx.responseTrailers
      (outcome.map ConnectWireError.fromException))
    {resp : Opened p} (hcarries : Carries reply resp) {requests : Requests β}
    {content : Option Bytes} (hcontent : requestContent client requests = .ok content)
    {x : Exchange p} (hopened : x.opened = .ok resp) (htime : isOver x.timeoutMs = false)
    (htimeAfter : isOver x.timeAfterBody = false) (current : Option (ResponseMetadata p)) :
    sendRequestBidiStream streamErrorCode f client requests x current
      = (ms, (outcome.map ConnectWireError.fromException).map (seen client.protocol)) := by
  obtain ⟨said, hsaid⟩ := exists_saying hm hi hread
  obtain rfl := served_saying hsaid hcompression hserved
  exact sendRequestBidiStream_saying streamErrorCode f hm hi hsaid hread hcarries hcontent hopened
    htime htimeAfter current

/-- The stream of hats, served by the WSGI server and read byte by byte. -/
theorem stream_call_transparent_hats :
    ∃ reply, Served hatStream hatCtx [[7], []] hatEnd reply
      ∧ sendRequestBidiStream streamError .sync rawClient (.list [])
          ⟨none, .ok (byteByByte reply), none, none⟩ none
        = ([[7], []], some (.connectError noSuchHat)) := by
  have hintact : Intact rawClient hatStream [[7], []] := hats_intact (by decide)
  obtain ⟨reply, hsaid⟩ := exists_saying hats_match hintact hats_readable
  have hserved := served_script_wsgi (hats_follow [[7], []]) hsaid rfl
  exact ⟨reply, hserved, stream_call_transparent streamError .sync hserved rfl hats_match
    hintact hats_readable (carries_byteByByte reply) rfl rfl rfl rfl none⟩

/-- **THE TWO SERVERS ANSWER ALIKE.**  A stream whose messages and end can be written
    has one reply.  Both servers make it, whatever handler gives these messages and this
    end, and no server makes another: the status, the headers, the body and the trailers
    are the same. -/
theorem served_unique {st : StreamResponse α} {ctx : Ctx p} {ms : List α} {outcome : Option Exc}
    (hcompression : st.requestCompression = .ok ())
    (hwrites : ∃ messages, st.writer.writeAll ms = .ok messages)
    (hends : ∃ ending, st.writerEnd ctx.responseTrailers
      (outcome.map ConnectWireError.fromException) = .ok ending) :
    ∃ reply,
      (∀ {ω ι τ : Type} {env : Env p ω ι τ α} {At : Phase α → ω → Prop},
        ConnectAsgiReply.Plays env st ctx ms outcome At →
        ∀ {n : Nat}, ms.length < n → ∀ {w : ω}, At .before w →
        Tells (ConnectAsgi.handleRequest env (.stream st) n (ConnectAsgi.Run.new w)).2.messages
          reply)
      ∧ (∀ {ω ι τ : Type} {app : App p ω ι τ α} {At : Phase α → Heard → ω → Prop},
        ConnectWsgiReply.Plays app st ctx ms outcome At →
        ∀ {k : Nat}, ms.length < k → ∀ {w : ω}, At .before .nothing w →
        ∃ heard, At .done heard (ConnectWsgi.handleRequest app (.stream st) k
            (ConnectWsgi.Run.new w)).2.world
          ∧ Answers heard (ConnectWsgi.handleRequest app (.stream st) k
            (ConnectWsgi.Run.new w)).2.chunks reply)
      ∧ ∀ reply', Served st ctx ms outcome reply' → reply' = reply := by
  obtain ⟨messages, hmessages⟩ := hwrites
  obtain ⟨ending, hending⟩ := hends
  have hsaid : Says st ctx ms outcome (streamReply st ctx messages ending) :=
    .intro hmessages hending
  refine ⟨streamReply st ctx messages ending, ?_, ?_, ?_⟩
  · intro ω ι τ env At h n hn w hw
    exact ConnectAsgiReply.handleRequest_tells h hsaid hcompression hn hw
  · intro ω ι τ app At h k hk w hw
    exact ConnectWsgiReply.handleRequest_answers h hsaid hcompression hk hw
  · intro reply' h
    exact served_saying hsaid hcompression h

/-- The stream of hats from both servers. -/
theorem served_unique_hats : ∃ reply,
    Tells (ConnectAsgi.handleRequest (scriptEnv hatCtx hats hatEnd) (.stream hatStream) 3
      (ConnectAsgi.Run.new .before)).2.messages reply
    ∧ (∃ heard, Answers heard (ConnectWsgi.handleRequest (scriptApp hatCtx hats hatEnd)
      (.stream hatStream) 3 (ConnectWsgi.Run.new (.before, .nothing))).2.chunks reply)
    ∧ ∀ reply', Served hatStream hatCtx hats hatEnd reply' → reply' = reply := by
  have hfollows : Follows hatStream hats hatEnd := hats_follow hats
  have hlength : hats.length < 3 := Nat.lt_succ_self 2
  have hwrites : ∃ messages, hatStream.writer.writeAll hats = .ok messages := ⟨_, rfl⟩
  have hends : ∃ ending, hatStream.writerEnd hatCtx.responseTrailers
    (hatEnd.map ConnectWireError.fromException) = .ok ending := ⟨_, rfl⟩
  obtain ⟨reply, hasgi, hwsgi, hunique⟩ := served_unique rfl hwrites hends
  have hbefore : ((Phase.before, Heard.nothing) : Phase Bytes × Heard) = (.before, .nothing) := rfl
  have htells := hasgi (scriptEnv_plays hfollows hatCtx) hlength (w := .before) rfl
  obtain ⟨heard, -, hanswers⟩ := hwsgi (scriptApp_plays hfollows hatCtx) hlength hbefore
  exact ⟨reply, htells, ⟨heard, hanswers⟩, hunique⟩

end ConnectStreamCall
