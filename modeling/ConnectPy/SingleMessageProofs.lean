import ConnectPy.AnyBytesProofs
import ConnectPy.RequestBodyProofs
import ConnectPy.ClientCallProofs
import ConnectPy.WsgiRequestProofs
import ConnectPy.BracketProofs

/-! # Exactly one message — where one is required

    An enveloped unary method and a method with a response stream take one request:
    `_consume_single_request` runs the request stream to its end and gives the
    handler what it found.  Both servers feed the same reader, one from the events
    of the app server and one from `wsgi.input`; over a body that arrives they see
    the same stream (`forEvents_feedAll`, `forChunks_feedAll`).

    The handler is invoked with `m` exactly when the body is the envelope of `m` and
    nothing else, and otherwise an error is raised that the body names
    (`FirstError`): the first malformed envelope, or UNIMPLEMENTED when there is
    none of the messages or a second one comes first (`exactly_one_message`).  The
    client does the same with the messages of a response. -/

namespace ConnectSingle

open Utf8 (Bytes)
open Framing Resumable OrderedDict Effect
open ConnectErrors ConnectPlatform ConnectHeaders ConnectWireErrors ConnectEnvelope
open ConnectGrammar ConnectUnaryRequest ConnectRequestBody ConnectAnyBytes
open ConnectAsgi (StreamResponse EndpointKind)

variable {p : Platform} {α β γ ω ι τ : Type}

/-! ## The consumer -/

/-- The loop of `_consume_single_request` and `_consume_single_response` over what a
    stream yields and the exception it ends in, with the texts of the two errors.
    Messages are never `None`. -/
def consumeSingle (multiple zero : String) : Option β → List β → Option Exc → Except Exc β
  | _, [], some e => .error e
  | none, [], none => .error (.connect .unimplemented zero)
  | some req, [], none => .ok req
  | some _, _ :: _, _ => .error (.connect .unimplemented multiple)
  | none, message :: rest, e => consumeSingle multiple zero (some message) rest e

/-- `_consume_single_request`. -/
def consumeSingleRequest (stream : List β × Option Exc) : Except Exc β :=
  consumeSingle "unary request has multiple messages" "unary request has zero messages" none
    stream.1 stream.2

/-- `_consume_single_response` is that loop. -/
theorem consumeSingleResponse_eq (stream : List β × Option Exc) :
    ConnectClient.consumeSingleResponse stream
      = consumeSingle "unary response has multiple messages" "unary response has zero messages"
        none stream.1 stream.2 := by
  obtain ⟨messages, error⟩ := stream
  rcases messages with _ | ⟨message, _ | ⟨second, messages⟩⟩
  · cases error <;> rfl
  · cases error <;> rfl
  · cases error <;> rfl

/-- What the consumer makes of a stream. -/
structure Consumed (multiple zero : String) (ms : List β) (error : Option Exc)
    (result : Except Exc β) : Prop where
  one  : ∀ m, result = .ok m ↔ ms = [m] ∧ error = none
  own  : ms.length ≤ 1 → ∀ e, error = some e → result = .error e
  many : 1 < ms.length → result = .error (.connect .unimplemented multiple)
  none : ms = [] → error = .none → result = .error (.connect .unimplemented zero)

/-- A stream is consumed by the cases of its messages and its error. -/
theorem consumeSingle_consumed (multiple zero : String) (ms : List β) (error : Option Exc) :
    Consumed multiple zero ms error (consumeSingle multiple zero none ms error) := by
  rcases ms with _ | ⟨message, _ | ⟨second, ms⟩⟩
  · cases error with
    | none => exact ⟨fun m => ⟨nofun, nofun⟩, fun _ => nofun, nofun, fun _ _ => rfl⟩
    | some e =>
        refine ⟨fun m => ⟨nofun, nofun⟩, fun _ e' he => ?_, nofun, fun _ => nofun⟩
        rw [← Option.some.inj he]
        rfl
  · cases error with
    | none =>
        refine ⟨fun m => ⟨fun h => ?_, fun h => ?_⟩, fun _ => nofun, fun h => ?_, nofun⟩
        · rw [Except.ok.inj h]
          exact ⟨rfl, rfl⟩
        · rw [(List.cons.inj h.1).1]
          rfl
        · exact absurd h (by simp)
    | some e =>
        refine ⟨fun m => ⟨nofun, nofun⟩, fun _ e' he => ?_, fun h => ?_, nofun⟩
        · rw [← Option.some.inj he]
          rfl
        · exact absurd h (by simp)
  · have hmany : consumeSingle multiple zero none (message :: second :: ms) error
        = .error (.connect .unimplemented multiple) := by
      cases error <;> rfl
    rw [hmany]
    exact ⟨fun m => ⟨nofun, nofun⟩, fun h => absurd h (by simp), fun _ => rfl, nofun⟩

/-! ## The request streams -/

/-- `_request_stream` of the ASGI server over what `receive()` returns: the messages
    it yields and the exception it ends in; none when it awaits forever. -/
def forEvents (cfg : ReaderConfig β) (reader : Reader p) :
    List Event → Option (List β × Option Exc)
  | [] => none
  | .request body moreBody :: events =>
      let d := feed .server cfg reader (body.getD [])
      match d.error with
      | some e => some (d.messages, some e)
      | none =>
          if moreBody.getD false then
            (forEvents cfg d.reader events).map fun s => (d.messages ++ s.1, s.2)
          else some (d.messages, checkEnded .server d.reader)
  | .disconnect :: _ =>
      some ([], some (.connect .canceled "Client disconnected before request completion"))
  | .other :: _ => some ([], some (.connect .unknown "Unexpected message type"))

/-- The loop body of `_request_stream` of the WSGI server. -/
def feedChunk (cfg : ReaderConfig β) (s : Reader p × List β) (chunk : Bytes) :
    (Reader p × List β) × Option Exc :=
  let d := feed .server cfg s.1 chunk
  ((d.reader, s.2 ++ d.messages), d.error)

/-- `_request_stream` of the WSGI server, from a reader on. -/
def forBody (cfg : ReaderConfig β) (reader : Reader p) (requestBody : RequestBody) :
    List β × Option Exc :=
  let r := forChunks (feedChunk cfg) (reader, []) requestBody
  (r.1.1.2, r.1.2.or (checkEnded .server r.1.1.1))

/-- What a block that feeds chunks yields, and the exception it ends in. -/
def blockStream (cfg : ReaderConfig β) (reader : Reader p) (chunks : List Bytes) :
    List β × Option Exc :=
  let d := feedAll .server cfg reader chunks
  (d.messages, d.error.or (checkEnded .server d.reader))

/-- Without chunks only the end is checked. -/
theorem blockStream_nil (cfg : ReaderConfig β) (reader : Reader p) :
    blockStream cfg reader [] = ([], checkEnded .server reader) := rfl

/-- An error in a chunk ends the stream. -/
theorem blockStream_cons (cfg : ReaderConfig β) (reader : Reader p) (c : Bytes)
    (chunks : List Bytes) :
    blockStream cfg reader (c :: chunks)
      = match (feed .server cfg reader c).error with
        | some e => ((feed .server cfg reader c).messages, some e)
        | none =>
            ((feed .server cfg reader c).messages
              ++ (blockStream cfg (feed .server cfg reader c).reader chunks).1,
            (blockStream cfg (feed .server cfg reader c).reader chunks).2) := by
  rw [blockStream, feedAll]
  cases he : (feed .server cfg reader c).error with
  | some e =>
      dsimp only
      rw [he]
      rfl
  | none => rfl

/-- What the messages of a body are, and the exception it ends in. -/
def streamOf (p : Platform) (cfg : ReaderConfig β) (body : Bytes) : List β × Option Exc :=
  let r := (parser .server cfg).drain (start none : ReaderState p) body
  (r.outs, r.error.or (checkEnded .server ⟨r.state, r.rest⟩))

/-- The chunks do not matter, only the body. -/
theorem blockStream_new (cfg : ReaderConfig β) (chunks : List Bytes) :
    blockStream cfg (Reader.new none : Reader p) chunks = streamOf p cfg chunks.flatten := by
  obtain ⟨hmessages, herror, hreader⟩ := feedAll_drain .server cfg
    (none : Option (ResponseMetadata p))
    (rfl : (parser .server cfg).drain (start none : ReaderState p) chunks.flatten = _)
  rw [blockStream, streamOf, hmessages, herror]
  cases he : ((parser .server cfg).drain (start none : ReaderState p) chunks.flatten).error with
  | some e => rfl
  | none => rw [hreader he]

/-- The events of a body are chunks of it. -/
theorem forEvents_block {events : List Event} {body : Bytes} (h : Splits events body)
    (cfg : ReaderConfig β) :
    ∃ chunks : List Bytes, chunks.flatten = body
      ∧ ∀ reader : Reader p, forEvents cfg reader events = some (blockStream cfg reader chunks) := by
  induction h with
  | @last body more hmore rest =>
      refine ⟨[body.getD []], by simp, fun reader => ?_⟩
      rw [forEvents, blockStream_cons]
      cases (feed .server cfg reader (body.getD [])).error with
      | some e => rfl
      | none =>
          dsimp only
          rw [hmore, if_neg Bool.false_ne_true, blockStream_nil, List.append_nil]
  | @more body events bs h ih =>
      obtain ⟨chunks, hflatten, hall⟩ := ih
      refine ⟨body.getD [] :: chunks, by rw [List.flatten_cons, hflatten], fun reader => ?_⟩
      rw [forEvents, blockStream_cons]
      cases (feed .server cfg reader (body.getD [])).error with
      | some e => rfl
      | none =>
          dsimp only
          rw [Option.getD_some, if_pos rfl, hall]
          rfl

/-- What is fed chunk by chunk. -/
theorem visitAll_block (cfg : ReaderConfig β) (chunks : List Bytes) (reader : Reader p)
    (ms : List β) :
    ((visitAll (feedChunk cfg) (reader, ms) chunks).1.2,
      (visitAll (feedChunk cfg) (reader, ms) chunks).2.or
        (checkEnded .server (visitAll (feedChunk cfg) (reader, ms) chunks).1.1))
      = (ms ++ (blockStream cfg reader chunks).1, (blockStream cfg reader chunks).2) := by
  induction chunks generalizing reader ms with
  | nil =>
      rw [visitAll, blockStream_nil, List.append_nil]
      rfl
  | cons chunk chunks ih =>
      rw [visitAll, blockStream_cons, feedChunk]
      dsimp only
      cases (feed .server cfg reader chunk).error with
      | some e => rfl
      | none =>
          dsimp only
          rw [ih, List.append_assoc]

/-- **Both servers read the same stream** of a body that arrives. -/
theorem request_streams_agree (p : Platform) (cfg : ReaderConfig β) (body : Bytes) :
    (∀ events, Splits events body →
      forEvents cfg (Reader.new none : Reader p) events = some (streamOf p cfg body))
    ∧ ∀ environ : Environ, environ.wsgiInput.data = body → Truthful environ.contentLength body →
      forBody cfg (Reader.new none : Reader p) (.fromEnviron environ) = streamOf p cfg body := by
  constructor
  · intro events hsplits
    obtain ⟨chunks, rfl, hall⟩ := forEvents_block (p := p) hsplits cfg
    rw [hall, blockStream_new]
  · rintro environ rfl htruthful
    obtain ⟨hhonest, hstream⟩ := fromEnviron_honest htruthful
    obtain ⟨chunks, hflatten, hvisit⟩ := forChunks_visitAll _ _ hhonest rfl
    rw [hstream] at hflatten
    rw [forBody, ← hflatten, ← blockStream_new, hvisit]
    exact visitAll_block cfg chunks (Reader.new none) []

/-! ## The first error of a body -/

/-- Bytes that do not begin with a message envelope, and the error of their first
    position that shows it. -/
inductive Malformed (cfg : ReaderConfig β) : Bytes → Exc → Prop where
  | eof {b : Bytes} : b ≠ [] → b.length < 5 → Malformed cfg b (.connect .invalidArgument
      "protocol error: incomplete envelope: unexpected EOF")
  | flags {b : Bytes} : 5 ≤ b.length → flagOf b &&& ~~~0b01 ≠ 0 →
      Malformed cfg b (.connect .invalidArgument "protocol error: invalid envelope flags")
  | tooLarge {b : Bytes} {limit : Int} : 5 ≤ b.length → flagOf b &&& ~~~0b01 = 0 →
      cfg.readMaxBytes = some limit → exceeds (lengthOf b) (some limit) = true →
      Malformed cfg b (messageTooLargeError limit)
  | truncated {b : Bytes} : 5 ≤ b.length → flagOf b &&& ~~~0b01 = 0 →
      exceeds (lengthOf b) cfg.readMaxBytes = false → b.length < lengthOf b + 5 →
      Malformed cfg b (.connect .invalidArgument
        s!"protocol error: promised {lengthOf b} bytes in enveloped message, got {(b.length : Int) - 5} bytes")
  | contents {f : Frame} {rest : Bytes} {e : Exc} : f.flags &&& ~~~0b01 = 0 →
      exceeds f.payload.length cfg.readMaxBytes = false →
      messageContents cfg f.flags f.payload = .error e → Malformed cfg (f.bytes ++ rest) e
  | undecodable {f : Frame} {rest data : Bytes} {e : Exc} : f.flags &&& ~~~0b01 = 0 →
      exceeds f.payload.length cfg.readMaxBytes = false →
      messageContents cfg f.flags f.payload = .ok data → decodeMessage cfg.codec data = .error e →
      Malformed cfg (f.bytes ++ rest) e

/-- Where the server's reader stops, nothing is left or an envelope is malformed. -/
theorem stops_server {cfg : ReaderConfig β} {s : ReaderState p} (he : s.ended = false)
    (hn : s.nextMessageLength = none) {b : Bytes} {r : Result UInt8 (ReaderState p) Exc β}
    (h : Stops .server cfg s b r) :
    r.outs = [] ∧ ((b = [] ∧ r.error.or (checkEnded .server ⟨r.state, r.rest⟩) = none)
      ∨ ∃ e, Malformed cfg b e
        ∧ r.error.or (checkEnded .server ⟨r.state, r.rest⟩) = some e) := by
  have hnot : ¬ s.ended = true := by
    rw [he]
    exact Bool.false_ne_true
  cases h with
  | short h5 =>
      refine ⟨rfl, ?_⟩
      dsimp only
      rw [Option.none_or, checkEnded, if_neg hnot]
      dsimp only
      rw [hn]
      -- Less than a prefix: nothing at all is the one clean end.
      by_cases hb : b = []
      · exact Or.inl ⟨hb, if_neg (not_not.mpr hb)⟩
      · exact Or.inr ⟨_, .eof hb h5, if_pos hb⟩
  | cut h5 hflags hfits hlt =>
      refine ⟨rfl, Or.inr ⟨_, .truncated h5 hflags hfits hlt, ?_⟩⟩
      dsimp only
      rw [Option.none_or, checkEnded, if_neg hnot]
      rfl
  | refused hread =>
      obtain ⟨h5, ⟨hflags, rfl⟩ | ⟨hflags, limit, hlimit, hexceeds, rfl⟩⟩ :=
        readPrefix_raised hread
      · exact ⟨rfl, Or.inr ⟨_, .flags h5 hflags, rfl⟩⟩
      · exact ⟨rfl, Or.inr ⟨_, .tooLarge h5 hflags hlimit hexceeds, rfl⟩⟩
  | ended hflags hfits hframe => exact absurd hframe (handleFrame_ne_ended (Or.inl rfl))
  | @raised f rest s' e hflags hfits hframe =>
      refine ⟨rfl, Or.inr ⟨e, ?_, rfl⟩⟩
      -- Of the ways that a frame can go, a server has two that raise.
      rcases handleFrame_cases .server cfg s f.flags f.payload with
        ⟨e', hc, hr⟩ | ⟨data, t, hc, ⟨e', ht, hr⟩ | ⟨_, hr⟩ | ⟨_, ⟨e', hd, hr⟩ | ⟨m, _, hr⟩⟩⟩
      · rw [hr] at hframe
        injection hframe with _ hframe
        exact hframe ▸ .contents hflags hfits hc
      · cases ht
      · rw [hr] at hframe
        cases hframe
      · rw [hr] at hframe
        injection hframe with _ hframe
        exact hframe ▸ .undecodable hflags hfits hc hd
      · rw [hr] at hframe
        cases hframe

/-- **The stream of a body**: message envelopes, and then the end or a malformed one. -/
theorem streamOf_cases (p : Platform) (cfg : ReaderConfig β) (body : Bytes) :
    ∃ ms start tail, Messages cfg ms start ∧ body = start ++ tail
      ∧ ((tail = [] ∧ streamOf p cfg body = (ms, none))
        ∨ ∃ e, Malformed cfg tail e ∧ streamOf p cfg body = (ms, some e)) := by
  obtain ⟨ms, b, tail, r, hms, hbody, hstops, hdrain⟩ :=
    drain_stops .server cfg body.length body (start none : ReaderState p) (Nat.le_refl _) rfl rfl
  obtain ⟨houts, hcase⟩ := stops_server (afterMessages_ended .server ms _)
    (afterMessages_nextMessageLength .server ms _) hstops
  have hstream : streamOf p cfg body
      = (ms, r.error.or (checkEnded .server ⟨r.state, r.rest⟩)) := by
    rw [streamOf, hdrain, Result.prepend_outs, houts, List.append_nil]
    rfl
  refine ⟨ms, b, tail, hms, hbody, ?_⟩
  rw [hstream]
  rcases hcase with ⟨htail, hnone⟩ | ⟨e, hmalformed, hsome⟩
  · exact Or.inl ⟨htail, by rw [hnone]⟩
  · exact Or.inr ⟨e, hmalformed, by rw [hsome]⟩

/-- A reader that raises ends the stream with what it raises. -/
theorem drain_raised {cfg : ReaderConfig β} {s s' : ReaderState p} {b rest : Bytes} {e : Exc}
    (h : (parser .server cfg).drain s b = ⟨[], s', rest, some e⟩) :
    ((parser .server cfg).drain s b).outs = []
      ∧ ((parser .server cfg).drain s b).error.or (checkEnded .server
          ⟨((parser .server cfg).drain s b).state, ((parser .server cfg).drain s b).rest⟩)
        = some e := by
  rw [h]
  exact ⟨rfl, rfl⟩

/-- And one that waits for more, with what its end check raises. -/
theorem drain_waits {cfg : ReaderConfig β} {s s' : ReaderState p} {b rest : Bytes} {e : Exc}
    (h : (parser .server cfg).drain s b = ⟨[], s', rest, none⟩)
    (hended : checkEnded .server ⟨s', rest⟩ = some e) :
    ((parser .server cfg).drain s b).outs = []
      ∧ ((parser .server cfg).drain s b).error.or (checkEnded .server
          ⟨((parser .server cfg).drain s b).state, ((parser .server cfg).drain s b).rest⟩)
        = some e := by
  rw [h]
  exact ⟨rfl, hended⟩

/-- A malformed envelope stops the reader with its error. -/
theorem malformed_drain {cfg : ReaderConfig β} {b : Bytes} {e : Exc} (h : Malformed cfg b e)
    {s : ReaderState p} (he : s.ended = false) (hn : s.nextMessageLength = none) :
    ((parser .server cfg).drain s b).outs = []
      ∧ ((parser .server cfg).drain s b).error.or (checkEnded .server
          ⟨((parser .server cfg).drain s b).state, ((parser .server cfg).drain s b).rest⟩)
        = some e := by
  have hnot : ¬ s.ended = true := by
    rw [he]
    exact Bool.false_ne_true
  have hdrain : (parser .server cfg).drain s b = _ := drain_readPrefix he hn b
  cases h with
  | eof hb h5 =>
      -- Less than a prefix: the reader waits, and the end check raises.
      have hread : readPrefix .server cfg s b = .incomplete := if_pos h5
      rw [hread] at hdrain
      refine drain_waits hdrain ?_
      rw [checkEnded, if_neg hnot]
      dsimp only
      rw [hn]
      exact if_pos hb
  | flags h5 hflags =>
      have hread : readPrefix .server cfg s b = .raised s (.connect .invalidArgument
          "protocol error: invalid envelope flags") :=
        (if_neg (Nat.not_lt_of_le h5)).trans (if_pos hflags)
      rw [hread] at hdrain
      exact drain_raised hdrain
  | @tooLarge _ limit h5 hflags hlimit hexceeds =>
      have hlegal : flagOf b &&& ~~~ReaderKind.server.flagsMask = 0 := hflags
      have hread : readPrefix .server cfg s b
          = .raised { s with nextMessageLength := some (lengthOf b) }
            (messageTooLargeError limit) := by
        rw [readPrefix, if_neg (Nat.not_lt_of_le h5), if_neg (not_not.mpr hlegal), hlimit]
        exact if_pos hexceeds
      rw [hread] at hdrain
      exact drain_raised hdrain
  | truncated h5 hflags hfits hlt =>
      have hlegal : flagOf b &&& ~~~ReaderKind.server.flagsMask = 0 := hflags
      -- A prefix that promises more than there is: the same, with the length known.
      have hwait : (parser .server cfg).move { s with nextMessageLength := some (lengthOf b) } b
          = .wait :=
        move_short (s := { s with nextMessageLength := some (lengthOf b) }) he rfl hlt
      rw [readPrefix_eq_promised h5 hlegal hfits] at hdrain
      refine drain_waits (hdrain.trans (Parser.drain_wait _ hwait)) ?_
      rw [checkEnded, if_neg hnot]
      rfl
  | @contents f rest e hflags hfits hc =>
      -- A whole frame whose contents cannot be had.
      have hframe : handleFrame .server cfg s f.flags f.payload = .raised s e := by
        rw [handleFrame, hc]
      have hbytes := drain_bytes (k := .server) he hn hflags hfits rest
      rw [hframe] at hbytes
      exact drain_raised hbytes
  | @undecodable f rest data e hflags hfits hc hd =>
      -- A whole frame whose contents are no message.
      have hframe : handleFrame .server cfg s f.flags f.payload = .raised s e := by
        rw [handleFrame, hc]
        dsimp only
        rw [handleEndMessage]
        dsimp only
        rw [hd]
      have hbytes := drain_bytes (k := .server) he hn hflags hfits rest
      rw [hframe] at hbytes
      exact drain_raised hbytes

/-- The stream of messages before other bytes. -/
theorem streamOf_messages {cfg : ReaderConfig β} {ms : List β} {b : Bytes}
    (h : Messages cfg ms b) (tail : Bytes) :
    streamOf p cfg (b ++ tail)
      = (ms ++ ((parser .server cfg).drain (afterMessages .server (start none : ReaderState p) ms)
          tail).outs,
        ((parser .server cfg).drain (afterMessages .server (start none : ReaderState p) ms)
          tail).error.or (checkEnded .server
          ⟨((parser .server cfg).drain (afterMessages .server (start none : ReaderState p) ms)
            tail).state,
          ((parser .server cfg).drain (afterMessages .server (start none : ReaderState p) ms)
            tail).rest⟩)) := by
  rw [streamOf, drain_messages (k := .server) h tail (start none) rfl rfl]
  rfl

/-- Messages and nothing else end without an error. -/
theorem streamOf_only {cfg : ReaderConfig β} {ms : List β} {b : Bytes} (h : Messages cfg ms b) :
    streamOf p cfg b = (ms, none) := by
  have hstream := streamOf_messages (p := p) h []
  have hwait : (parser .server cfg).drain (afterMessages .server (start none : ReaderState p) ms)
      [] = ⟨[], afterMessages .server (start none) ms, [], none⟩ :=
    Parser.drain_wait _ (move_nil _)
  rw [List.append_nil, hwait] at hstream
  rw [hstream, List.append_nil]
  exact congrArg _ (checkEnded_clean (Or.inr (afterMessages_nextMessageLength .server ms _)))

/-- The error comes after the messages before it. -/
theorem streamOf_malformed {cfg : ReaderConfig β} {ms : List β} {b tail : Bytes} {e : Exc}
    (h : Messages cfg ms b) (htail : Malformed cfg tail e) :
    streamOf p cfg (b ++ tail) = (ms, some e) := by
  obtain ⟨houts, herror⟩ := malformed_drain htail
    (afterMessages_ended .server ms (start none : ReaderState p))
    (afterMessages_nextMessageLength .server ms _)
  rw [streamOf_messages h, houts, herror, List.append_nil]

/-! ## The outcome of a body -/

/-- The error of a body that is not one message envelope: the first malformed
    envelope, or UNIMPLEMENTED for a second message before it and for no message at
    all. -/
inductive FirstError (cfg : ReaderConfig β) : Bytes → Exc → Prop where
  | empty : FirstError cfg [] (.connect .unimplemented "unary request has zero messages")
  | second {f g : Frame} {m m' : β} {rest : Bytes} : IsMessage cfg f m → IsMessage cfg g m' →
      FirstError cfg (f.bytes ++ (g.bytes ++ rest))
        (.connect .unimplemented "unary request has multiple messages")
  | first {b : Bytes} {e : Exc} : Malformed cfg b e → FirstError cfg b e
  | later {f : Frame} {m : β} {b : Bytes} {e : Exc} : IsMessage cfg f m → Malformed cfg b e →
      FirstError cfg (f.bytes ++ b) e

/-- One frame holds one message. -/
theorem messages_one {cfg : ReaderConfig β} {f : Frame} {m : β} (h : IsMessage cfg f m) :
    Messages cfg [m] f.bytes := by
  have hmessages := Messages.cons h .nil
  rw [List.append_nil] at hmessages
  exact hmessages

/-- **The message that is consumed** is the one whose envelope the body is. -/
theorem consume_ok_iff (p : Platform) (cfg : ReaderConfig β) (body : Bytes) (m : β) :
    consumeSingleRequest (streamOf p cfg body) = .ok m
      ↔ ∃ f, body = Frame.bytes f ∧ IsMessage cfg f m := by
  have hconsumed := consumeSingle_consumed "unary request has multiple messages"
    "unary request has zero messages" (streamOf p cfg body).1 (streamOf p cfg body).2
  constructor
  · intro hok
    obtain ⟨hone, hnone⟩ := (hconsumed.one m).mp hok
    obtain ⟨ms, b, tail, hms, rfl, ⟨rfl, hstream⟩ | ⟨e, -, hstream⟩⟩ := streamOf_cases p cfg body
    · rw [hstream] at hone
      dsimp only at hone
      subst hone
      cases hms with
      | cons hm hrest =>
          cases hrest
          exact ⟨_, by rw [List.append_nil, List.append_nil], hm⟩
    · rw [hstream] at hnone
      exact nomatch hnone
  · rintro ⟨f, rfl, hm⟩
    rw [streamOf_only (messages_one hm)]
    rfl

/-- **The error that is raised** is the first of the body. -/
theorem consume_error_iff (p : Platform) (cfg : ReaderConfig β) (body : Bytes) (e : Exc) :
    consumeSingleRequest (streamOf p cfg body) = .error e ↔ FirstError cfg body e := by
  constructor
  · intro herror
    -- A body is messages, and behind them nothing or a malformed envelope.
    obtain ⟨ms, b, tail, hms, rfl, hcase⟩ := streamOf_cases p cfg body
    cases hms with
    | nil =>
        rcases hcase with ⟨rfl, hstream⟩ | ⟨e', hmalformed, hstream⟩
        · rw [hstream] at herror
          injection herror with herror
          exact herror ▸ .empty
        · rw [hstream] at herror
          injection herror with herror
          exact herror ▸ .first hmalformed
    | @cons f m ms b' hm hrest =>
        cases hrest with
        | nil =>
            rcases hcase with ⟨rfl, hstream⟩ | ⟨e', hmalformed, hstream⟩
            · rw [hstream] at herror
              exact nomatch herror
            · rw [hstream] at herror
              injection herror with herror
              rw [List.append_nil]
              exact herror ▸ .later hm hmalformed
        | @cons g m' ms b'' hm' hrest =>
            -- With two messages the second is refused, whatever comes behind it.
            have hmany : e = .connect .unimplemented "unary request has multiple messages" := by
              rcases hcase with ⟨-, hstream⟩ | ⟨e', -, hstream⟩
              · rw [hstream] at herror
                injection herror with herror
                exact herror.symm
              · rw [hstream] at herror
                injection herror with herror
                exact herror.symm
            rw [hmany, List.append_assoc, List.append_assoc]
            exact .second hm hm'
  · intro hfirst
    cases hfirst with
    | empty =>
        rw [streamOf_only (show Messages cfg [] [] from .nil)]
        rfl
    | second hm hm' =>
        rw [← List.append_assoc,
          streamOf_messages (show Messages cfg _ _ from .cons hm (messages_one hm'))]
        rfl
    | first hmalformed =>
        have hstream := streamOf_malformed (p := p) (show Messages cfg [] [] from .nil) hmalformed
        rw [List.nil_append] at hstream
        rw [hstream]
        rfl
    | later hm hmalformed =>
        rw [streamOf_malformed (messages_one hm) hmalformed]
        rfl

/-- Every such error is a `ConnectError`. -/
theorem malformed_connectError {cfg : ReaderConfig β} (hcfg : OnlyExceptions cfg) {b : Bytes}
    {e : Exc} (h : Malformed cfg b e) : e.isConnectError = true := by
  cases h with
  | eof _ _ => rfl
  | flags _ _ => rfl
  | tooLarge _ _ _ _ => rfl
  | truncated _ _ _ _ => rfl
  | contents _ _ hc => exact messageContents_connectError hcfg hc
  | undecodable _ _ _ hd => exact decodeMessage_connectError hcfg.codec hd

/-- The first error in a body is a `ConnectError`. -/
theorem firstError_connectError {cfg : ReaderConfig β} (hcfg : OnlyExceptions cfg) {b : Bytes}
    {e : Exc} (h : FirstError cfg b e) : e.isConnectError = true := by
  cases h with
  | empty => rfl
  | second _ _ => rfl
  | first h => exact malformed_connectError hcfg h
  | later _ h => exact malformed_connectError hcfg h

/-! ## The handler -/

/-- What the two servers do for a method that takes one request: consume it, and
    invoke the handler's function with it. -/
def invoke (function : β → Prog ω Exc γ) (stream : List β × Option Exc) : Prog ω Exc γ := do
  let request ← Prog.ofExcept (consumeSingleRequest stream)
  function request

/-- A handler is called with the one message. -/
theorem invoke_ok (function : β → Prog ω Exc γ) {stream : List β × Option Exc} {m : β}
    (h : consumeSingleRequest stream = .ok m) : invoke function stream = function m := by
  rw [invoke, h]
  rfl

/-- And not called where there is none or a second. -/
theorem invoke_error (function : β → Prog ω Exc γ) {stream : List β × Option Exc} {e : Exc}
    (h : consumeSingleRequest stream = .error e) : invoke function stream = Prog.raise e := by
  rw [invoke, h]
  rfl

/-- A function that keeps the requests it is invoked with. -/
def recorded (function : β → Prog ω Exc γ) (request : β) : Prog (ω × List β) Exc γ := fun s =>
  ((function request s.1).1, (function request s.1).2, s.2 ++ [request])

/-- On an ASGI server. -/
def asgiInvoke (p : Platform) (cfg : ReaderConfig β) (events : List Event)
    (function : β → Prog ω Exc γ) : Prog ω Exc γ :=
  match forEvents cfg (Reader.new none : Reader p) events with
  | none => Prog.stuck
  | some stream => invoke function stream

/-- On a WSGI server. -/
def wsgiInvoke (p : Platform) (cfg : ReaderConfig β) (environ : Environ)
    (function : β → Prog ω Exc γ) : Prog ω Exc γ :=
  invoke function (forBody cfg (Reader.new none : Reader p) (.fromEnviron environ))

/-- `EndpointUnary` and `EndpointServerStream`, with the function of the handler; that of
    a stream returns its generator. -/
inductive Handler (ω β α : Type) where
  | unary (function : β → Prog ω Exc α)
  | serverStream (function : β → Prog ω Exc Unit)

def Handler.endpoint : Handler ω β α → EndpointKind
  | .unary _ => .unary
  | .serverStream _ => .serverStream

/-- An ASGI request for that handler. -/
def Handler.inAsgi (handler : Handler ω β α) (cfg : ReaderConfig β) (events : List Event)
    (env : ConnectAsgi.Env p ω ι τ α) : ConnectAsgi.Env p ω ι τ α :=
  match handler with
  | .unary function => { env with callSingle := asgiInvoke p cfg events function }
  | .serverStream function => { env with openStream := asgiInvoke p cfg events function }

/-- A WSGI request for it. -/
def Handler.inWsgi (handler : Handler ω β α) (cfg : ReaderConfig β) (environ : Environ)
    (app : ConnectWsgi.App p ω ι τ α) : ConnectWsgi.App p ω ι τ α :=
  match handler with
  | .unary function => { app with callSingle := wsgiInvoke p cfg environ function }
  | .serverStream function => { app with openStream := wsgiInvoke p cfg environ function }

section Handlers

variable (handler : Handler ω β α) (cfg : ReaderConfig β) (events : List Event)
  (environ : Environ) (env : ConnectAsgi.Env p ω ι τ α) (app : ConnectWsgi.App p ω ι τ α)

@[simp] theorem inAsgi_interceptors :
    (handler.inAsgi cfg events env).interceptors = env.interceptors := by
  cases handler <;> rfl

@[simp] theorem inAsgi_watchEnter :
    (handler.inAsgi cfg events env).watchEnter = env.watchEnter := by
  cases handler <;> rfl

@[simp] theorem inAsgi_watchExit :
    (handler.inAsgi cfg events env).watchExit = env.watchExit := by
  cases handler <;> rfl

@[simp] theorem inWsgi_interceptors :
    (handler.inWsgi cfg environ app).interceptors = app.interceptors := by
  cases handler <;> rfl

end Handlers

/-! ## The error response -/

/-- The response of a WSGI server to a request that failed before its first message. -/
def wsgiErrorResponse (app : ConnectWsgi.App p ω ι τ α) (st : StreamResponse α) (e : Exc) :
    Prog (ConnectWsgi.Run ω ι τ α) Exc (ConnectWsgi.Response α) := do
  ConnectWsgi.await app.drainRequestBody
  ConnectWsgi.sendHeaders app st
  let chunk ← ConnectWsgi.endResponse app st (some e)
  pure (.list [chunk])

/-- A `ConnectError` is an `Exception`. -/
theorem isException_of_connectError {e : Exc} (he : e.isConnectError = true) :
    e.isException = true := by
  cases e with
  | connectError error => rfl
  | _ => exact nomatch he

/-- A WSGI request without interceptors whose handler cannot be invoked. -/
theorem wsgi_error (app : ConnectWsgi.App p ω ι τ α) (st : StreamResponse α) {e : Exc} (w : ω)
    (hinterceptors : app.interceptors = []) (hcompression : st.requestCompression = .ok ())
    (he : e.isConnectError = true)
    (hopen : ConnectWsgi.openResponses app st (ConnectWsgi.Run.new w)
      = (.raise e, ConnectWsgi.Run.new w)) :
    ConnectWsgi.handleStream app st (ConnectWsgi.Run.new w)
      = wsgiErrorResponse app st e { ConnectWsgi.Run.new w with ended := true } := by
  have hstart : ConnectWsgi.startRun app (ConnectWsgi.Run.new w)
      = (.ret (), ConnectWsgi.Run.new w) := by
    rw [ConnectWsgi.startRun, hinterceptors]
    rfl
  have hbody : ConnectWsgi.streamBody app st (ConnectWsgi.Run.new w)
      = (.raise e, ConnectWsgi.Run.new w) := by
    rw [ConnectWsgi.streamBody, Prog.bind_ret hstart, hcompression,
      Prog.bind_ret (show Prog.ofExcept (.ok ()) _ = _ from rfl), Prog.bind_raise hopen]
  have hexception := isException_of_connectError he
  rw [ConnectWsgi.handleStream, Prog.rescue_raise hbody, if_pos hexception]
  refine (Prog.bind_ret (show ConnectWsgi.endRun app (some e) (ConnectWsgi.Run.new w)
    = (.ret (some e), { ConnectWsgi.Run.new w with ended := true }) from rfl)).trans ?_
  have hlog : (ConnectWsgi.maybeLogException app e : Prog (ConnectWsgi.Run ω ι τ α) Exc Unit)
      = pure () := by
    rw [ConnectWsgi.maybeLogException, ConnectAsgi.isReported, he]
    rfl
  dsimp only
  rw [hlog]
  rfl

/-- The end of an ASGI request whose run has ended in the error. -/
def asgiErrorEnd (env : ConnectAsgi.Env p ω ι τ α) (st : StreamResponse α) (e : Exc) :
    Prog (ConnectAsgi.Run ω ι τ α) Exc Unit := do
  Prog.always
    (do
      let responded ← ConnectAsgi.streamEnd env st (some e)
      Prog.modify fun s => { s with responded := responded })
    (do
      let s ← Prog.get
      if s.requestStream then ConnectAsgi.await env.acloseRequest else pure ())
  let s ← Prog.get
  match s.error with
  | none => pure ()
  | some e => if !s.responded || !ConnectAsgi.isReported e then Prog.raise e else pure ()

/-- A call in the state of a request. -/
theorem await_apply {x : Prog ω Exc γ} {s : ConnectAsgi.Run ω ι τ α} {o : Outcome Exc γ} {w : ω}
    (h : x s.world = (o, w)) : ConnectAsgi.await x s = (o, { s with world := w }) := by
  show ((x s.world).1, { s with world := (x s.world).2 }) = (o, { s with world := w })
  rw [h]

section Asgi

variable (env : ConnectAsgi.Env p ω ι τ α) (st : StreamResponse α) {e : Exc} {w w' w'' : ω}
  (hinterceptors : env.interceptors = []) (hcompression : st.requestCompression = .ok ())
  (he : e.isConnectError = true) (henter : env.watchEnter w = (.ret (), w'))
  (hexit : env.watchExit w' = (.ret (), w''))
  (hopen : ConnectAsgi.openResponses env st
      { ConnectAsgi.Run.new w' with requestStream := true }
    = (.raise e, { ConnectAsgi.Run.new w' with requestStream := true }))

include hinterceptors hcompression henter hexit hopen

/-- The error leaves the watch, and `serve`. -/
theorem serve_error (n : Nat) :
    ConnectAsgi.serve env (.stream st) n (ConnectAsgi.Run.new w)
      = (.raise e, { ConnectAsgi.Run.new w'' with requestStream := true }) := by
  have hstart : ConnectAsgi.startRun env (ConnectAsgi.Run.new w)
      = (.ret (), ConnectAsgi.Run.new w) := by
    rw [ConnectAsgi.startRun, hinterceptors]
    rfl
  have hcall : ConnectAsgi.callStream env st n (ConnectAsgi.Run.new w)
      = (.raise e, { ConnectAsgi.Run.new w'' with requestStream := true }) := by
    have hwatch : ConnectAsgi.await env.watchEnter
          ({ ConnectAsgi.Run.new w with requestStream := true } : ConnectAsgi.Run ω ι τ α)
        = (.ret (), { ConnectAsgi.Run.new w' with requestStream := true }) :=
      await_apply henter
    have hunwatch : ConnectAsgi.await env.watchExit
          ({ ConnectAsgi.Run.new w' with requestStream := true } : ConnectAsgi.Run ω ι τ α)
        = (.ret (), { ConnectAsgi.Run.new w'' with requestStream := true }) :=
      await_apply hexit
    have hresponses : ConnectAsgi.streamResponses env st n
          { ConnectAsgi.Run.new w' with requestStream := true }
        = (.raise e, { ConnectAsgi.Run.new w' with requestStream := true }) :=
      Prog.bind_raise hopen
    refine (Prog.bind_ret rfl).trans ((Prog.bind_ret hwatch).trans ?_)
    rw [Prog.always, hresponses]
    dsimp only
    rw [hunwatch]
  rw [ConnectAsgi.serve, Prog.bind_ret hstart, hcompression,
    Prog.bind_ret (show Prog.ofExcept (.ok ()) _ = _ from rfl), Prog.bind_raise hcall]

include he in
/-- An ASGI request without interceptors whose handler cannot be invoked, when the watch
    for a disconnect does not stop it. -/
theorem asgi_error (n : Nat) :
    ConnectAsgi.handleRequest env (.stream st) n (ConnectAsgi.Run.new w)
      = asgiErrorEnd env st e
          { ConnectAsgi.Run.new w'' with error := some e, requestStream := true } := by
  have hserve := serve_error env st hinterceptors hcompression henter hexit hopen n
  have hkeep : ConnectAsgi.keepError (ConnectAsgi.serve env (.stream st) n)
        (ConnectAsgi.Run.new w)
      = (.ret none, { ConnectAsgi.Run.new w'' with error := some e, requestStream := true }) := by
    rw [ConnectAsgi.keepError, Prog.rescue_raise hserve, if_pos (isException_of_connectError he)]
    rfl
  have hscope : Prog.rescue (ConnectAsgi.inTimeoutScope env
        (ConnectAsgi.scopeBody env (.stream st) n)) (ConnectAsgi.exceptClauses env)
        (ConnectAsgi.Run.new w)
      = (.ret (), { ConnectAsgi.Run.new w'' with error := some e, requestStream := true }) := by
    refine Prog.rescue_ret (Prog.rescue_ret ?_)
    exact (Prog.bind_ret hkeep).trans rfl
  rw [ConnectAsgi.handleRequest, asgiErrorEnd]
  refine Prog.bind_congr ((Prog.always_ret hscope).trans ?_)
  -- The second `metadata_run.end` has nothing left to end.
  have hwrite : ConnectAsgi.writeStatus env (.stream st)
        { ConnectAsgi.Run.new w'' with error := some e, requestStream := true }
      = (do
          let responded ← ConnectAsgi.streamEnd env st (some e)
          Prog.modify fun s => { s with responded := responded })
        { ConnectAsgi.Run.new w'' with error := some e, requestStream := true } := rfl
  exact Prog.always_congr hwrite

end Asgi

/-- Opening the responses of a handler that is not invoked. -/
theorem openResponses_asgi (handler : Handler ω β α) (env : ConnectAsgi.Env p ω ι τ α)
    {st : StreamResponse α} (hendpoint : st.endpoint = handler.endpoint) {cfg : ReaderConfig β}
    {events : List Event} {e : Exc}
    (hraise : ∀ {γ : Type} (function : β → Prog ω Exc γ),
      asgiInvoke p cfg events function = Prog.raise e) (s : ConnectAsgi.Run ω ι τ α) :
    ConnectAsgi.openResponses (handler.inAsgi cfg events env) st s = (.raise e, s) := by
  rw [ConnectAsgi.openResponses, hendpoint]
  cases handler with
  | unary function =>
      exact Prog.bind_raise (await_apply (congrFun (hraise function) s.world))
  | serverStream function => exact await_apply (congrFun (hraise function) s.world)

/-- A handler that is not called leaves a WSGI request with the error. -/
theorem openResponses_wsgi (handler : Handler ω β α) (app : ConnectWsgi.App p ω ι τ α)
    {st : StreamResponse α} (hendpoint : st.endpoint = handler.endpoint) {cfg : ReaderConfig β}
    {environ : Environ} {e : Exc}
    (hraise : ∀ {γ : Type} (function : β → Prog ω Exc γ),
      wsgiInvoke p cfg environ function = Prog.raise e) (s : ConnectWsgi.Run ω ι τ α) :
    ConnectWsgi.openResponses (handler.inWsgi cfg environ app) st s = (.raise e, s) := by
  have hawait : ∀ {γ : Type} (function : β → Prog ω Exc γ),
      ConnectWsgi.await (wsgiInvoke p cfg environ function) s = (.raise e, s) := by
    intro γ function
    rw [hraise]
    rfl
  rw [ConnectWsgi.openResponses, hendpoint]
  cases handler with
  | unary function => exact Prog.bind_raise (hawait function)
  | serverStream function => exact Prog.bind_raise (hawait function)

/-! ## Exactly one message -/

/-- What a server does that reads a body and serves a function with it. -/
structure OneRequest (cfg : ReaderConfig β) (body : Bytes)
    (serve : ∀ {ω γ : Type}, (β → Prog ω Exc γ) → Prog ω Exc γ) : Prop where
  /-- The function is invoked once with the one message, and otherwise not at all. -/
  invoked : ∀ {ω γ : Type} (function : β → Prog ω Exc γ) (w : ω) (ms : List β),
    (serve (recorded function) (w, [])).2.2 = ms
      ↔ (∃ f m, ms = [m] ∧ body = Frame.bytes f ∧ IsMessage cfg f m)
        ∨ ms = [] ∧ ∃ e, FirstError cfg body e
  served  : ∀ {f m}, body = Frame.bytes f → IsMessage cfg f m →
    ∀ {ω γ : Type} (function : β → Prog ω Exc γ), serve function = function m
  refused : ∀ {e}, FirstError cfg body e →
    ∀ {ω γ : Type} (function : β → Prog ω Exc γ), serve function = Prog.raise e

/-- Serving the stream of a body. -/
theorem invoke_oneRequest (p : Platform) (cfg : ReaderConfig β) (body : Bytes) :
    OneRequest cfg body fun function => invoke function (streamOf p cfg body) where
  invoked := by
    intro ω γ function w ms
    cases hconsume : consumeSingleRequest (streamOf p cfg body) with
    | ok m =>
        rw [invoke_ok _ hconsume]
        constructor
        · rintro rfl
          obtain ⟨f, hbody, hm⟩ := (consume_ok_iff p cfg body m).mp hconsume
          exact Or.inl ⟨f, m, rfl, hbody, hm⟩
        · rintro (⟨f, m', rfl, hbody, hm⟩ | ⟨rfl, e, he⟩)
          · rw [(consume_ok_iff p cfg body m').mpr ⟨f, hbody, hm⟩] at hconsume
            rw [Except.ok.inj hconsume]
            rfl
          · rw [(consume_error_iff p cfg body e).mpr he] at hconsume
            exact nomatch hconsume
    | error e =>
        rw [invoke_error _ hconsume]
        constructor
        · rintro rfl
          exact Or.inr ⟨rfl, e, (consume_error_iff p cfg body e).mp hconsume⟩
        · rintro (⟨f, m', rfl, hbody, hm⟩ | ⟨rfl, -⟩)
          · rw [(consume_ok_iff p cfg body m').mpr ⟨f, hbody, hm⟩] at hconsume
            exact nomatch hconsume
          · rfl
  served := fun hbody hm _ _ function =>
    invoke_ok function ((consume_ok_iff p cfg body _).mpr ⟨_, hbody, hm⟩)
  refused := fun he _ _ function =>
    invoke_error function ((consume_error_iff p cfg body _).mpr he)

/-- Two ways to call a handler that agree. -/
theorem OneRequest.congr {cfg : ReaderConfig β} {body : Bytes}
    {serve serve' : ∀ {ω γ : Type}, (β → Prog ω Exc γ) → Prog ω Exc γ}
    (h : OneRequest cfg body serve')
    (heq : ∀ {ω γ : Type} (function : β → Prog ω Exc γ), serve function = serve' function) :
    OneRequest cfg body serve where
  invoked := by
    intro ω γ function w ms
    rw [heq]
    exact h.invoked function w ms
  served := fun hbody hm _ _ function => (heq function).trans (h.served hbody hm function)
  refused := fun he _ _ function => (heq function).trans (h.refused he function)

/-- An ASGI server calls it by the body of the request, however that is split. -/
theorem asgi_oneRequest (p : Platform) (cfg : ReaderConfig β) {events : List Event} {body : Bytes}
    (h : Splits events body) : OneRequest cfg body (asgiInvoke p cfg events) := by
  refine (invoke_oneRequest p cfg body).congr fun function => ?_
  rw [asgiInvoke, (request_streams_agree p cfg body).1 events h]

/-- A WSGI server calls it by the body, however much a read returns. -/
theorem wsgi_oneRequest (p : Platform) (cfg : ReaderConfig β) {environ : Environ} {body : Bytes}
    (hinput : environ.wsgiInput.data = body) (hlength : Truthful environ.contentLength body) :
    OneRequest cfg body (wsgiInvoke p cfg environ) := by
  refine (invoke_oneRequest p cfg body).congr fun function => ?_
  rw [wsgiInvoke, (request_streams_agree p cfg body).2 environ hinput hlength]

/-- **EXACTLY ONE MESSAGE.**  On both servers the handler is invoked exactly when the body
    is the envelope of one message, once and with it.  Otherwise the response of a request
    without interceptors carries the first error of the body.  The client takes the one
    message of a response in the same way. -/
theorem exactly_one_message (p : Platform) {cfg : ReaderConfig β} (hcfg : OnlyExceptions cfg)
    {body : Bytes} {events : List Event} (hevents : Splits events body) {environ : Environ}
    (hinput : environ.wsgiInput.data = body) (hlength : Truthful environ.contentLength body) :
    OneRequest cfg body (asgiInvoke p cfg events)
    ∧ OneRequest cfg body (wsgiInvoke p cfg environ)
    ∧ (∀ e, FirstError cfg body e → ∀ {ω ι τ α : Type} (handler : Handler ω β α)
      (st : StreamResponse α), st.endpoint = handler.endpoint → st.requestCompression = .ok () →
      (∀ (env : ConnectAsgi.Env p ω ι τ α) (n : Nat) (w w' w'' : ω), env.interceptors = [] →
        env.watchEnter w = (.ret (), w') → env.watchExit w' = (.ret (), w'') →
        ConnectAsgi.handleRequest (handler.inAsgi cfg events env) (.stream st) n
            (ConnectAsgi.Run.new w)
          = asgiErrorEnd (handler.inAsgi cfg events env) st e
            { ConnectAsgi.Run.new w'' with error := some e, requestStream := true })
      ∧ ∀ (app : ConnectWsgi.App p ω ι τ α) (w : ω), app.interceptors = [] →
        ConnectWsgi.handleStream (handler.inWsgi cfg environ app) st (ConnectWsgi.Run.new w)
          = wsgiErrorResponse (handler.inWsgi cfg environ app) st e
            { ConnectWsgi.Run.new w with ended := true })
    ∧ ∀ (messages : List β) (error : Option Exc),
      Consumed "unary response has multiple messages" "unary response has zero messages" messages
        error (ConnectClient.consumeSingleResponse (messages, error)) := by
  have hasgi := asgi_oneRequest p cfg hevents
  have hwsgi := wsgi_oneRequest p cfg hinput hlength
  refine ⟨hasgi, hwsgi, ?_, fun messages error => ?_⟩
  · intro e he ω ι τ α handler st hendpoint hcompression
    have hconnect := firstError_connectError hcfg he
    refine ⟨fun env n w w' w'' hinterceptors henter hexit => ?_, fun app w hinterceptors => ?_⟩
    · exact asgi_error (handler.inAsgi cfg events env) st (by simpa using hinterceptors)
        hcompression hconnect (by simpa using henter) (by simpa using hexit)
        (openResponses_asgi handler env hendpoint (hasgi.refused he) _) n
    · exact wsgi_error (handler.inWsgi cfg environ app) st w (by simpa using hinterceptors)
        hcompression hconnect (openResponses_wsgi handler app hendpoint (hwsgi.refused he) _)
  · rw [consumeSingleResponse_eq]
    exact consumeSingle_consumed _ _ messages error

theorem oneByte_small : ([0x78] : Bytes).length < 0x100000000 := by decide

/-- A message of one byte. -/
def oneFrame : Frame := ⟨0, [0x78], oneByte_small⟩

/-- The frame of the example holds a message. -/
theorem isMessage_oneFrame : IsMessage rawConfig oneFrame [0x78] :=
  ⟨Or.inl rfl, rfl, [0x78], .plain rfl, rfl⟩

/-- Its handler is called with that message. -/
theorem exactly_one_message_oneFrame :
    (wsgiInvoke Platform.plain rawConfig ⟨some "6", none, oneFrame.bytes, fun _ => 0⟩
      (recorded fun request => (pure request : Prog Unit Exc Bytes)) ((), [])).2.2 = [[0x78]] :=
  ((exactly_one_message Platform.plain rawConfig_onlyExceptions
    (show Splits [.request (some oneFrame.bytes) none] oneFrame.bytes from .last rfl [])
    (show (⟨some "6", none, oneFrame.bytes, fun _ => 0⟩ : Environ).wsgiInput.data
      = oneFrame.bytes from rfl)
    (show Truthful (some "6") oneFrame.bytes from fun _ h =>
      Or.inr (Option.some.inj h ▸ by decide))).2.1.invoked _ () [[0x78]]).mpr
    (Or.inl ⟨oneFrame, [0x78], rfl, rfl, isMessage_oneFrame⟩)

end ConnectSingle
