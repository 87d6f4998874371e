import ConnectPy.ClientCallProofs

/-! # Response metadata — a history of calls in one context

    A `ResponseMetadata` is written twice by a call: `handle_response_headers` when the
    response arrives, `handle_response_trailers` when its end is read.  Neither starts
    over.  The first stores the headers and the trailers of the response only if there
    are any, the second adds to the trailers that are there.

    What a call writes does not depend on what it finds (`metadata_writes`): two runs of
    a call from two metadata make the same writes.  So after a sequence of calls the
    metadata is that of the last call alone exactly if each call had nothing to keep of
    the ones before (`describes_last_iff`).  Headers there are to keep as soon as one
    response had any (`metadataAfter_headers_iff`). -/

namespace ConnectResponseMetadata

open Resumable Framing
open Utf8 (Bytes)
open OrderedDict
open ConnectErrors ConnectPlatform ConnectHeaders ConnectWireErrors ConnectGrpcStatus
open ConnectEnvelope ConnectWriter ConnectUnaryRequest ConnectNegotiation ConnectUnaryGet
open ConnectContentType ConnectClient

variable {p : Platform} {α β : Type}

/-! ## What a call leaves in the ambient metadata -/

section Calls

variable (streamErrorCode : Exc → Option StreamErrorCode)

/-- `raiseReset`, with the metadata `handle_response_complete` leaves. -/
def raiseResetIn (kind : ReaderKind) (l : Left p β) (resp : Option (Opened p))
    (reset : ConnectError) : Exc × Option (ResponseMetadata p) :=
  match l.reader, resp with
  | some reader, some resp =>
      let completed :=
        handleResponseComplete kind reader ⟨resp.headers, resp.trailers⟩ (some reset)
      (completed.2.getD (.connectError reset), completed.1.response)
  | _, _ => (.connectError reset, l.response)

/-- `except Exception`. -/
def exceptExceptionIn (kind : ReaderKind) (l : Left p β) (resp : Option (Opened p))
    (timeLeft : Option Int) (e : Exc) : Exc × Option (ResponseMetadata p) :=
  match l.streamError with
  | some streamError => (streamError, l.response)
  | none =>
      match maybeMapStreamReset streamErrorCode e timeLeft with
      | some reset => raiseResetIn kind l resp reset
      | none => (.connect .unavailable e.text, l.response)

/-- The clauses of `_send_request_bidi_stream`. -/
def exceptClausesIn (f : Flavor) (kind : ReaderKind) (l : Left p β) (resp : Option (Opened p))
    (timeLeft : Option Int) (e : Exc) : Exc × Option (ResponseMetadata p) :=
  match firstClauses f e with
  | some e => (e, l.response)
  | none =>
      if e.isException then exceptExceptionIn streamErrorCode kind l resp timeLeft e
      else (e, l.response)

/-- What a stream comes to: its messages, its exception and the ambient metadata. -/
structure Streamed (p : Platform) (β : Type) where
  messages : List β
  error    : Option Exc
  response : Option (ResponseMetadata p)

/-- `_send_request_bidi_stream`, to its end. -/
def sendRequestBidiStreamIn (f : Flavor) (client : Client α β) (requests : Requests α)
    (x : Exchange p) (current : Option (ResponseMetadata p)) : Streamed p β :=
  if isOver x.timeoutMs then ⟨[], some (.connect .deadlineExceeded "Request timed out"), current⟩
  else
    let left := tryBody f client requests x current
    match left.1.error with
    | none => ⟨left.1.messages, none, left.1.response⟩
    | some e =>
        let raised := exceptClausesIn streamErrorCode f (readerKind client.protocol) left.1 left.2
          x.timeAtReset e
        ⟨left.1.messages, some raised.1, raised.2⟩

/-- The response a stream gets, if it gets one: its status and its headers. -/
def streamReceived (client : Client α β) (requests : Requests α) (x : Exchange p) :
    Option (Nat × p.HTTPHeaders) :=
  if isOver x.timeoutMs then none
  else
    match requestContent client requests with
    | .error _ => none
    | .ok _ =>
        match x.opened with
        | .error _ => none
        | .ok resp => some (resp.status, resp.headers)

/-- The metadata after `handle_response_headers` for the response, if there is one. -/
def afterHeaders (received : Option (Nat × p.HTTPHeaders))
    (current : Option (ResponseMetadata p)) : Option (ResponseMetadata p) :=
  match received with
  | none => current
  | some (status, headers) => handleResponseHeaders current status headers

/-- The metadata after `_consume_single_response`.  It raises over a second message as
    soon as that is there, and so before the end of the response is read
    (`message_response`). -/
def consumeSingleResponseIn (client : Client α β) (requests : Requests α) (x : Exchange p)
    (current : Option (ResponseMetadata p)) (stream : Streamed p β) :
    Option (ResponseMetadata p) :=
  match stream.messages with
  | _ :: _ :: _ => afterHeaders (streamReceived client requests x) current
  | _ => stream.response

/-- The response a unary call of the Connect protocol gets, if it gets one. -/
def unaryReceived (client : Client α β) (useGet : Bool) (requestHeaders : Headers p)
    (request : α) (timeoutMs : Option Int)
    (send : HttpRequest → Except Exc (FullResponse p)) : Option (Nat × p.HTTPHeaders) :=
  if isOver timeoutMs then none
  else
    match unaryRequest client.requestCodec (client.sendCompression.getD .identity) useGet
        requestHeaders request with
    | .error _ => none
    | .ok sent =>
        match send sent with
        | .error _ => none
        | .ok resp => some (resp.status, resp.headers)

end Calls

/-- A call within the context.  Its client, its messages and what becomes of its exchange
    may be others than those of the calls before. -/
inductive Call (p : Platform) : Type 1 where
  /-- `_send_request_unary` -/
  | unary {α β : Type} (f : Flavor) (client : Client α β) (useGet : Bool)
      (requestHeaders : Headers p) (request : α)
      (send : HttpRequest → Except Exc (FullResponse p)) (x : Exchange p)
  /-- `_send_request_client_stream` -/
  | clientStream {α β : Type} (f : Flavor) (client : Client α β) (requests : Requests α)
      (x : Exchange p)
  /-- `_send_request_server_stream` and `_send_request_bidi_stream`, iterated to the end -/
  | stream {α β : Type} (f : Flavor) (client : Client α β) (requests : Requests α)
      (x : Exchange p)

/-- The response of a call. -/
def Call.received : Call p → Option (Nat × p.HTTPHeaders)
  | .unary _ client useGet requestHeaders request send x =>
      if client.protocol = .connect then
        unaryReceived client useGet requestHeaders request x.timeoutMs send
      else streamReceived client (.list [request]) x
  | .clientStream _ client requests x => streamReceived client requests x
  | .stream _ client requests x => streamReceived client requests x

section Histories

variable (streamErrorCode : Exc → Option StreamErrorCode)

/-- The ambient metadata after a call.  A unary call of the Connect protocol writes to it
    once, when its response arrives. -/
def Call.metadata (call : Call p) (current : Option (ResponseMetadata p)) :
    Option (ResponseMetadata p) :=
  match call with
  | .unary f client useGet requestHeaders request send x =>
      if client.protocol = .connect then
        afterHeaders (unaryReceived client useGet requestHeaders request x.timeoutMs send) current
      else
        consumeSingleResponseIn client (.list [request]) x current
          (sendRequestBidiStreamIn streamErrorCode f client (.list [request]) x current)
  | .clientStream f client requests x =>
      consumeSingleResponseIn client requests x current
        (sendRequestBidiStreamIn streamErrorCode f client requests x current)
  | .stream f client requests x =>
      (sendRequestBidiStreamIn streamErrorCode f client requests x current).response

/-- `with ResponseMetadata():` around calls made one after the other. -/
def metadataAfter (calls : List (Call p)) : Option (ResponseMetadata p) :=
  calls.foldl (fun current call => call.metadata streamErrorCode current) (some (.fresh p))

end Histories

/-! ## The same calls -/

section Same

variable (streamErrorCode : Exc → Option StreamErrorCode)

theorem raiseResetIn_fst (kind : ReaderKind) (l : Left p β) (resp : Option (Opened p))
    (reset : ConnectError) :
    (raiseResetIn kind l resp reset).1 = raiseReset kind l.reader resp reset := by
  obtain ⟨messages, reader, streamError, response, error⟩ := l
  cases reader with
  | none => rfl
  | some reader => cases resp <;> rfl

theorem exceptClausesIn_fst (f : Flavor) (kind : ReaderKind) (l : Left p β)
    (resp : Option (Opened p)) (timeLeft : Option Int) (e : Exc) :
    (exceptClausesIn streamErrorCode f kind l resp timeLeft e).1
      = exceptClauses streamErrorCode f kind l resp timeLeft e := by
  rw [exceptClausesIn, exceptClauses]
  cases firstClauses f e with
  | some e => rfl
  | none =>
      dsimp only
      cases e.isException with
      | false => rfl
      | true =>
          rw [if_pos rfl, if_pos rfl, exceptExceptionIn, exceptException]
          cases l.streamError with
          | some streamError => rfl
          | none =>
              dsimp only
              cases maybeMapStreamReset streamErrorCode e timeLeft with
              | some reset => exact raiseResetIn_fst kind l resp reset
              | none => rfl

/-- The messages and the exception are those of the call without its metadata. -/
theorem sendRequestBidiStreamIn_result (f : Flavor) (client : Client α β)
    (requests : Requests α) (x : Exchange p) (current : Option (ResponseMetadata p)) :
    ((sendRequestBidiStreamIn streamErrorCode f client requests x current).messages,
        (sendRequestBidiStreamIn streamErrorCode f client requests x current).error)
      = sendRequestBidiStream streamErrorCode f client requests x current := by
  rw [sendRequestBidiStreamIn, sendRequestBidiStream]
  split
  · rfl
  · dsimp only
    cases (tryBody f client requests x current).1.error with
    | none => rfl
    | some e =>
        dsimp only
        rw [exceptClausesIn_fst]
        rfl

end Same

/-! ## Writes -/

/-- What `handle_response_trailers` makes of metadata that is there. -/
def extended (r : ResponseMetadata p) (pairs : Pairs) : ResponseMetadata p :=
  match r.trailers with
  | some trailers => { r with trailers := some (trailers.addAll pairs.added) }
  | none =>
      let trailers := (Headers.empty p).addAll pairs.added
      if pairs.error.isNone && trailers.nonempty then { r with trailers := some trailers } else r

theorem handleResponseTrailers_some (r : ResponseMetadata p) (pairs : Pairs) :
    handleResponseTrailers (some r) pairs = (some (extended r pairs), pairs.error) := by
  rw [handleResponseTrailers, extended]
  cases r.trailers with
  | some trailers => rfl
  | none =>
      dsimp only
      split
      · next h =>
          have herror : pairs.error = none :=
            Option.isNone_iff_eq_none.mp (Bool.and_eq_true_iff.mp h).1
          rw [herror]
      · rfl

/-- Two metadata to which the same writes were made. -/
def SameWrites (r₁ r₂ : ResponseMetadata p) (a b : Option (ResponseMetadata p)) : Prop :=
  ∃ writes : List Pairs, a = some (writes.foldl extended r₁) ∧ b = some (writes.foldl extended r₂)

/-- Reader states that differ in the metadata only, after the same writes. -/
inductive Apart (r₁ r₂ : ResponseMetadata p) : ReaderState p → ReaderState p → Prop where
  | mk (s : ReaderState p) {a b : Option (ResponseMetadata p)} (h : SameWrites r₁ r₂ a b) :
      Apart r₁ r₂ { s with response := a } { s with response := b }

section Readers

variable {r₁ r₂ : ResponseMetadata p} {k : ReaderKind}

/-- What such states share. -/
theorem Apart.fields {s t : ReaderState p} (h : Apart r₁ r₂ s t) :
    t.ended = s.ended ∧ t.nextMessageLength = s.nextMessageLength
      ∧ t.readMessage = s.readMessage ∧ t.trailers = s.trailers := by
  obtain ⟨s, -⟩ := h
  exact ⟨rfl, rfl, rfl, rfl⟩

theorem Apart.responses {s t : ReaderState p} (h : Apart r₁ r₂ s t) :
    SameWrites r₁ r₂ s.response t.response := by
  obtain ⟨s, h⟩ := h
  exact h

theorem handleResponseTrailers_same {a b : Option (ResponseMetadata p)}
    (h : SameWrites r₁ r₂ a b) (pairs : Pairs) :
    (handleResponseTrailers a pairs).2 = (handleResponseTrailers b pairs).2
      ∧ SameWrites r₁ r₂ (handleResponseTrailers a pairs).1
        (handleResponseTrailers b pairs).1 := by
  obtain ⟨writes, rfl, rfl⟩ := h
  rw [handleResponseTrailers_some, handleResponseTrailers_some]
  refine ⟨rfl, writes ++ [pairs], ?_, ?_⟩
  · rw [List.foldl_append]
    rfl
  · rw [List.foldl_append]
    rfl

/-- What the end message of a Connect stream hands over, if anything. -/
theorem handled_same {a b : Option (ResponseMetadata p)} (h : SameWrites r₁ r₂ a b)
    (metadata : Json) :
    ∃ a' b' e, SameWrites r₁ r₂ a' b'
      ∧ (if metadata.truthy then handleResponseTrailers a (metadataPairs p metadata)
          else (a, none)) = (a', e)
      ∧ (if metadata.truthy then handleResponseTrailers b (metadataPairs p metadata)
          else (b, none)) = (b', e) := by
  cases metadata.truthy with
  | false => exact ⟨a, b, none, h, rfl, rfl⟩
  | true =>
      obtain ⟨herror, hsame⟩ := handleResponseTrailers_same h (metadataPairs p metadata)
      exact ⟨_, _, _, hsame, rfl, Prod.ext rfl herror.symm⟩

theorem handleConnectEnd_same {s t : ReaderState p} (h : Apart r₁ r₂ s t) (b : UInt8)
    (data : Bytes) :
    ∃ s' t' result, handleConnectEnd s b data = (s', result)
      ∧ handleConnectEnd t b data = (t', result) ∧ Apart r₁ r₂ s' t' := by
  obtain ⟨s, h⟩ := h
  rw [handleConnectEnd, handleConnectEnd]
  split
  · exact ⟨_, _, _, rfl, rfl, .mk s h⟩
  · cases p.jsonLoads data with
    | error e => exact ⟨_, _, _, rfl, rfl, .mk s h⟩
    | ok j =>
        cases j with
        | obj entries =>
            dsimp only
            obtain ⟨a', b', e, h', ha, hb⟩ :=
              handled_same h ((Json.field "metadata" entries).getD .null)
            rw [ha, hb]
            dsimp only
            cases e with
            | some e => exact ⟨_, _, _, rfl, rfl, .mk s h'⟩
            | none =>
                dsimp only
                split
                · cases ConnectWireError.fromDict p ((Json.field "error" entries).getD .null) 500
                    .unknown with
                  | error e => exact ⟨_, _, _, rfl, rfl, .mk s h'⟩
                  | ok wireError => exact ⟨_, _, _, rfl, rfl, .mk s h'⟩
                · exact ⟨_, _, _, rfl, rfl, .mk s h'⟩
        | _ => exact ⟨_, _, _, rfl, rfl, .mk s h⟩

theorem handleEndMessage_same {s t : ReaderState p} (h : Apart r₁ r₂ s t) (b : UInt8)
    (data : Bytes) :
    ∃ s' t' result, handleEndMessage k s b data = (s', result)
      ∧ handleEndMessage k t b data = (t', result) ∧ Apart r₁ r₂ s' t' := by
  cases k with
  | server => exact ⟨s, t, _, rfl, rfl, h⟩
  | connect => exact handleConnectEnd_same h b data
  | grpc =>
      obtain ⟨s, h⟩ := h
      exact ⟨_, _, _, rfl, rfl, .mk { s with readMessage := true } h⟩
  | grpcWeb =>
      obtain ⟨s, h⟩ := h
      rw [handleEndMessage, handleEndMessage, handleWebEnd, handleWebEnd]
      dsimp only
      split
      · exact ⟨_, _, _, rfl, rfl, .mk { s with readMessage := true } h⟩
      · split
        · exact ⟨_, _, _, rfl, rfl, .mk { s with readMessage := true, trailers := _ } h⟩
        · exact ⟨_, _, _, rfl, rfl, .mk { s with readMessage := true, trailers := _ } h⟩

/-- The move of a whole frame. -/
theorem handleFrame_same {s t : ReaderState p} (h : Apart r₁ r₂ s t) (cfg : ReaderConfig α)
    (b : UInt8) (data rest : Bytes) :
    (match handleFrame k cfg s b data with
      | .raised s e => Move.fail s rest e
      | .ended s => .advance s rest none
      | .message s res => .advance s rest (some res)).Related (Apart r₁ r₂)
    (match handleFrame k cfg t b data with
      | .raised s e => Move.fail s rest e
      | .ended s => .advance s rest none
      | .message s res => .advance s rest (some res)) := by
  rw [handleFrame, handleFrame]
  cases messageContents cfg b data with
  | error e => exact .fail rest e h
  | ok plain =>
      dsimp only
      obtain ⟨s', t', result, hs, ht, h'⟩ := handleEndMessage_same (k := k) h b plain
      rw [hs, ht]
      cases result with
      | error e => exact .fail rest e h'
      | ok ended =>
          cases ended with
          | true =>
              obtain ⟨s', h'⟩ := h'
              exact .advance rest none (.mk { s' with ended := true } h')
          | false =>
              dsimp only
              cases decodeMessage cfg.codec plain with
              | error e => exact .fail rest e h'
              | ok m => exact .advance rest (some m) h'

/-- The move of a prefix. -/
theorem readPrefix_same {s t : ReaderState p} (h : Apart r₁ r₂ s t) (cfg : ReaderConfig α)
    (b : Bytes) :
    (match readPrefix k cfg s b with
      | .incomplete => (Move.wait : Move UInt8 (ReaderState p) Exc α)
      | .raised s e => .fail s b e
      | .promised s => .advance s b none).Related (Apart r₁ r₂)
    (match readPrefix k cfg t b with
      | .incomplete => .wait
      | .raised s e => .fail s b e
      | .promised s => .advance s b none) := by
  obtain ⟨s, h⟩ := h
  have hpromised := Apart.mk { s with nextMessageLength := some (lengthOf b) } h
  rw [readPrefix, readPrefix]
  by_cases h5 : b.length < 5
  · rw [if_pos h5, if_pos h5]
    exact .wait
  · rw [if_neg h5, if_neg h5]
    by_cases hflags : flagOf b &&& ~~~k.flagsMask ≠ 0
    · rw [if_pos hflags, if_pos hflags]
      exact .fail b _ (Apart.mk s h)
    · rw [if_neg hflags, if_neg hflags]
      cases cfg.readMaxBytes with
      | none => exact .advance b none hpromised
      | some limit =>
          dsimp only
          cases exceeds (lengthOf b) (some limit) with
          | true => exact .fail b _ hpromised
          | false => exact .advance b none hpromised

theorem move_same (cfg : ReaderConfig α) {s t : ReaderState p} (h : Apart r₁ r₂ s t)
    (b : Bytes) :
    ((parser k cfg).move s b).Related (Apart r₁ r₂) ((parser k cfg).move t b) := by
  show (move k cfg s b).Related (Apart r₁ r₂) (move k cfg t b)
  obtain ⟨hended, hnext, -, -⟩ := h.fields
  have htaken : Apart r₁ r₂ s.taken t.taken := by
    obtain ⟨s, h⟩ := h
    exact .mk s.taken h
  rw [move, move, hended, hnext]
  split
  · exact .wait
  · cases s.nextMessageLength with
    | none => exact readPrefix_same h cfg b
    | some n =>
        dsimp only
        split
        · exact .wait
        · exact handleFrame_same htaken cfg _ _ _

/-- Readers with one buffer whose states differ in the metadata only. -/
structure ApartReader (r₁ r₂ : ResponseMetadata p) (r r' : Reader p) : Prop where
  state  : Apart r₁ r₂ r.toReaderState r'.toReaderState
  buffer : r.buffer = r'.buffer

/-- **Feeding makes the same writes.** -/
theorem feedAll_same {r r' : Reader p} (h : ApartReader r₁ r₂ r r') (cfg : ReaderConfig α)
    (chunks : List Bytes) :
    (feedAll k cfg r chunks).messages = (feedAll k cfg r' chunks).messages
      ∧ (feedAll k cfg r chunks).error = (feedAll k cfg r' chunks).error
      ∧ ApartReader r₁ r₂ (feedAll k cfg r chunks).reader (feedAll k cfg r' chunks).reader := by
  have hrun := (parser k cfg).run_related (move_same cfg) chunks _ r.buffer h.state
  rw [feedAll_eq_run, feedAll_eq_run, ← h.buffer]
  exact ⟨hrun.outs, hrun.error, hrun.state, hrun.rest⟩

theorem checkEnded_same {r r' : Reader p} (h : ApartReader r₁ r₂ r r') :
    checkEnded k r = checkEnded k r' := by
  obtain ⟨s, b⟩ := r
  obtain ⟨s', b'⟩ := r'
  obtain ⟨⟨s, h⟩, rfl⟩ := h
  rfl

theorem readStatus_same {r r' : Reader p} (h : ApartReader r₁ r₂ r r')
    (trailers : p.HTTPHeaders) (error : Option ConnectError) :
    (readStatus r trailers error).2 = (readStatus r' trailers error).2
      ∧ ApartReader r₁ r₂ (readStatus r trailers error).1 (readStatus r' trailers error).1 := by
  obtain ⟨s, b⟩ := r
  obtain ⟨s', b'⟩ := r'
  obtain ⟨⟨s, h⟩, rfl⟩ := h
  obtain ⟨-, hsame⟩ := handleResponseTrailers_same h (httpPairs trailers)
  rw [readStatus, readStatus, handleResponseTrailers_httpPairs, handleResponseTrailers_httpPairs]
  dsimp only
  cases p.getHeader trailers "grpc-status" with
  | none => exact ⟨rfl, .mk s hsame, rfl⟩
  | some status => exact ⟨rfl, .mk s hsame, rfl⟩

/-- **The end of a response makes the same writes.** -/
theorem handleResponseComplete_same {r r' : Reader p} (h : ApartReader r₁ r₂ r r')
    (resp : Response p) (error : Option ConnectError) :
    (handleResponseComplete k r resp error).2 = (handleResponseComplete k r' resp error).2
      ∧ ApartReader r₁ r₂ (handleResponseComplete k r resp error).1
        (handleResponseComplete k r' resp error).1 := by
  obtain ⟨hended, -, hread, htrailers⟩ := h.state.fields
  have hgrpc : ∀ t headers, (handleGrpcComplete r t headers error).2
        = (handleGrpcComplete r' t headers error).2
      ∧ ApartReader r₁ r₂ (handleGrpcComplete r t headers error).1
        (handleGrpcComplete r' t headers error).1 := by
    intro t headers
    rw [handleGrpcComplete, handleGrpcComplete, hread]
    split
    · exact readStatus_same h t error
    · split
      · exact ⟨rfl, h⟩
      · exact readStatus_same h headers error
  cases k with
  | server => exact ⟨rfl, h⟩
  | connect =>
      rw [handleResponseComplete, handleResponseComplete, hended]
      split
      · exact ⟨rfl, h⟩
      · exact ⟨rfl, h⟩
  | grpc => exact hgrpc resp.trailers resp.headers
  | grpcWeb =>
      rw [handleResponseComplete, handleResponseComplete, htrailers]
      exact hgrpc r.trailers resp.headers

end Readers

/-! ## The writes of a call -/

/-- What `handle_response_headers` makes of metadata that is there. -/
def arrived (r : ResponseMetadata p) (status : Nat) (headers : p.HTTPHeaders) :
    ResponseMetadata p :=
  let split := splitHeaders (p := p) (p.headerItems headers)
  { httpStatus := some status
    headers := if split.1.nonempty then some split.1 else r.headers
    trailers := if split.2.nonempty then some split.2 else r.trailers }

theorem handleResponseHeaders_some (r : ResponseMetadata p) (status : Nat)
    (headers : p.HTTPHeaders) :
    handleResponseHeaders (some r) status headers = some (arrived r status headers) := rfl

/-- Where two runs of a call stand when control leaves the `with` block. -/
structure ApartLeft (r₁ r₂ : ResponseMetadata p) (l l' : Left p β) : Prop where
  messages    : l.messages = l'.messages
  reader      : Option.Rel (ApartReader r₁ r₂) l.reader l'.reader
  streamError : l.streamError = l'.streamError
  response    : SameWrites r₁ r₂ l.response l'.response
  error       : l.error = l'.error

section Blocks

variable {r₁ r₂ : ResponseMetadata p}

theorem endBody_same (f : Flavor) (kind : ReaderKind) (resp : Opened p) (timeLeft : Option Int)
    {d d' : Drained p β} (hmessages : d.messages = d'.messages)
    (hreader : ApartReader r₁ r₂ d.reader d'.reader) :
    ApartLeft r₁ r₂ (endBody f kind resp timeLeft d) (endBody f kind resp timeLeft d') := by
  rw [endBody, endBody, ← checkEnded_same hreader, ← hmessages]
  split
  · exact ⟨rfl, .some hreader, rfl, hreader.state.responses, rfl⟩
  · cases checkEnded kind d.reader with
    | some e => exact ⟨rfl, .some hreader, rfl, hreader.state.responses, rfl⟩
    | none =>
        obtain ⟨herror, hafter⟩ :=
          handleResponseComplete_same (k := kind) hreader ⟨resp.headers, resp.trailers⟩ none
        exact ⟨rfl, .some hafter, rfl, hafter.state.responses, herror⟩

theorem readBody_same (f : Flavor) (client : Client α β) (resp : Opened p)
    (timeLeft : Option Int) {a b : Option (ResponseMetadata p)} (h : SameWrites r₁ r₂ a b) :
    ApartLeft r₁ r₂ (readBody f client resp timeLeft a) (readBody f client resp timeLeft b) := by
  have hnone : ∀ e : Exc, ApartLeft r₁ r₂ (⟨[], none, none, a, some e⟩ : Left p β)
      ⟨[], none, none, b, some e⟩ := fun e => ⟨rfl, .none, rfl, h, rfl⟩
  rw [readBody, readBody]
  cases validateStreamResponse client.protocol client.codec.name (contentType resp.headers) with
  | error e => exact hnone e
  | ok _ =>
      dsimp only
      cases handleResponseCompression client.protocol true resp.headers
          client.responseCompressions with
      | error e => exact hnone e
      | ok compression =>
          dsimp only
          have hnew : ApartReader r₁ r₂ (Reader.new a) (Reader.new b) :=
            ⟨.mk (Reader.new none).toReaderState h, rfl⟩
          obtain ⟨hmessages, herror, hreader⟩ :=
            feedAll_same (k := readerKind client.protocol) hnew
              ⟨client.codec, compression, client.readMaxBytes⟩ resp.chunks
          rw [← herror]
          split
          · exact ⟨hmessages, .some hreader, rfl, hreader.state.responses, rfl⟩
          · exact endBody_same f _ resp timeLeft hmessages hreader

theorem withResponse_same (f : Flavor) (client : Client α β) (resp : Opened p)
    (timeLeft : Option Int) (r₁ r₂ : ResponseMetadata p) :
    ApartLeft (arrived r₁ resp.status resp.headers) (arrived r₂ resp.status resp.headers)
      (withResponse f client resp timeLeft (some r₁))
      (withResponse f client resp timeLeft (some r₂)) := by
  have h : SameWrites (arrived r₁ resp.status resp.headers) (arrived r₂ resp.status resp.headers)
      (some (arrived r₁ resp.status resp.headers)) (some (arrived r₂ resp.status resp.headers)) :=
    ⟨[], rfl, rfl⟩
  rw [withResponse, withResponse, handleResponseHeaders_some, handleResponseHeaders_some]
  split
  · exact readBody_same f client resp timeLeft h
  · exact ⟨rfl, .none, rfl, h, rfl⟩

variable (streamErrorCode : Exc → Option StreamErrorCode)

theorem raiseResetIn_same (kind : ReaderKind) {l l' : Left p β} (h : ApartLeft r₁ r₂ l l')
    (resp : Option (Opened p)) (reset : ConnectError) :
    SameWrites r₁ r₂ (raiseResetIn kind l resp reset).2 (raiseResetIn kind l' resp reset).2 := by
  obtain ⟨messages, reader, streamError, response, error⟩ := l
  obtain ⟨messages', reader', streamError', response', error'⟩ := l'
  obtain ⟨-, hreader, -, hresponse, -⟩ := h
  cases hreader with
  | none => exact hresponse
  | some hreader =>
      cases resp with
      | none => exact hresponse
      | some resp =>
          exact (handleResponseComplete_same hreader ⟨resp.headers, resp.trailers⟩
            (some reset)).2.state.responses

theorem exceptClausesIn_same (f : Flavor) (kind : ReaderKind) {l l' : Left p β}
    (h : ApartLeft r₁ r₂ l l') (resp : Option (Opened p)) (timeLeft : Option Int) (e : Exc) :
    SameWrites r₁ r₂ (exceptClausesIn streamErrorCode f kind l resp timeLeft e).2
      (exceptClausesIn streamErrorCode f kind l' resp timeLeft e).2 := by
  rw [exceptClausesIn, exceptClausesIn]
  cases firstClauses f e with
  | some e => exact h.response
  | none =>
      dsimp only
      split
      · rw [exceptExceptionIn, exceptExceptionIn, ← h.streamError]
        cases l.streamError with
        | some streamError => exact h.response
        | none =>
            dsimp only
            cases maybeMapStreamReset streamErrorCode e timeLeft with
            | some reset => exact raiseResetIn_same kind h resp reset
            | none => exact h.response
      · exact h.response

/-- A stream that gets no response writes nothing. -/
theorem stream_unreceived (f : Flavor) {client : Client α β} {requests : Requests α}
    {x : Exchange p} (h : streamReceived client requests x = none)
    (current : Option (ResponseMetadata p)) :
    (sendRequestBidiStreamIn streamErrorCode f client requests x current).response = current := by
  have hbefore : ∀ e e' : Exc, (exceptClausesIn streamErrorCode f (readerKind client.protocol)
      (.before current e : Left p β) none x.timeAtReset e').2 = current := by
    intro e e'
    rw [exceptClausesIn]
    cases firstClauses f e' with
    | some _ => rfl
    | none =>
        dsimp only
        split
        · rw [exceptExceptionIn]
          dsimp only [Left.before]
          cases maybeMapStreamReset streamErrorCode e' x.timeAtReset <;> rfl
        · rfl
  rw [streamReceived] at h
  rw [sendRequestBidiStreamIn]
  split
  · rfl
  · next hover =>
      rw [if_neg hover] at h
      rw [tryBody]
      cases hcontent : requestContent client requests with
      | error e => exact hbefore e e
      | ok content =>
          rw [hcontent] at h
          cases hopened : x.opened with
          | error e => exact hbefore e e
          | ok resp =>
              rw [hopened] at h
              cases h

/-- **What a stream writes does not depend on what it finds.** -/
theorem stream_received (f : Flavor) {client : Client α β} {requests : Requests α}
    {x : Exchange p} {status : Nat} {headers : p.HTTPHeaders}
    (h : streamReceived client requests x = some (status, headers)) (r₁ r₂ : ResponseMetadata p) :
    (sendRequestBidiStreamIn streamErrorCode f client requests x (some r₁)).messages
        = (sendRequestBidiStreamIn streamErrorCode f client requests x (some r₂)).messages
      ∧ SameWrites (arrived r₁ status headers) (arrived r₂ status headers)
        (sendRequestBidiStreamIn streamErrorCode f client requests x (some r₁)).response
        (sendRequestBidiStreamIn streamErrorCode f client requests x (some r₂)).response := by
  rw [streamReceived] at h
  split at h
  · cases h
  · next hover =>
      rw [sendRequestBidiStreamIn, sendRequestBidiStreamIn, if_neg hover, if_neg hover, tryBody,
        tryBody]
      cases hcontent : requestContent client requests with
      | error e =>
          rw [hcontent] at h
          cases h
      | ok content =>
          rw [hcontent] at h
          cases hopened : x.opened with
          | error e =>
              rw [hopened] at h
              cases h
          | ok resp =>
              rw [hopened] at h
              obtain ⟨rfl, rfl⟩ := Prod.ext_iff.mp (Option.some.inj h)
              -- Within the block the two runs write the same, and the clauses go on so.
              have hblock := withResponse_same f client resp x.timeAfterBody r₁ r₂
              have hleft : ApartLeft (arrived r₁ resp.status resp.headers)
                  (arrived r₂ resp.status resp.headers)
                  { withResponse f client resp x.timeAfterBody (some r₁) with
                    error := resp.exit
                      (withResponse f client resp x.timeAfterBody (some r₁)).error }
                  { withResponse f client resp x.timeAfterBody (some r₂) with
                    error := resp.exit
                      (withResponse f client resp x.timeAfterBody (some r₂)).error } :=
                ⟨hblock.messages, hblock.reader, hblock.streamError, hblock.response,
                  congrArg resp.exit hblock.error⟩
              dsimp only
              rw [← hblock.error]
              cases herror : resp.exit
                  (withResponse f client resp x.timeAfterBody (some r₁)).error with
              | none => exact ⟨hblock.messages, hblock.response⟩
              | some e =>
                  rw [← hblock.error, herror] at hleft
                  exact ⟨hblock.messages,
                    exceptClausesIn_same streamErrorCode f _ hleft (some resp) x.timeAtReset e⟩

end Blocks

section CallWrites

variable (streamErrorCode : Exc → Option StreamErrorCode)

theorem metadata_unreceived {call : Call p} (h : call.received = none)
    (current : Option (ResponseMetadata p)) : call.metadata streamErrorCode current = current := by
  have hsingle : ∀ {α β : Type} (f : Flavor) (client : Client α β) (requests : Requests α)
      (x : Exchange p), streamReceived client requests x = none →
      consumeSingleResponseIn client requests x current
        (sendRequestBidiStreamIn streamErrorCode f client requests x current) = current := by
    intro α β f client requests x h
    rw [consumeSingleResponseIn]
    split
    · rw [h]
      rfl
    · exact stream_unreceived streamErrorCode f h current
  cases call with
  | unary f client useGet requestHeaders request send x =>
      rw [Call.received] at h
      rw [Call.metadata]
      by_cases hconnect : client.protocol = .connect
      · rw [if_pos hconnect] at h ⊢
        rw [h]
        rfl
      · rw [if_neg hconnect] at h ⊢
        exact hsingle f client (.list [request]) x h
  | clientStream f client requests x => exact hsingle f client requests x h
  | stream f client requests x => exact stream_unreceived streamErrorCode f h current

/-- **What a call writes does not depend on what it finds.** -/
theorem metadata_writes {call : Call p} {status : Nat} {headers : p.HTTPHeaders}
    (h : call.received = some (status, headers)) (r₁ r₂ : ResponseMetadata p) :
    SameWrites (arrived r₁ status headers) (arrived r₂ status headers)
      (call.metadata streamErrorCode (some r₁)) (call.metadata streamErrorCode (some r₂)) := by
  have hheaders : SameWrites (arrived r₁ status headers) (arrived r₂ status headers)
      (afterHeaders (some (status, headers)) (some r₁))
      (afterHeaders (some (status, headers)) (some r₂)) := ⟨[], rfl, rfl⟩
  have hsingle : ∀ {α β : Type} (f : Flavor) (client : Client α β) (requests : Requests α)
      (x : Exchange p), streamReceived client requests x = some (status, headers) →
      SameWrites (arrived r₁ status headers) (arrived r₂ status headers)
        (consumeSingleResponseIn client requests x (some r₁)
          (sendRequestBidiStreamIn streamErrorCode f client requests x (some r₁)))
        (consumeSingleResponseIn client requests x (some r₂)
          (sendRequestBidiStreamIn streamErrorCode f client requests x (some r₂))) := by
    intro α β f client requests x h
    obtain ⟨hmessages, hresponse⟩ := stream_received streamErrorCode f h r₁ r₂
    rw [consumeSingleResponseIn, consumeSingleResponseIn, ← hmessages, h]
    split
    · exact hheaders
    · exact hresponse
  cases call with
  | unary f client useGet requestHeaders request send x =>
      rw [Call.received] at h
      rw [Call.metadata, Call.metadata]
      by_cases hconnect : client.protocol = .connect
      · rw [if_pos hconnect] at h
        rw [if_pos hconnect, if_pos hconnect, h]
        exact hheaders
      · rw [if_neg hconnect] at h
        rw [if_neg hconnect, if_neg hconnect]
        exact hsingle f client (.list [request]) x h
  | clientStream f client requests x => exact hsingle f client requests x h
  | stream f client requests x => exact (stream_received streamErrorCode f h r₁ r₂).2

end CallWrites

/-! ## What the metadata shows -/

/-- The properties of a `ResponseMetadata`, with every pair of the headers and the
    trailers. -/
structure Shown where
  httpStatus : Option Nat
  headers    : List (String × String)
  trailers   : List (String × String)
  deriving DecidableEq, Repr

def shown (r : ResponseMetadata p) : Shown :=
  ⟨r.httpStatus, r.getHeaders.allitems, r.getTrailers.allitems⟩

theorem length_addAll (h : Headers p) (items : List (String × String)) :
    (h.addAll items).allitems.length = h.allitems.length + items.length := by
  rw [Headers.allitems_eq, Headers.groups_addAll, Multimap.length_allitems_addAll,
    List.length_map, Headers.allitems_eq]

theorem allitems_eq_nil_iff (h : Headers p) : h.allitems = [] ↔ h.nonempty = false := by
  rw [Headers.nonempty_eq_false_iff, Headers.allitems_eq]
  constructor
  · intro hnil
    rw [← Multimap.ofItems_allitems h.groups, hnil]
    rfl
  · intro hempty
    rw [hempty]
    rfl

/-- The headers and the trailers that are stored are never empty. -/
structure Stored (r : ResponseMetadata p) : Prop where
  headers  : ∀ h, r.headers = some h → h.allitems ≠ []
  trailers : ∀ t, r.trailers = some t → t.allitems ≠ []

/-- Nothing stored, nothing shown. -/
theorem getD_allitems_iff {o : Option (Headers p)} (h : ∀ t, o = some t → t.allitems ≠ []) :
    (o.getD (.empty p)).allitems = [] ↔ o = none := by
  cases o with
  | none => exact ⟨fun _ => rfl, fun _ => rfl⟩
  | some t => exact ⟨fun hnil => absurd hnil (h t rfl), nofun⟩

theorem nonempty_stored {t : Headers p} (h : t.nonempty = true) : t.allitems ≠ [] := by
  intro hnil
  rw [(allitems_eq_nil_iff t).mp hnil] at h
  exact nomatch h

theorem extended_stored {r : ResponseMetadata p} (h : Stored r) (pairs : Pairs) :
    Stored (extended r pairs) := by
  rw [extended]
  cases ht : r.trailers with
  | some trailers =>
      refine ⟨h.headers, ?_⟩
      rintro t ⟨rfl⟩ hnil
      have hlength := length_addAll trailers pairs.added
      rw [hnil, List.length_nil] at hlength
      exact h.trailers trailers ht (List.length_eq_zero_iff.mp (by omega))
  | none =>
      dsimp only
      split
      · next hpairs =>
          refine ⟨h.headers, ?_⟩
          rintro t ⟨rfl⟩
          exact nonempty_stored (Bool.and_eq_true_iff.mp hpairs).2
      · exact h

theorem arrived_stored {r : ResponseMetadata p} (h : Stored r) (status : Nat)
    (headers : p.HTTPHeaders) : Stored (arrived r status headers) := by
  constructor
  · intro t ht
    rw [arrived] at ht
    dsimp only at ht
    split at ht
    · next hn => exact Option.some.inj ht ▸ nonempty_stored hn
    · exact h.headers t ht
  · intro t ht
    rw [arrived] at ht
    dsimp only at ht
    split at ht
    · next hn => exact Option.some.inj ht ▸ nonempty_stored hn
    · exact h.trailers t ht

theorem writes_stored (writes : List Pairs) {r : ResponseMetadata p} (h : Stored r) :
    Stored (writes.foldl extended r) := by
  induction writes generalizing r with
  | nil => exact h
  | cons pairs writes ih => exact ih (extended_stored h pairs)

/-- Later writes are to the trailers only. -/
theorem writes_keep (writes : List Pairs) (r : ResponseMetadata p) :
    (writes.foldl extended r).httpStatus = r.httpStatus
      ∧ (writes.foldl extended r).headers = r.headers := by
  induction writes generalizing r with
  | nil => exact ⟨rfl, rfl⟩
  | cons pairs writes ih =>
      have hkeep : (extended r pairs).httpStatus = r.httpStatus
          ∧ (extended r pairs).headers = r.headers := by
        rw [extended]
        cases r.trailers with
        | some trailers => exact ⟨rfl, rfl⟩
        | none =>
            dsimp only
            split
            · exact ⟨rfl, rfl⟩
            · exact ⟨rfl, rfl⟩
      exact ⟨(ih _).1.trans hkeep.1, (ih _).2.trans hkeep.2⟩

/-- The same writes to the same trailers. -/
theorem writes_trailers_congr (writes : List Pairs) {r₁ r₂ : ResponseMetadata p}
    (h : r₁.trailers = r₂.trailers) :
    (writes.foldl extended r₁).trailers = (writes.foldl extended r₂).trailers := by
  induction writes generalizing r₁ r₂ with
  | nil => exact h
  | cons pairs writes ih =>
      refine ih ?_
      rw [extended, extended, ← h]
      cases ht : r₁.trailers with
      | some trailers => rfl
      | none =>
          dsimp only
          split
          · rfl
          · rw [ht, ← h, ht]

/-- The number of pairs of the trailers. -/
def trailerCount (r : ResponseMetadata p) : Nat := r.getTrailers.allitems.length

theorem extended_count_some {r : ResponseMetadata p} {t : Headers p} (h : r.trailers = some t)
    (pairs : Pairs) :
    (∃ t', (extended r pairs).trailers = some t')
      ∧ trailerCount (extended r pairs) = trailerCount r + pairs.added.length := by
  rw [trailerCount, trailerCount, ResponseMetadata.getTrailers, ResponseMetadata.getTrailers,
    extended, h]
  exact ⟨⟨_, rfl⟩, length_addAll t pairs.added⟩

theorem extended_count_le (r : ResponseMetadata p) (pairs : Pairs) :
    trailerCount (extended r pairs) ≤ trailerCount r + pairs.added.length := by
  cases ht : r.trailers with
  | some t => exact (extended_count_some ht pairs).2.le
  | none =>
      rw [trailerCount, ResponseMetadata.getTrailers, extended, ht]
      dsimp only
      split
      · rw [Option.getD_some, length_addAll]
        exact Nat.add_le_add_right (Nat.zero_le _) _
      · rw [ht]
        exact Nat.zero_le _

/-- **Trailers that are there stay ahead** of none under the same writes. -/
theorem writes_count_lt (writes : List Pairs) {r₁ r₂ : ResponseMetadata p}
    (hsome : ∃ t, r₁.trailers = some t) (h : trailerCount r₂ < trailerCount r₁) :
    trailerCount (writes.foldl extended r₂) < trailerCount (writes.foldl extended r₁) := by
  induction writes generalizing r₁ r₂ with
  | nil => exact h
  | cons pairs writes ih =>
      obtain ⟨t, ht⟩ := hsome
      obtain ⟨hstill, hcount⟩ := extended_count_some ht pairs
      refine ih hstill ?_
      have hle := extended_count_le r₂ pairs
      omega

/-! ## Which headers a response has -/

theorem splitHeaders_eq (items : List (String × String)) :
    splitHeaders (p := p) items
      = (.ofItems p (items.filter fun e => !isTrailerKey e.1),
          .ofItems p ((items.filter fun e => isTrailerKey e.1).map
            fun e => (removePrefix "trailer-" e.1, e.2))) := by
  rw [splitHeaders, Headers.ofItems, Headers.ofItems]
  generalize Headers.empty p = h
  suffices H : ∀ h t : Headers p, items.foldl (fun acc e =>
      if isTrailerKey e.1 then (acc.1, acc.2.add (removePrefix "trailer-" e.1) e.2)
      else (acc.1.add e.1 e.2, acc.2)) (h, t)
      = (h.addAll (items.filter fun e => !isTrailerKey e.1),
          t.addAll ((items.filter fun e => isTrailerKey e.1).map
            fun e => (removePrefix "trailer-" e.1, e.2))) from H h h
  induction items with
  | nil => exact fun h t => rfl
  | cons e items ih =>
      intro h t
      rw [List.foldl_cons, List.filter_cons, List.filter_cons]
      cases isTrailerKey e.1 with
      | true => exact ih h _
      | false => exact ih _ t

theorem nonempty_ofItems (items : List (String × String)) :
    (Headers.ofItems p items).nonempty = true ↔ items ≠ [] := by
  have hlength : (Headers.ofItems p items).allitems.length = items.length :=
    (length_addAll (.empty p) items).trans (Nat.zero_add _)
  rw [← Bool.not_eq_false, ← allitems_eq_nil_iff, ← List.length_eq_zero_iff, hlength,
    List.length_eq_zero_iff]

/-- There is a header that is no trailer. -/
theorem splitHeaders_headers (items : List (String × String)) :
    (splitHeaders (p := p) items).1.nonempty = true ↔ ∃ e ∈ items, isTrailerKey e.1 = false := by
  rw [splitHeaders_eq, nonempty_ofItems, ne_eq, List.filter_eq_nil_iff]
  simp

/-- There is a header that is a trailer. -/
theorem splitHeaders_some_trailer (items : List (String × String)) :
    (splitHeaders (p := p) items).2.nonempty = true ↔ ∃ e ∈ items, isTrailerKey e.1 = true := by
  rw [splitHeaders_eq, nonempty_ofItems, ne_eq, List.map_eq_nil_iff, List.filter_eq_nil_iff]
  simp

/-! ## A history -/

/-- The call has nothing to keep of the metadata before: it gets a response whose headers
    replace those that are stored, and whose `trailer-` headers replace the trailers that
    are stored; or it gets none and there is nothing. -/
def Replaces (r : ResponseMetadata p) (call : Call p) : Prop :=
  match call.received with
  | none => r.httpStatus = none ∧ r.headers = none ∧ r.trailers = none
  | some (_, headers) =>
      (r.headers = none ∨ ∃ e ∈ p.headerItems headers, isTrailerKey e.1 = false)
        ∧ (r.trailers = none ∨ ∃ e ∈ p.headerItems headers, isTrailerKey e.1 = true)

theorem fresh_stored : Stored (.fresh p) := ⟨nofun, nofun⟩

section Response

variable {r : ResponseMetadata p} {status : Nat} {headers : p.HTTPHeaders}

theorem arrived_headers_iff (hr : Stored r) :
    (arrived r status headers).getHeaders.allitems
        = (arrived (.fresh p) status headers).getHeaders.allitems
      ↔ r.headers = none ∨ ∃ e ∈ p.headerItems headers, isTrailerKey e.1 = false := by
  rw [← splitHeaders_headers (p := p), ResponseMetadata.getHeaders, ResponseMetadata.getHeaders,
    arrived, arrived]
  dsimp only
  by_cases hn : (splitHeaders (p := p) (p.headerItems headers)).1.nonempty = true
  · rw [if_pos hn, if_pos hn]
    exact ⟨fun _ => Or.inr hn, fun _ => rfl⟩
  · rw [if_neg hn, if_neg hn, or_iff_left hn]
    exact getD_allitems_iff hr.headers

theorem arrived_trailers_iff (hr : Stored r) (writes : List Pairs) :
    (writes.foldl extended (arrived r status headers)).getTrailers.allitems
        = (writes.foldl extended (arrived (.fresh p) status headers)).getTrailers.allitems
      ↔ r.trailers = none ∨ ∃ e ∈ p.headerItems headers, isTrailerKey e.1 = true := by
  rw [← splitHeaders_some_trailer (p := p)]
  constructor
  · intro heq
    by_contra hnot
    obtain ⟨hstored, hn⟩ := not_or.mp hnot
    obtain ⟨t, ht⟩ := Option.ne_none_iff_exists'.mp hstored
    have harrived : (arrived r status headers).trailers = some t := (if_neg hn).trans ht
    have hfresh : (arrived (.fresh p) status headers).trailers = none := if_neg hn
    have hlt : trailerCount (arrived (.fresh p) status headers)
        < trailerCount (arrived r status headers) := by
      rw [trailerCount, trailerCount, ResponseMetadata.getTrailers, ResponseMetadata.getTrailers,
        harrived, hfresh]
      exact List.length_pos_iff.mpr (hr.trailers t ht)
    exact absurd (congrArg List.length heq) (writes_count_lt writes ⟨t, harrived⟩ hlt).ne'
  · intro h
    have hsame : (arrived r status headers).trailers
        = (arrived (.fresh p) status headers).trailers := by
      rcases h with hnone | hn
      · rw [arrived, arrived, hnone]
        rfl
      · exact (if_pos hn).trans (if_pos hn).symm
    rw [ResponseMetadata.getTrailers, ResponseMetadata.getTrailers,
      writes_trailers_congr writes hsame]

end Response

section Runs

variable (streamErrorCode : Exc → Option StreamErrorCode)

/-- One call keeps what is stored nonempty, and the context. -/
theorem metadata_stored (call : Call p) {r : ResponseMetadata p} (hr : Stored r) :
    ∃ r', call.metadata streamErrorCode (some r) = some r' ∧ Stored r' := by
  cases h : call.received with
  | none => exact ⟨r, metadata_unreceived streamErrorCode h (some r), hr⟩
  | some received =>
      obtain ⟨writes, hwrites, -⟩ := metadata_writes streamErrorCode h r r
      exact ⟨_, hwrites, writes_stored writes (arrived_stored hr _ _)⟩

/-- So does every sequence of calls. -/
theorem metadataAfter_stored (calls : List (Call p)) :
    ∃ r, metadataAfter streamErrorCode calls = some r ∧ Stored r := by
  induction calls using List.reverseRecOn with
  | nil => exact ⟨.fresh p, rfl, fresh_stored⟩
  | append_singleton calls call ih =>
      obtain ⟨r, hafter, hr⟩ := ih
      rw [metadataAfter, List.foldl_append, List.foldl_cons, List.foldl_nil]
      rw [metadataAfter] at hafter
      rw [hafter]
      exact metadata_stored streamErrorCode call hr

/-- What one call stores as headers, if its response has any. -/
theorem metadata_headers_iff {call : Call p} {r r' : ResponseMetadata p}
    (h : call.metadata streamErrorCode (some r) = some r') :
    r'.headers = none ↔ r.headers = none ∧ ∀ received ∈ call.received,
      ∀ e ∈ p.headerItems received.2, isTrailerKey e.1 = true := by
  cases hreceived : call.received with
  | none =>
      rw [metadata_unreceived streamErrorCode hreceived] at h
      obtain rfl := Option.some.inj h
      simp
  | some received =>
      obtain ⟨writes, hwrites, -⟩ := metadata_writes streamErrorCode hreceived r r
      obtain rfl := Option.some.inj (h.symm.trans hwrites)
      have hsplit := splitHeaders_headers (p := p) (p.headerItems received.2)
      rw [(writes_keep writes _).2, arrived]
      dsimp only
      split
      · next hn =>
          obtain ⟨e, he, hplain⟩ := hsplit.mp hn
          refine iff_of_false (by rintro ⟨⟩) fun hall => ?_
          rw [hall.2 received rfl e he] at hplain
          cases hplain
      · next hn =>
          have hall : ∀ e ∈ p.headerItems received.2, isTrailerKey e.1 = true := by
            intro e he
            by_contra hplain
            exact hn (hsplit.mpr ⟨e, he, Bool.eq_false_iff.mpr hplain⟩)
          constructor
          · intro hnone
            refine ⟨hnone, ?_⟩
            rintro received' ⟨⟩
            exact hall
          · exact fun h => h.1

/-- Headers are stored from the first response on that has one beside its trailers. -/
theorem metadataAfter_headers_iff (calls : List (Call p)) :
    ∀ r ∈ metadataAfter streamErrorCode calls, r.headers = none ↔
      ∀ call ∈ calls, ∀ received ∈ call.received,
        ∀ e ∈ p.headerItems received.2, isTrailerKey e.1 = true := by
  induction calls using List.reverseRecOn with
  | nil =>
      rintro r ⟨⟩
      exact iff_of_true rfl (List.forall_mem_nil _)
  | append_singleton calls call ih =>
      intro r' hr'
      obtain ⟨r, hafter, -⟩ := metadataAfter_stored streamErrorCode calls
      have hstep : call.metadata streamErrorCode (some r) = some r' := by
        rw [← hafter, metadataAfter, ← Option.mem_def.mp hr', metadataAfter, List.foldl_append]
        rfl
      rw [metadata_headers_iff streamErrorCode hstep, ih r hafter, List.forall_mem_append,
        List.forall_mem_singleton]

/-- One call: from any metadata it leaves what it leaves in a fresh one exactly if it
    has nothing to keep. -/
theorem describes_call_iff (call : Call p) {r : ResponseMetadata p} (hr : Stored r) :
    (call.metadata streamErrorCode (some r)).map shown
        = (call.metadata streamErrorCode (some (.fresh p))).map shown ↔ Replaces r call := by
  rw [Replaces]
  cases h : call.received with
  | none =>
      rw [metadata_unreceived streamErrorCode h, metadata_unreceived streamErrorCode h,
        Option.map_some, Option.map_some, Option.some_inj, shown, shown, Shown.mk.injEq]
      exact and_congr Iff.rfl (and_congr (getD_allitems_iff hr.headers)
        (getD_allitems_iff hr.trailers))
  | some received =>
      obtain ⟨status, headers⟩ := received
      obtain ⟨writes, hr', hfresh⟩ := metadata_writes streamErrorCode h r (.fresh p)
      obtain ⟨hstatus, hheaders⟩ := writes_keep writes (arrived r status headers)
      obtain ⟨hstatus', hheaders'⟩ := writes_keep writes (arrived (.fresh p) status headers)
      rw [hr', hfresh, Option.map_some, Option.map_some, Option.some_inj, shown, shown,
        Shown.mk.injEq, hstatus, hstatus']
      rw [ResponseMetadata.getHeaders, ResponseMetadata.getHeaders, hheaders, hheaders']
      refine ⟨fun hshown => ⟨?_, ?_⟩, fun hreplaces => ⟨rfl, ?_, ?_⟩⟩
      · exact (arrived_headers_iff hr).mp hshown.2.1
      · exact (arrived_trailers_iff hr writes).mp hshown.2.2
      · exact (arrived_headers_iff hr).mpr hreplaces.1
      · exact (arrived_trailers_iff hr writes).mpr hreplaces.2

/-- **`ResponseMetadata` describes the last response only** exactly in the histories in
    which every call has nothing to keep of the calls before. -/
theorem describes_last_iff (calls : List (Call p)) :
    (∀ before call, before ++ [call] <+: calls →
        (metadataAfter streamErrorCode (before ++ [call])).map shown
          = (metadataAfter streamErrorCode [call]).map shown)
      ↔ ∀ before call, before ++ [call] <+: calls →
          ∀ r ∈ metadataAfter streamErrorCode before, Replaces r call := by
  refine forall_congr' fun before => forall_congr' fun call => forall_congr' fun _ => ?_
  obtain ⟨r, hafter, hr⟩ := metadataAfter_stored streamErrorCode before
  have hlast : metadataAfter streamErrorCode (before ++ [call])
      = call.metadata streamErrorCode (some r) := by
    rw [← hafter, metadataAfter, List.foldl_append]
    rfl
  rw [hlast, hafter]
  refine (describes_call_iff streamErrorCode call hr).trans ?_
  constructor
  · rintro h r' ⟨rfl⟩
    exact h
  · intro h
    exact h r rfl

end Runs

/-- A stream of the gRPC protocol without messages, its status in the trailers. -/
def grpcExchange : Exchange Platform.plain where
  timeoutMs := none
  opened := .ok
    { status := 200
      headers := Multimap.ofItems [("content-type", "application/grpc+raw")]
      chunks := []
      broken := none
      trailers := Multimap.ofItems [("grpc-status", "0")]
      exit := id }
  timeAfterBody := none
  timeAtReset := none

def grpcCall : Call Platform.plain := .stream .async rawClient (.list []) grpcExchange

/-- The same call made twice shows its status twice. -/
theorem describes_last_fails :
    ¬ ∀ (calls : List (Call Platform.plain)) before call, before ++ [call] <+: calls →
        (metadataAfter streamError (before ++ [call])).map shown
          = (metadataAfter streamError [call]).map shown := by
  intro hclaim
  have hafter := hclaim [grpcCall, grpcCall] [grpcCall] grpcCall (List.prefix_refl _)
  have hone : (metadataAfter streamError [grpcCall]).map shown
      = some ⟨some 200, [("content-type", "application/grpc+raw")], [("grpc-status", "0")]⟩ := rfl
  have htwo : (metadataAfter streamError ([grpcCall] ++ [grpcCall])).map shown
      = some ⟨some 200, [("content-type", "application/grpc+raw")],
        [("grpc-status", "0"), ("grpc-status", "0")]⟩ := rfl
  rw [hone, htwo] at hafter
  exact absurd hafter (by decide)

end ConnectResponseMetadata
