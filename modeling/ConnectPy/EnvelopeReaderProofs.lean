import ConnectPy.ResumableProofs
import ConnectPy.FramingProofs
import ConnectPy.GrpcStatusProofs

/-! # The envelope readers — a resumable parser of framed messages

    Four readers share `feed` and `_read_messages`: the server's
    `EnvelopeReader` and the client's Connect, gRPC and gRPC-Web readers.  They
    differ in the flags they allow, the code of a protocol error, and what an end
    message is; `ReaderKind` tells them apart.

    `readMessages` is the loop of the source.  It is the drain of a resumable
    parser with two kinds of moves, reading a prefix and taking a whole frame
    (`readMessages_eq_drain`), so the laws of resumable parsers apply: the
    results about chunks come from there. -/

namespace ConnectEnvelope

open Utf8 (Bytes)
open Framing Resumable
open ConnectErrors ConnectPlatform ConnectHeaders ConnectWireErrors ConnectGrpcStatus

variable {p : Platform} {α : Type}

/-! ## Readers -/

/-- `EnvelopeReader`, `ConnectEnvelopeReader`, `GRPCEnvelopeReader` and
    `GRPCWebEnvelopeReader`. -/
inductive ReaderKind where
  | server | connect | grpc | grpcWeb
  deriving DecidableEq, Repr

/-- `_flags_mask`. -/
def ReaderKind.flagsMask : ReaderKind → UInt8
  | .server => 0b01
  | .connect => 0b11
  | .grpc => 0b01
  | .grpcWeb => 0b10000001

/-- `_protocol_error_code`. -/
def ReaderKind.protocolErrorCode : ReaderKind → Code
  | .server => .invalidArgument
  | .connect => .internal
  | .grpc => .internal
  | .grpcWeb => .internal

/-- What a reader is constructed with. -/
structure ReaderConfig (α : Type) where
  codec        : Codec α
  compression  : Compression
  readMaxBytes : Option Int

/-- The fields of a reader but the buffer, with the ambient response metadata
    its methods write to. -/
structure ReaderState (p : Platform) where
  nextMessageLength : Option Nat
  ended             : Bool
  readMessage       : Bool
  trailers          : p.HTTPHeaders
  response          : Option (ResponseMetadata p)

structure Reader (p : Platform) extends ReaderState p where
  buffer : Bytes

/-- A reader just constructed. -/
def Reader.new (response : Option (ResponseMetadata p)) : Reader p where
  nextMessageLength := none
  ended := false
  readMessage := false
  trailers := p.emptyHeaders
  response := response
  buffer := []

/-! ## End messages -/

/-- `ConnectEnvelopeReader.handle_end_message`. -/
def handleConnectEnd (s : ReaderState p) (prefixByte : UInt8) (messageData : Bytes) :
    ReaderState p × Except Exc Bool :=
  if prefixByte &&& 0b10 = 0 then (s, .ok false)
  else
    match p.jsonLoads messageData with
    | .error e => (s, .error e)
    | .ok (.obj entries) =>
        let metadata := (Json.field "metadata" entries).getD .null
        let handled :=
          if metadata.truthy then handleResponseTrailers s.response (metadataPairs p metadata)
          else (s.response, none)
        let s' := { s with response := handled.1 }
        match handled.2 with
        | some e => (s', .error e)
        | none =>
            let error := (Json.field "error" entries).getD .null
            if error.truthy then
              match ConnectWireError.fromDict p error 500 .unknown with
              | .error e => (s', .error e)
              | .ok wireError => (s', .error wireError.toException)
            else (s', .ok true)
    | .ok j => (s, .error (.noAttribute j "get"))

/-- One line of a trailer frame, split at the first colon.  The position in the
    text of a decoding error is left out. -/
def addTrailerLine (trailers : p.HTTPHeaders) (line : Bytes) : Except Exc p.HTTPHeaders :=
  match Utf8.splitFirst 0x3A line with
  | none => .error (.exception .valueError "not enough values to unpack (expected 2, got 1)")
  | some (key, value) =>
      match Utf8.decode key, Utf8.decode value with
      | some key, some value => p.addHeader trailers (Utf8.strip key) (Utf8.strip value)
      | _, _ => .error (.exception (.other "UnicodeDecodeError") "invalid utf-8")

/-- The loop over the lines of a trailer frame, keeping what was added before
    an exception. -/
def addTrailerLines (trailers : p.HTTPHeaders) : List Bytes → p.HTTPHeaders × Option Exc
  | [] => (trailers, none)
  | line :: lines =>
      if line = [] then addTrailerLines trailers lines
      else
        match addTrailerLine trailers line with
        | .error e => (trailers, some e)
        | .ok trailers => addTrailerLines trailers lines

/-- `GRPCWebEnvelopeReader.handle_end_message`. -/
def handleWebEnd (s : ReaderState p) (prefixByte : UInt8) (messageData : Bytes) :
    ReaderState p × Except Exc Bool :=
  let s := { s with readMessage := true }
  if prefixByte &&& 0b10000000 = 0 then (s, .ok false)
  else
    let added := addTrailerLines s.trailers (Utf8.splitCrLf messageData)
    let s := { s with trailers := added.1 }
    match added.2 with
    | some e => (s, .error e)
    | none => (s, .ok true)

/-- `handle_end_message`: whether the message was the end message, or an
    exception. -/
def handleEndMessage (k : ReaderKind) (s : ReaderState p) (prefixByte : UInt8)
    (messageData : Bytes) : ReaderState p × Except Exc Bool :=
  match k with
  | .server => (s, .ok false)
  | .connect => handleConnectEnd s prefixByte messageData
  | .grpc => ({ s with readMessage := true }, .ok false)
  | .grpcWeb => handleWebEnd s prefixByte messageData

/-! ## The loop -/

/-- The payload of a frame after decompression. -/
def messageContents (cfg : ReaderConfig α) (prefixByte : UInt8) (messageData : Bytes) :
    Except Exc Bytes :=
  if prefixByte &&& 0b01 = 0 then .ok messageData
  else if cfg.compression.isIdentity then
    .error (.connect .internal
      "protocol error: sent compressed message without compression support")
  -- An empty message is not decompressed.
  else if messageData = [] then .ok messageData
  else decompress cfg.compression messageData cfg.readMaxBytes

/-- What became of a whole frame. -/
inductive FrameResult (p : Platform) (α : Type) where
  | raised (s : ReaderState p) (e : Exc)
  | ended (s : ReaderState p)
  | message (s : ReaderState p) (m : α)

/-- The body of the loop after a frame was taken off the buffer. -/
def handleFrame (k : ReaderKind) (cfg : ReaderConfig α) (s : ReaderState p)
    (prefixByte : UInt8) (messageData : Bytes) : FrameResult p α :=
  match messageContents cfg prefixByte messageData with
  | .error e => .raised s e
  | .ok messageData =>
      match handleEndMessage k s prefixByte messageData with
      | (s, .error e) => .raised s e
      | (s, .ok true) => .ended { s with ended := true }
      | (s, .ok false) =>
          match decodeMessage cfg.codec messageData with
          | .error e => .raised s e
          | .ok res => .message s res

/-- What became of the five bytes of a prefix. -/
inductive PrefixResult (p : Platform) where
  | incomplete
  | raised (s : ReaderState p) (e : Exc)
  | promised (s : ReaderState p)

/-- The last part of the loop: read the prefix of the next frame. -/
def readPrefix (k : ReaderKind) (cfg : ReaderConfig α) (s : ReaderState p) (buffer : Bytes) :
    PrefixResult p :=
  if buffer.length < 5 then .incomplete
  else if flagOf buffer &&& ~~~k.flagsMask ≠ 0 then
    .raised s (.connect k.protocolErrorCode "protocol error: invalid envelope flags")
  else
    let s := { s with nextMessageLength := some (lengthOf buffer) }
    match cfg.readMaxBytes with
    | none => .promised s
    | some limit =>
        if exceeds (lengthOf buffer) (some limit) then .raised s (messageTooLargeError limit)
        else .promised s

/-- What an iterator of `_read_messages` yields until it stops, the reader it
    leaves, and the exception that stopped it, if any. -/
structure Drained (p : Platform) (α : Type) where
  messages : List α
  reader   : Reader p
  error    : Option Exc

def Drained.prepend (ms : List α) (d : Drained p α) : Drained p α :=
  { d with messages := ms ++ d.messages }

/-- The state in which a frame of the buffer is handled. -/
def ReaderState.taken (s : ReaderState p) : ReaderState p := { s with nextMessageLength := none }

theorem readPrefix_promised {k : ReaderKind} {cfg : ReaderConfig α} {s s' : ReaderState p}
    {b : Bytes} (h : readPrefix k cfg s b = .promised s') :
    5 ≤ b.length ∧ flagOf b &&& ~~~k.flagsMask = 0
      ∧ exceeds (lengthOf b) cfg.readMaxBytes = false
      ∧ s' = { s with nextMessageLength := some (lengthOf b) } := by
  rw [readPrefix] at h
  split at h
  · exact nomatch h
  · next h5 =>
      split at h
      · exact nomatch h
      · next hf =>
          simp only at h
          split at h
          · next hm =>
              injection h with h
              exact ⟨Nat.le_of_not_lt h5, Decidable.not_not.mp hf, by rw [hm]; rfl, h.symm⟩
          · next limit hm =>
              split at h
              · exact nomatch h
              · next hx =>
                  injection h with h
                  exact ⟨Nat.le_of_not_lt h5, Decidable.not_not.mp hf,
                    by rw [hm]; exact Bool.eq_false_iff.mpr hx, h.symm⟩

/-- `_read_messages`, run to its end. -/
def readMessages (k : ReaderKind) (cfg : ReaderConfig α) (r : Reader p) : Drained p α :=
  if r.buffer = [] ∨ r.ended = true then ⟨[], r, none⟩
  else
    match _hn : r.nextMessageLength with
    | some n =>
        if _hlt : r.buffer.length < n + 5 then ⟨[], r, none⟩
        else
          let rest := r.buffer.drop (5 + n)
          match handleFrame k cfg r.taken (flagOf r.buffer) ((r.buffer.drop 5).take n) with
          | .raised s e => ⟨[], ⟨s, rest⟩, some e⟩
          | .ended s => ⟨[], ⟨s, rest⟩, none⟩
          | .message s res =>
              match _hp : readPrefix k cfg s rest with
              | .incomplete => ⟨[res], ⟨s, rest⟩, none⟩
              | .raised s e => ⟨[res], ⟨s, rest⟩, some e⟩
              | .promised s => (readMessages k cfg ⟨s, rest⟩).prepend [res]
    | none =>
        match _hp : readPrefix k cfg r.toReaderState r.buffer with
        | .incomplete => ⟨[], r, none⟩
        | .raised s e => ⟨[], ⟨s, r.buffer⟩, some e⟩
        | .promised s => readMessages k cfg ⟨s, r.buffer⟩
termination_by r.buffer.length + if r.nextMessageLength.isNone then 1 else 0
decreasing_by
  · obtain ⟨-, -, -, rfl⟩ := readPrefix_promised _hp
    rw [_hn]
    simp only [List.length_drop, Option.isNone_some, Bool.false_eq_true, if_false]
    omega
  · obtain ⟨-, -, -, rfl⟩ := readPrefix_promised _hp
    rw [_hn]
    simp

/-- `feed`, with the returned iterator drained. -/
def feed (k : ReaderKind) (cfg : ReaderConfig α) (r : Reader p) (data : Bytes) : Drained p α :=
  readMessages k cfg { r with buffer := r.buffer ++ data }

/-- Feed chunks one after the other, stopping at the first exception. -/
def feedAll (k : ReaderKind) (cfg : ReaderConfig α) (r : Reader p) : List Bytes → Drained p α
  | [] => ⟨[], r, none⟩
  | chunk :: chunks =>
      let d := feed k cfg r chunk
      match d.error with
      | some _ => d
      | none => (feedAll k cfg d.reader chunks).prepend d.messages

/-- `_check_ended`. -/
def checkEnded (k : ReaderKind) (r : Reader p) : Option Exc :=
  if r.ended then
    if r.buffer ≠ [] then
      some (.connect .internal
        s!"corrupt response: {r.buffer.length} extra bytes after end of stream")
    else none
  else
    match r.nextMessageLength with
    | some n =>
        some (.connect k.protocolErrorCode
          s!"protocol error: promised {n} bytes in enveloped message, got {(r.buffer.length : Int) - 5} bytes")
    | none =>
        if r.buffer ≠ [] then
          some (.connect k.protocolErrorCode
            "protocol error: incomplete envelope: unexpected EOF")
        else none

/-- A `with` block around a reader whose body feeds the chunks. -/
def withBlock (k : ReaderKind) (cfg : ReaderConfig α) (r : Reader p) (chunks : List Bytes) :
    Drained p α :=
  let d := feedAll k cfg r chunks
  match d.error with
  | some _ => d
  | none => { d with error := checkEnded k d.reader }

/-! ## The end of a response -/

/-- What a reader uses of an HTTP response. -/
structure Response (p : Platform) where
  headers  : p.HTTPHeaders
  trailers : p.HTTPHeaders

/-- `error or ConnectError(Code.INTERNAL, "missing grpc-status trailer")`. -/
def missingStatus (error : Option ConnectError) : Exc :=
  match error with
  | some e => .connectError e
  | none => .connect .internal "missing grpc-status trailer"

/-- `GRPCEnvelopeReader.handle_response_complete` from where the trailers to read
    are known. -/
def readStatus (r : Reader p) (trailers : p.HTTPHeaders) (error : Option ConnectError) :
    Reader p × Option Exc :=
  let handled := handleResponseTrailers r.response (httpPairs trailers)
  let r := { r with response := handled.1 }
  match handled.2 with
  | some e => (r, some e)
  | none =>
      match p.getHeader trailers "grpc-status" with
      | none => (r, some (missingStatus error))
      | some status => (r, raiseStatus trailers status error)

/-- `GRPCEnvelopeReader.handle_response_complete`, given the result of
    `get_response_trailers`. -/
def handleGrpcComplete (r : Reader p) (trailers headers : p.HTTPHeaders)
    (error : Option ConnectError) : Reader p × Option Exc :=
  match p.getHeader trailers "grpc-status" with
  | some _ => readStatus r trailers error
  | none =>
      -- The headers are read only when there was no body message.
      if r.readMessage then (r, some (missingStatus error)) else readStatus r headers error

/-- `handle_response_complete`. -/
def handleResponseComplete (k : ReaderKind) (r : Reader p) (response : Response p)
    (error : Option ConnectError) : Reader p × Option Exc :=
  match k with
  | .server => (r, none)
  | .connect =>
      if error.isNone && !r.ended then
        (r, some (.connect .internal "protocol error: unexpected EOF"))
      else (r, none)
  | .grpc => handleGrpcComplete r response.trailers response.headers error
  | .grpcWeb => handleGrpcComplete r r.trailers response.headers error

/-- A whole body and the end of the response: the exception, if any. -/
def readResponse (k : ReaderKind) (cfg : ReaderConfig α) (r : Reader p) (response : Response p)
    (chunks : List Bytes) : Drained p α :=
  let d := withBlock k cfg r chunks
  match d.error with
  | some _ => d
  | none =>
      let completed := handleResponseComplete k d.reader response none
      { d with reader := completed.1, error := completed.2 }

/-! ## The reader as a resumable parser -/

/-- What a reader does with its buffer: read a prefix when no length is pending,
    otherwise take the frame once it is complete. -/
def move (k : ReaderKind) (cfg : ReaderConfig α) (s : ReaderState p) (b : Bytes) :
    Move UInt8 (ReaderState p) Exc α :=
  if s.ended then .wait
  else
    match s.nextMessageLength with
    | none =>
        match readPrefix k cfg s b with
        | .incomplete => .wait
        | .raised s e => .fail s b e
        | .promised s => .advance s b none
    | some n =>
        if b.length < n + 5 then .wait
        else
          let rest := b.drop (5 + n)
          match handleFrame k cfg s.taken (flagOf b) ((b.drop 5).take n) with
          | .raised s e => .fail s rest e
          | .ended s => .advance s rest none
          | .message s res => .advance s rest (some res)

/-- A pending length makes the next move a frame. -/
def rank (s : ReaderState p) : Nat := if s.nextMessageLength.isNone then 1 else 0

theorem rank_le_one (s : ReaderState p) : rank s ≤ 1 := by
  rw [rank]
  split
  · exact Nat.le_refl 1
  · exact Nat.zero_le 1

section Moves

variable {k : ReaderKind} {cfg : ReaderConfig α} {s : ReaderState p}

theorem move_ended (h : s.ended = true) (b : Bytes) : move k cfg s b = .wait := by
  rw [move, if_pos h]

theorem move_readPrefix (he : s.ended = false) (hn : s.nextMessageLength = none) (b : Bytes) :
    move k cfg s b =
      match readPrefix k cfg s b with
      | .incomplete => .wait
      | .raised s e => .fail s b e
      | .promised s => .advance s b none := by
  rw [move, he, if_neg Bool.false_ne_true, hn]

theorem move_frame (he : s.ended = false) {n : Nat} (hn : s.nextMessageLength = some n)
    {b : Bytes} (hb : n + 5 ≤ b.length) :
    move k cfg s b =
      match handleFrame k cfg s.taken (flagOf b) ((b.drop 5).take n) with
      | .raised s e => .fail s (b.drop (5 + n)) e
      | .ended s => .advance s (b.drop (5 + n)) none
      | .message s res => .advance s (b.drop (5 + n)) (some res) := by
  rw [move, he, if_neg Bool.false_ne_true, hn]
  exact if_neg (Nat.not_lt_of_le hb)

theorem move_short (he : s.ended = false) {n : Nat} (hn : s.nextMessageLength = some n)
    {b : Bytes} (hb : b.length < n + 5) : move k cfg s b = .wait := by
  rw [move, he, if_neg Bool.false_ne_true, hn]
  exact if_pos hb

/-- Reading a prefix does not depend on what stands behind it. -/
theorem readPrefix_append {b : Bytes} (hb : 5 ≤ b.length) (x : Bytes) :
    readPrefix k cfg s (b ++ x) = readPrefix k cfg s b := by
  have hne : b ≠ [] := by
    rintro rfl
    exact absurd hb (by decide)
  have hlen : ¬ (b ++ x).length < 5 := by
    rw [List.length_append]
    omega
  rw [readPrefix, readPrefix, if_neg hlen, if_neg (Nat.not_lt_of_le hb), flagOf_append hne,
    lengthOf_append hb]

theorem readPrefix_length {b : Bytes} (h : readPrefix k cfg s b ≠ .incomplete) :
    5 ≤ b.length := by
  rw [readPrefix] at h
  split at h
  · exact absurd rfl h
  · next h5 => exact Nat.le_of_not_lt h5

/-- The frame taken off a buffer does not depend on what stands behind it. -/
theorem frame_append {b : Bytes} {n : Nat} (hb : n + 5 ≤ b.length) (x : Bytes) :
    flagOf (b ++ x) = flagOf b ∧ ((b ++ x).drop 5).take n = (b.drop 5).take n
      ∧ (b ++ x).drop (5 + n) = b.drop (5 + n) ++ x := by
  have hne : b ≠ [] := by
    rintro rfl
    exact absurd hb (by simp)
  refine ⟨flagOf_append hne x, ?_, List.drop_append_of_le_length (by omega)⟩
  rw [List.drop_append_of_le_length (by omega),
    List.take_append_of_le_length (by rw [List.length_drop]; omega)]

end Moves

/-- What a move is, in the cases that are not waiting. -/
theorem move_cases {k : ReaderKind} {cfg : ReaderConfig α} {s : ReaderState p} {b : Bytes}
    (h : move k cfg s b ≠ .wait) :
    s.ended = false ∧
      ((s.nextMessageLength = none ∧ 5 ≤ b.length)
        ∨ ∃ n, s.nextMessageLength = some n ∧ n + 5 ≤ b.length) := by
  cases he : s.ended with
  | true => exact absurd (move_ended he b) h
  | false =>
      refine ⟨rfl, ?_⟩
      cases hn : s.nextMessageLength with
      | none =>
          have hread : readPrefix k cfg s b ≠ .incomplete := by
            intro hp
            rw [move_readPrefix he hn, hp] at h
            exact h rfl
          exact Or.inl ⟨rfl, readPrefix_length hread⟩
      | some n =>
          refine Or.inr ⟨n, rfl, Nat.le_of_not_lt ?_⟩
          intro hlt
          exact h (move_short he hn hlt)

/-- The law of monotonicity, for all moves at once. -/
theorem move_append {k : ReaderKind} {cfg : ReaderConfig α} {s : ReaderState p} {b : Bytes}
    (h : move k cfg s b ≠ .wait) (x : Bytes) :
    move k cfg s (b ++ x) =
      match move k cfg s b with
      | .wait => .wait
      | .advance s r o => .advance s (r ++ x) o
      | .fail s r e => .fail s (r ++ x) e := by
  obtain ⟨he, ⟨hn, hb⟩ | ⟨n, hn, hb⟩⟩ := move_cases h
  · rw [move_readPrefix he hn, move_readPrefix he hn, readPrefix_append hb]
    cases readPrefix k cfg s b <;> rfl
  · obtain ⟨hflag, hpay, hrest⟩ := frame_append hb x
    have hb' : n + 5 ≤ (b ++ x).length := by
      rw [List.length_append]
      omega
    rw [move_frame he hn hb', move_frame he hn hb, hflag, hpay, hrest]
    cases handleFrame k cfg s.taken (flagOf b) ((b.drop 5).take n) <;> rfl

theorem move_smaller {k : ReaderKind} {cfg : ReaderConfig α} {s s' : ReaderState p}
    {b r : Bytes} {o : Option α} (h : move k cfg s b = .advance s' r o) :
    r.length + rank s' < b.length + rank s := by
  have hmove : move k cfg s b ≠ .wait := by
    rw [h]
    exact nofun
  obtain ⟨he, ⟨hn, hb⟩ | ⟨n, hn, hb⟩⟩ := move_cases hmove
  · -- Reading a prefix leaves the buffer and gives the state a pending length.
    rw [move_readPrefix he hn] at h
    split at h
    · exact nomatch h
    · exact nomatch h
    · next s'' hp =>
        injection h with h1 h2 h3
        subst h1; subst h2
        obtain ⟨-, -, -, rfl⟩ := readPrefix_promised hp
        rw [rank, rank, hn]
        exact Nat.lt_succ_self _
  · -- Taking a frame removes at least its prefix.
    rw [move_frame he hn hb] at h
    have hr : r = b.drop (5 + n) := by
      split at h
      · exact nomatch h
      · injection h with h1 h2 h3
        exact h2.symm
      · injection h with h1 h2 h3
        exact h2.symm
    have hrank := rank_le_one s'
    rw [hr, List.length_drop]
    omega

/-- **The reader as a parser.** -/
def parser (k : ReaderKind) (cfg : ReaderConfig α) : Parser UInt8 (ReaderState p) Exc α where
  move := move k cfg
  rank := rank
  advance_smaller := move_smaller
  advance_mono := by
    intro s b s' r o h x
    rw [move_append (by rw [h]; exact nofun) x, h]
  fail_mono := by
    intro s b s' r e h x
    rw [move_append (by rw [h]; exact nofun) x, h]

/-- The result of the parser, in the words of the reader. -/
def ofResult (d : Result UInt8 (ReaderState p) Exc α) : Drained p α :=
  ⟨d.outs, ⟨d.state, d.rest⟩, d.error⟩

theorem ofResult_prepend (ms : List α) (d : Result UInt8 (ReaderState p) Exc α) :
    ofResult (d.prepend ms) = (ofResult d).prepend ms := rfl

/-- End messages leave the framing state alone. -/
theorem handleEndMessage_frame (k : ReaderKind) (s : ReaderState p) (b : UInt8) (data : Bytes) :
    (handleEndMessage k s b data).1.ended = s.ended
      ∧ (handleEndMessage k s b data).1.nextMessageLength = s.nextMessageLength := by
  cases k with
  | server => exact ⟨rfl, rfl⟩
  | grpc => exact ⟨rfl, rfl⟩
  | connect =>
      rw [handleEndMessage, handleConnectEnd]
      split
      · exact ⟨rfl, rfl⟩
      · split
        · exact ⟨rfl, rfl⟩
        · dsimp only
          split
          · exact ⟨rfl, rfl⟩
          · split
            · split <;> exact ⟨rfl, rfl⟩
            · exact ⟨rfl, rfl⟩
        · exact ⟨rfl, rfl⟩
  | grpcWeb =>
      rw [handleEndMessage, handleWebEnd]
      dsimp only
      split
      · exact ⟨rfl, rfl⟩
      · split <;> exact ⟨rfl, rfl⟩

/-- Everything a frame can come to, step by step. -/
theorem handleFrame_cases (k : ReaderKind) (cfg : ReaderConfig α) (s : ReaderState p)
    (b : UInt8) (data : Bytes) :
    (∃ e, messageContents cfg b data = .error e ∧ handleFrame k cfg s b data = .raised s e)
    ∨ ∃ plain s', messageContents cfg b data = .ok plain
        ∧ ((∃ e, handleEndMessage k s b plain = (s', .error e)
              ∧ handleFrame k cfg s b data = .raised s' e)
          ∨ (handleEndMessage k s b plain = (s', .ok true)
              ∧ handleFrame k cfg s b data = .ended { s' with ended := true })
          ∨ (handleEndMessage k s b plain = (s', .ok false)
              ∧ ((∃ e, decodeMessage cfg.codec plain = .error e
                    ∧ handleFrame k cfg s b data = .raised s' e)
                ∨ ∃ m, decodeMessage cfg.codec plain = .ok m
                    ∧ handleFrame k cfg s b data = .message s' m))) := by
  cases hc : messageContents cfg b data with
  | error e =>
      refine Or.inl ⟨e, rfl, ?_⟩
      rw [handleFrame, hc]
  | ok plain =>
      refine Or.inr ⟨plain, (handleEndMessage k s b plain).1, rfl, ?_⟩
      rw [handleFrame, hc]
      dsimp only
      obtain ⟨s', r⟩ := handleEndMessage k s b plain
      cases r with
      | error e => exact Or.inl ⟨e, rfl, rfl⟩
      | ok handled =>
          cases handled with
          | true => exact Or.inr (Or.inl ⟨rfl, rfl⟩)
          | false =>
              refine Or.inr (Or.inr ⟨rfl, ?_⟩)
              dsimp only
              cases hd : decodeMessage cfg.codec plain with
              | error e => exact Or.inl ⟨e, rfl, rfl⟩
              | ok m => exact Or.inr ⟨m, rfl, rfl⟩

/-- After a message the reader is where it was before the frame's prefix. -/
theorem handleFrame_message {k : ReaderKind} {cfg : ReaderConfig α} {s s' : ReaderState p}
    {b : UInt8} {data : Bytes} {m : α} (h : handleFrame k cfg s b data = .message s' m) :
    s'.ended = s.ended ∧ s'.nextMessageLength = s.nextMessageLength := by
  rcases handleFrame_cases k cfg s b data with
    ⟨e, _, hr⟩ | ⟨plain, t, _, ⟨e, _, hr⟩ | ⟨_, hr⟩ | ⟨ht, ⟨e, _, hr⟩ | ⟨m', _, hr⟩⟩⟩
  · rw [hr] at h; exact nomatch h
  · rw [hr] at h; exact nomatch h
  · rw [hr] at h; exact nomatch h
  · rw [hr] at h; exact nomatch h
  · rw [hr] at h
    injection h with h1 h2
    have hframe := handleEndMessage_frame k s b plain
    rw [ht] at hframe
    exact h1 ▸ hframe

section Drain

variable {k : ReaderKind} {cfg : ReaderConfig α}

theorem move_nil (s : ReaderState p) : move k cfg s [] = .wait := by
  by_contra h
  obtain ⟨-, ⟨-, hb⟩ | ⟨n, -, hb⟩⟩ := move_cases h
  · exact absurd hb (by decide)
  · exact absurd hb (by simp)

variable (k cfg) in
/-- An empty buffer is nothing to move on. -/
theorem parser_waits_nil (s : ReaderState p) : (parser k cfg).move s [] = .wait := move_nil s

/-- Draining from a state that waits for a prefix starts with that prefix. -/
theorem drain_readPrefix {s : ReaderState p} (he : s.ended = false)
    (hn : s.nextMessageLength = none) (b : Bytes) :
    (parser k cfg).drain s b =
      match readPrefix k cfg s b with
      | .incomplete => ⟨[], s, b, none⟩
      | .raised s e => ⟨[], s, b, some e⟩
      | .promised s => (parser k cfg).drain s b := by
  have hmove : (parser k cfg).move s b = _ := move_readPrefix he hn b
  cases hp : readPrefix k cfg s b with
  | incomplete => rw [hp] at hmove; exact Parser.drain_wait _ hmove
  | raised s' e => rw [hp] at hmove; exact Parser.drain_fail _ hmove
  | promised s' =>
      rw [hp] at hmove
      rw [Parser.drain_advance _ hmove]
      rfl

/-- Draining from a state with a pending length takes the frame. -/
theorem drain_frame {s : ReaderState p} (he : s.ended = false) {n : Nat}
    (hn : s.nextMessageLength = some n) {b : Bytes} (hb : n + 5 ≤ b.length) :
    (parser k cfg).drain s b =
      match handleFrame k cfg s.taken (flagOf b) ((b.drop 5).take n) with
      | .raised s e => ⟨[], s, b.drop (5 + n), some e⟩
      | .ended s => ⟨[], s, b.drop (5 + n), none⟩
      | .message s res => ((parser k cfg).drain s (b.drop (5 + n))).prepend [res] := by
  have hmove : (parser k cfg).move s b = _ := move_frame he hn hb
  cases hf : handleFrame k cfg s.taken (flagOf b) ((b.drop 5).take n) with
  | raised s' e => rw [hf] at hmove; exact Parser.drain_fail _ hmove
  | message s' m => rw [hf] at hmove; exact Parser.drain_advance _ hmove
  | ended s' =>
      rw [hf] at hmove
      have hended : s'.ended = true := by
        rcases handleFrame_cases k cfg s.taken (flagOf b) ((b.drop 5).take n) with
          ⟨e, _, hr⟩ | ⟨plain, t, _, ⟨e, _, hr⟩ | ⟨_, hr⟩ | ⟨_, ⟨e, _, hr⟩ | ⟨m, _, hr⟩⟩⟩
        · rw [hr] at hf; exact nomatch hf
        · rw [hr] at hf; exact nomatch hf
        · rw [hr] at hf
          injection hf with hf
          exact hf ▸ rfl
        · rw [hr] at hf; exact nomatch hf
        · rw [hr] at hf; exact nomatch hf
      rw [Parser.drain_advance _ hmove, Parser.drain_wait _ (move_ended hended _)]
      rfl

/-- The loop condition failed to hold the loop back. -/
theorem not_ended {r : Reader p} (h : ¬ (r.buffer = [] ∨ r.ended = true)) : r.ended = false := by
  rw [not_or] at h
  exact Bool.eq_false_iff.mpr h.2

/-- **The loop is the drain of the parser.** -/
theorem readMessages_eq_drain (r : Reader p) :
    readMessages k cfg r = ofResult ((parser k cfg).drain r.toReaderState r.buffer) := by
  fun_induction readMessages k cfg r with
  | case1 r h =>
      have hmove : (parser k cfg).move r.toReaderState r.buffer = .wait := by
        rcases h with hb | he
        · rw [hb]
          exact move_nil _
        · exact move_ended he _
      rw [Parser.drain_wait _ hmove]
      rfl
  | case2 r h n hn hlt =>
      rw [Parser.drain_wait _ (move_short (not_ended h) hn hlt)]
      rfl
  | case3 r h n hn hlt rest s e hf =>
      rw [drain_frame (not_ended h) hn (Nat.le_of_not_lt hlt), hf]
      rfl
  | case4 r h n hn hlt rest s hf =>
      rw [drain_frame (not_ended h) hn (Nat.le_of_not_lt hlt), hf]
      rfl
  | case5 r h n hn hlt rest s res hf hp =>
      -- The loop reads a frame and the next prefix in one turn, the parser in two.
      obtain ⟨he', hn'⟩ := handleFrame_message hf
      rw [drain_frame (not_ended h) hn (Nat.le_of_not_lt hlt), hf]
      dsimp only
      rw [drain_readPrefix (he'.trans (not_ended h)) hn', hp]
      rfl
  | case6 r h n hn hlt rest s res hf s' e hp =>
      obtain ⟨he', hn'⟩ := handleFrame_message hf
      rw [drain_frame (not_ended h) hn (Nat.le_of_not_lt hlt), hf]
      dsimp only
      rw [drain_readPrefix (he'.trans (not_ended h)) hn', hp]
      rfl
  | case7 r h n hn hlt rest s res hf s' hp ih =>
      obtain ⟨he', hn'⟩ := handleFrame_message hf
      rw [drain_frame (not_ended h) hn (Nat.le_of_not_lt hlt), hf, ih]
      dsimp only
      rw [drain_readPrefix (he'.trans (not_ended h)) hn', hp]
      rfl
  | case8 r h hn hp =>
      rw [drain_readPrefix (not_ended h) hn, hp]
      rfl
  | case9 r h hn s e hp =>
      rw [drain_readPrefix (not_ended h) hn, hp]
      rfl
  | case10 r h hn s hp ih =>
      rw [drain_readPrefix (not_ended h) hn, hp, ih]

/-- A prefix with legal flags and a length within the limit. -/
theorem readPrefix_eq_promised {s : ReaderState p} {b : Bytes} (h5 : 5 ≤ b.length)
    (hflags : flagOf b &&& ~~~k.flagsMask = 0)
    (hfits : exceeds (lengthOf b) cfg.readMaxBytes = false) :
    readPrefix k cfg s b = .promised { s with nextMessageLength := some (lengthOf b) } := by
  rw [readPrefix, if_neg (Nat.not_lt_of_le h5), if_neg (not_not.mpr hflags)]
  cases hmax : cfg.readMaxBytes with
  | none => rfl
  | some limit =>
      rw [hmax] at hfits
      exact if_neg (by rw [hfits]; exact Bool.false_ne_true)

/-- A frame at the front of the buffer of a reader that expects one. -/
theorem drain_bytes {s : ReaderState p} (he : s.ended = false)
    (hn : s.nextMessageLength = none) {f : Frame} (hflags : f.flags &&& ~~~k.flagsMask = 0)
    (hfits : exceeds f.payload.length cfg.readMaxBytes = false) (rest : Bytes) :
    (parser k cfg).drain s (f.bytes ++ rest) =
      match handleFrame k cfg s f.flags f.payload with
      | .raised s e => ⟨[], s, rest, some e⟩
      | .ended s => ⟨[], s, rest, none⟩
      | .message s res => ((parser k cfg).drain s rest).prepend [res] := by
  have hlen : 5 ≤ (f.bytes ++ rest).length := by
    rw [List.length_append, f.bytes_length]
    omega
  have hprefix : readPrefix k cfg s (f.bytes ++ rest)
      = .promised { s with nextMessageLength := some f.payload.length } := by
    rw [readPrefix_eq_promised hlen (by rw [flagOf_bytes]; exact hflags)
      (by rw [lengthOf_bytes]; exact hfits), lengthOf_bytes]
  -- Taking the frame clears the length that its prefix left.
  have htaken : ReaderState.taken { s with nextMessageLength := some f.payload.length } = s := by
    obtain ⟨n, e, m, t, r⟩ := s
    cases hn
    rfl
  have hb : f.payload.length + 5 ≤ (f.bytes ++ rest).length := by
    rw [List.length_append, f.bytes_length]
    omega
  rw [drain_readPrefix he hn, hprefix]
  refine (drain_frame (s := { s with nextMessageLength := some f.payload.length }) he rfl
    hb).trans ?_
  rw [htaken, flagOf_bytes, payload_bytes, drop_bytes]

end Drain

/-! ## Chunks -/

/-- Feeding chunks is running the parser over them. -/
theorem feedAll_eq_run (k : ReaderKind) (cfg : ReaderConfig α) (chunks : List Bytes)
    (r : Reader p) :
    feedAll k cfg r chunks
      = ofResult ((parser k cfg).run r.toReaderState r.buffer chunks) := by
  induction chunks generalizing r with
  | nil => rfl
  | cons c chunks ih =>
      have hfeed : feed k cfg r c
          = ofResult ((parser k cfg).drain r.toReaderState (r.buffer ++ c)) :=
        readMessages_eq_drain _
      rw [feedAll]
      rw [hfeed]
      cases he : ((parser k cfg).drain r.toReaderState (r.buffer ++ c)).error with
      | some e =>
          rw [Parser.run_cons_of_error _ chunks (by rw [he]; exact nofun)]
          simp only [ofResult, he]
      | none =>
          rw [Parser.run_cons_of_ok _ chunks he, ofResult_prepend]
          simp only [ofResult, he]
          rw [ih]
          rfl

/-- A single chunk is one drain. -/
theorem feedAll_singleton (k : ReaderKind) (cfg : ReaderConfig α) (r : Reader p) (data : Bytes) :
    feedAll k cfg r [data] = feed k cfg r data := by
  rw [feedAll]
  cases he : (feed k cfg r data).error with
  | some e => rfl
  | none =>
      show (⟨(feed k cfg r data).messages ++ [], (feed k cfg r data).reader, none⟩ : Drained p α)
        = feed k cfg r data
      rw [List.append_nil, ← he]

/-- The states in which a reader waits for more input. -/
def Waiting (k : ReaderKind) (cfg : ReaderConfig α) (r : Reader p) : Prop :=
  move k cfg r.toReaderState r.buffer = .wait

theorem waiting_new (k : ReaderKind) (cfg : ReaderConfig α)
    (response : Option (ResponseMetadata p)) : Waiting k cfg (Reader.new response) :=
  move_nil _

/-- Feeding from a waiting reader: the chunks against their concatenation. -/
theorem feedAll_chunks {k : ReaderKind} {cfg : ReaderConfig α} {r : Reader p}
    (hw : Waiting k cfg r) (chunks : List Bytes) :
    (feedAll k cfg r chunks).messages = (feedAll k cfg r [chunks.flatten]).messages
      ∧ (feedAll k cfg r chunks).error = (feedAll k cfg r [chunks.flatten]).error
      ∧ ((feedAll k cfg r chunks).error = none →
        (feedAll k cfg r chunks).reader = (feedAll k cfg r [chunks.flatten]).reader) := by
  have hone : feedAll k cfg r [chunks.flatten]
      = ofResult ((parser k cfg).drain r.toReaderState (r.buffer ++ chunks.flatten)) := by
    rw [feedAll_singleton]
    exact readMessages_eq_drain _
  obtain ⟨houts, herror, hstate, hrest⟩ :=
    (parser k cfg).run_eq_drain chunks r.toReaderState r.buffer hw
  rw [hone, feedAll_eq_run]
  refine ⟨houts, herror, fun h => ?_⟩
  show (⟨_, _⟩ : Reader p) = ⟨_, _⟩
  rw [hstate, hrest h]

/-- **Chunking does not matter.**  Over any chunks, a `with` block around a new
    reader yields the messages and ends in the exception of a block that feeds
    their concatenation, and if no feed raised it leaves the same reader. -/
theorem withBlock_chunks (k : ReaderKind) (cfg : ReaderConfig α)
    (response : Option (ResponseMetadata p)) (chunks : List Bytes) :
    (withBlock k cfg (Reader.new response) chunks).messages
        = (withBlock k cfg (Reader.new response) [chunks.flatten]).messages
      ∧ (withBlock k cfg (Reader.new response) chunks).error
        = (withBlock k cfg (Reader.new response) [chunks.flatten]).error
      ∧ ((feedAll k cfg (Reader.new response) chunks).error = none →
        (withBlock k cfg (Reader.new response) chunks).reader
          = (withBlock k cfg (Reader.new response) [chunks.flatten]).reader) := by
  obtain ⟨hmessages, herror, hreader⟩ :=
    feedAll_chunks (waiting_new k cfg response) chunks
  cases he : (feedAll k cfg (Reader.new response) chunks).error with
  | some e =>
      rw [withBlock, withBlock]
      rw [← herror, he]
      exact ⟨hmessages, herror, nofun⟩
  | none =>
      rw [withBlock, withBlock]
      rw [← herror, he, hreader he]
      exact ⟨hmessages, rfl, fun _ => rfl⟩

end ConnectEnvelope
