import ConnectPy.SingleMessageProofs

/-! # What reading a request leaves of its body

    A request message is read from the body in two ways: `_handle_post_request` takes
    the bytes as they are, by their length or up to their end, and
    `_consume_single_request` takes them through `_request_stream`, and stops at a second
    message.  Both are given here with the body they leave; what they return is what
    the functions without it return (`takePost_fst`, `takeSingle_fst`).

    A request that was read has left nothing of its body (`takePost_emptied`,
    `takeSingle_emptied`).  A handler that is given the request stream leaves what its
    calls of `next` did not need (`pulls_emptied_iff_reachLast`). -/

namespace ConnectReading

open Utf8 (Bytes)
open ConnectErrors ConnectPlatform ConnectEnvelope ConnectUnaryRequest ConnectRequestBody
open ConnectSingle

variable {p : Platform} {α β : Type}

/-! ## POST requests -/

/-- `_read_body_with_content_length`, with the body it leaves. -/
def takeBodyWithContentLength (b : RequestBody) (contentLength : Nat) :
    Except Exc Bytes × RequestBody :=
  let r := b.read (contentLength : Int)
  if r.1.length = contentLength then (.ok r.1, r.2)
  else
    let loop := readUpTo contentLength r.2 [r.1] r.1.length
    if loop.2.1 < contentLength then
      (.error (.connect .invalidArgument
        s!"request truncated, expected {contentLength} bytes but only received {loop.2.1} bytes"),
        loop.2.2)
    else (.ok loop.1.flatten, loop.2.2)

/-- The body is what the reader returned that did not tell what it left. -/
theorem takeBodyWithContentLength_fst (b : RequestBody) (contentLength : Nat) :
    (takeBodyWithContentLength b contentLength).1 = readBodyWithContentLength b contentLength := by
  rw [takeBodyWithContentLength, readBodyWithContentLength]
  dsimp only
  split
  · rfl
  · split <;> rfl

/-- All it does to the input is read from it. -/
theorem takeBodyWithContentLength_reads (b : RequestBody) (contentLength : Nat) :
    ∃ log, Reads b log (takeBodyWithContentLength b contentLength).2 := by
  obtain ⟨log, hlog, -, -⟩ := readUpTo_reads contentLength _ (b.read (contentLength : Int)).2
    [(b.read (contentLength : Int)).1] (b.read (contentLength : Int)).1.length rfl
  rw [takeBodyWithContentLength]
  dsimp only
  split
  · exact ⟨_, .cons _ (.nil _)⟩
  · split
    · exact ⟨_, .cons _ hlog.reads⟩
    · exact ⟨_, .cons _ hlog.reads⟩

/-- As many bytes as there are have been read when that many are returned. -/
theorem takeBodyWithContentLength_emptied {b : RequestBody} {data : Bytes}
    (h : (takeBodyWithContentLength b b.stream.data.length).1 = .ok data) :
    Emptied (takeBodyWithContentLength b b.stream.data.length).2 := by
  have hlength := b.read_length (b.stream.data.length : Int)
  obtain ⟨log, hlog, -, hcount⟩ := readUpTo_reads b.stream.data.length _
    (b.read (b.stream.data.length : Int)).2 [(b.read (b.stream.data.length : Int)).1]
    (b.read (b.stream.data.length : Int)).1.length rfl
  have hrest := congrArg List.length hlog.reads.data
  rw [List.length_append] at hrest
  rw [takeBodyWithContentLength] at h ⊢
  dsimp only at h ⊢
  by_cases hfull : (b.read (b.stream.data.length : Int)).1.length = b.stream.data.length
  · rw [if_pos hfull]
    refine List.eq_nil_of_length_eq_zero ?_
    dsimp only
    omega
  · rw [if_neg hfull] at h ⊢
    split at h
    · exact nomatch h
    · next hle =>
        rw [if_neg hle]
        refine List.eq_nil_of_length_eq_zero ?_
        dsimp only
        omega

/-- The content length that `_handle_post_request` goes by, or what `int` raises. -/
def declaredLength (environ : Environ) : Except String Int :=
  match environ.contentLength with
  | none => .ok 0
  | some s => if s = "" then .ok 0 else int s

/-- The length that is declared is the integer in its header. -/
theorem declaredLength_of_int {environ : Environ} {text : String} {n : Int}
    (hlength : environ.contentLength = some text) (hint : int text = .ok n) :
    declaredLength environ = .ok n := by
  rw [declaredLength, hlength]
  dsimp only
  rw [if_neg (int_ne_empty hint), hint]

/-- The body of a POST request, as `_handle_post_request` reads it, and what it leaves. -/
def takePostBody (readMaxBytes : Option Int) (environ : Environ) (b : RequestBody) :
    Except Exc Bytes × RequestBody :=
  match declaredLength environ with
  | .error text => (.error (.exception .valueError text), b)
  | .ok contentLength =>
      if 0 < contentLength then
        match tooLarge contentLength.toNat readMaxBytes with
        | some e => (.error e, b)
        | none => takeBodyWithContentLength b contentLength.toNat
      else
        let r := forChunks (collect readMaxBytes) ([], 0) b
        match r.1 with
        | (_, some e) => (.error e, r.2)
        | (s, none) => (.ok s.1.flatten, r.2)

/-- A POST is read by the length that is declared. -/
theorem readPostBody_declaredLength (readMaxBytes : Option Int) (environ : Environ) :
    readPostBody readMaxBytes environ
      = match declaredLength environ with
        | .error text => .error (.exception .valueError text)
        | .ok contentLength =>
            if 0 < contentLength then
              match tooLarge contentLength.toNat readMaxBytes with
              | some e => .error e
              | none => readBodyWithContentLength (.fromEnviron environ) contentLength.toNat
            else
              match readLimited readMaxBytes (.fromEnviron environ) [] 0 with
              | .error e => .error e
              | .ok chunks => .ok chunks.flatten := rfl

/-- It returns what the reader of the body returns. -/
theorem takePostBody_fst (readMaxBytes : Option Int) (environ : Environ) :
    (takePostBody readMaxBytes environ (.fromEnviron environ)).1
      = readPostBody readMaxBytes environ := by
  rw [takePostBody, readPostBody_declaredLength]
  cases declaredLength environ with
  | error _ => rfl
  | ok contentLength =>
      dsimp only
      by_cases hpos : 0 < contentLength
      · rw [if_pos hpos, if_pos hpos]
        cases tooLarge contentLength.toNat readMaxBytes with
        | some e => rfl
        | none => exact takeBodyWithContentLength_fst _ _
      · rw [if_neg hpos, if_neg hpos, readLimited_forChunks readMaxBytes _ _ [] 0 rfl]
        cases (forChunks (collect readMaxBytes) ([], 0) (.fromEnviron environ)).1 with
        | mk s result => cases result <;> rfl

/-- And only reads from the input. -/
theorem takePostBody_reads (readMaxBytes : Option Int) (environ : Environ) (b : RequestBody) :
    ∃ log, Reads b log (takePostBody readMaxBytes environ b).2 := by
  rw [takePostBody]
  cases declaredLength environ with
  | error _ => exact ⟨[], .nil b⟩
  | ok contentLength =>
      dsimp only
      by_cases hpos : 0 < contentLength
      · rw [if_pos hpos]
        cases tooLarge contentLength.toNat readMaxBytes with
        | some e => exact ⟨[], .nil b⟩
        | none => exact takeBodyWithContentLength_reads b _
      · rw [if_neg hpos]
        obtain ⟨log, hlog⟩ := forChunks_reads (collect readMaxBytes) _ ([], 0) b rfl
        cases hr : (forChunks (collect readMaxBytes) ([], 0) b).1 with
        | mk s result => cases result <;> exact ⟨log, hlog.reads⟩

/-- A POST request of the declared length that was read has left nothing. -/
theorem takePostBody_emptied {readMaxBytes : Option Int} {environ : Environ} {b : RequestBody}
    (hb : b.Honest) (hlength : declaredLength environ = .ok (b.stream.data.length : Int))
    {data : Bytes} (h : (takePostBody readMaxBytes environ b).1 = .ok data) :
    Emptied (takePostBody readMaxBytes environ b).2 := by
  rw [takePostBody, hlength] at h ⊢
  dsimp only at h ⊢
  by_cases hpos : (0 : Int) < (b.stream.data.length : Int)
  · rw [if_pos hpos, Int.toNat_natCast] at h ⊢
    cases htoo : tooLarge b.stream.data.length readMaxBytes with
    | some e =>
        rw [htoo] at h
        exact nomatch h
    | none =>
        rw [htoo] at h
        exact takeBodyWithContentLength_emptied h
  · rw [if_neg hpos] at h ⊢
    have hempty := forChunks_emptied (collect readMaxBytes) _ ([], 0) b hb rfl
    cases hr : (forChunks (collect readMaxBytes) ([], 0) b).1 with
    | mk s result =>
        rw [hr] at h hempty
        cases result with
        | some e => exact nomatch h
        | none => exact hempty rfl

/-- `_handle_post_request`, with the body it leaves. -/
def takePost (server : Server β) (environ : Environ) (b : RequestBody) :
    Except Exc β × RequestBody :=
  let r := takePostBody server.readMaxBytes environ b
  (orInternal
    (match r.1 with
    | .error e => .error e
    | .ok body => server.decodeBody (orIdentity environ.httpContentEncoding) body), r.2)

/-- A POST request is read as it is handled. -/
theorem takePost_fst (server : Server β) (environ : Environ) :
    (takePost server environ (.fromEnviron environ)).1 = handlePostRequest server environ := by
  rw [handlePostRequest, ← takePostBody_fst]
  rfl

/-- By reads from the input only. -/
theorem takePost_reads (server : Server β) (environ : Environ) (b : RequestBody) :
    ∃ log, Reads b log (takePost server environ b).2 :=
  takePostBody_reads server.readMaxBytes environ b

/-- A request with a message has been read to its end. -/
theorem takePost_emptied {server : Server β} {environ : Environ} {b : RequestBody}
    (hb : b.Honest) (hlength : declaredLength environ = .ok (b.stream.data.length : Int))
    {m : β} (h : (takePost server environ b).1 = .ok m) :
    Emptied (takePost server environ b).2 := by
  rw [takePost] at h ⊢
  dsimp only at h ⊢
  cases hbody : (takePostBody server.readMaxBytes environ b).1 with
  | error e =>
      rw [hbody] at h
      dsimp only [orInternal] at h
      split at h <;> exact nomatch h
  | ok data => exact takePostBody_emptied hb hlength hbody

/-! ## One message -/

/-- The messages of one chunk in the loop of `_consume_single_request`. -/
def takeMessages : Option β → List β → Except Exc (Option β)
  | req, [] => .ok req
  | some _, _ :: _ => .error (.connect .unimplemented "unary request has multiple messages")
  | none, message :: rest => takeMessages (some message) rest

/-- The loops of `_consume_single_request` and `_request_stream`, on one chunk: the
    second message comes before an exception that would follow it. -/
def takeChunk (cfg : ReaderConfig β) (s : Reader p × Option β) (chunk : Bytes) :
    (Reader p × Option β) × Option Exc :=
  let d := feed .server cfg s.1 chunk
  match takeMessages s.2 d.messages with
  | .error e => ((d.reader, s.2), some e)
  | .ok req => ((d.reader, req), d.error)

/-- `_consume_single_request` over `_request_stream`, with the body they leave. -/
def takeSingle (p : Platform) (cfg : ReaderConfig β) (b : RequestBody) :
    Except Exc β × RequestBody :=
  let r := forChunks (takeChunk cfg) ((Reader.new none : Reader p), none) b
  (match r.1.2.or (checkEnded .server r.1.1.1), r.1.1.2 with
    | some e, _ => .error e
    | none, none => .error (.connect .unimplemented "unary request has zero messages")
    | none, some req => .ok req, r.2)

/-- A chunk comes first. -/
theorem consumeSingle_append (req : Option β) (ms rest : List β) (e : Option Exc) :
    consumeSingle "unary request has multiple messages" "unary request has zero messages" req
        (ms ++ rest) e
      = match takeMessages req ms with
        | .error e => .error e
        | .ok req => consumeSingle "unary request has multiple messages"
            "unary request has zero messages" req rest e := by
  induction ms generalizing req with
  | nil => rfl
  | cons m ms ih =>
      cases req with
      | some req => cases e <;> rfl
      | none => exact ih (some m)

/-- The two loops, over chunks. -/
theorem takeChunks_consume (cfg : ReaderConfig β) (chunks : List Bytes) (reader : Reader p)
    (req : Option β) :
    (match (visitAll (takeChunk cfg) (reader, req) chunks).2.or
        (checkEnded .server (visitAll (takeChunk cfg) (reader, req) chunks).1.1),
        (visitAll (takeChunk cfg) (reader, req) chunks).1.2 with
      | some e, _ => .error e
      | none, none => .error (.connect .unimplemented "unary request has zero messages")
      | none, some req => .ok req)
      = consumeSingle "unary request has multiple messages" "unary request has zero messages" req
          (blockStream cfg reader chunks).1 (blockStream cfg reader chunks).2 := by
  induction chunks generalizing reader req with
  | nil =>
      rw [blockStream_nil, visitAll, Option.none_or]
      dsimp only
      cases checkEnded .server reader with
      | some e => cases req <;> rfl
      | none => cases req <;> rfl
  | cons chunk chunks ih =>
      rw [visitAll, blockStream_cons, takeChunk]
      dsimp only
      cases herror : (feed .server cfg reader chunk).error with
      | some e =>
          have happend := consumeSingle_append req (feed .server cfg reader chunk).messages []
            (some e)
          rw [List.append_nil] at happend
          dsimp only
          rw [happend]
          cases takeMessages req (feed .server cfg reader chunk).messages with
          | error e' => rfl
          | ok req' => cases req' <;> rfl
      | none =>
          dsimp only
          rw [consumeSingle_append]
          cases takeMessages req (feed .server cfg reader chunk).messages with
          | error e' => rfl
          | ok req' => exact ih _ req'

/-- The request that is taken is the one that `_consume_single_request` returns. -/
theorem takeSingle_fst (p : Platform) (cfg : ReaderConfig β) {b : RequestBody} (hb : b.Honest) :
    (takeSingle p cfg b).1 = consumeSingleRequest (forBody cfg (Reader.new none : Reader p) b) := by
  obtain ⟨chunks, -, hvisit⟩ := forChunks_visitAll _ b hb rfl
  have hbody : forBody cfg (Reader.new none : Reader p) b
      = blockStream cfg (Reader.new none : Reader p) chunks := by
    rw [forBody, hvisit]
    exact visitAll_block cfg chunks (Reader.new none) []
  rw [takeSingle, hbody, consumeSingleRequest]
  dsimp only
  rw [hvisit]
  exact takeChunks_consume cfg chunks (Reader.new none) none

/-- A stream of one message is taken by reads from the input. -/
theorem takeSingle_reads (p : Platform) (cfg : ReaderConfig β) (b : RequestBody) :
    ∃ log, Reads b log (takeSingle p cfg b).2 := by
  obtain ⟨log, hlog⟩ := forChunks_reads (takeChunk cfg) _ ((Reader.new none : Reader p), none) b rfl
  exact ⟨log, hlog.reads⟩

/-- And one that is accepted was read to its end. -/
theorem takeSingle_emptied {cfg : ReaderConfig β} {b : RequestBody} (hb : b.Honest) {m : β}
    (h : (takeSingle p cfg b).1 = .ok m) : Emptied (takeSingle p cfg b).2 := by
  refine forChunks_emptied (takeChunk cfg) _ _ b hb rfl ?_
  rw [takeSingle] at h
  dsimp only at h
  cases hr : (forChunks (takeChunk cfg) ((Reader.new none : Reader p), none) b).1.2 with
  | none => rfl
  | some e =>
      rw [hr] at h
      exact nomatch h

/-! ## The request stream

    A handler with a request stream calls `next` on it as often as it likes.  A call
    reads chunks until one of them completes a message, and none while there are
    messages of the last chunk left.  So the last chunk of the body is read when more
    messages were asked for than end in the chunks before it
    (`pulls_emptied_iff_reachLast`). -/

/-- `_request_stream` between two calls of `next`: the reader, the messages of the last
    chunk that are left, and the exception behind them. -/
structure RequestStream (p : Platform) (β : Type) where
  reader  : Reader p
  waiting : List β
  error   : Option Exc
  ended   : Bool

namespace RequestStream

/-- Before the first call. -/
def new (p : Platform) (β : Type) : RequestStream p β := ⟨Reader.new none, [], none, false⟩

/-- `close()`; also what an exception and the end leave. -/
def close (s : RequestStream p β) : RequestStream p β := ⟨s.reader, [], none, true⟩

/-- What a call that yields nothing comes to. -/
def outcome : Option Exc → Except Exc (Option β)
  | some e => .error e
  | none => .ok none

/-- `next(stream)`, none for `StopIteration`. -/
def next (cfg : ReaderConfig β) (s : RequestStream p β) (b : RequestBody) :
    Except Exc (Option β) × RequestStream p β × RequestBody :=
  if s.ended then (.ok none, s, b)
  else
    match s.waiting, s.error with
    | m :: waiting, _ => (.ok (some m), { s with waiting := waiting }, b)
    | [], some e => (.error e, s.close, b)
    | [], none =>
        let r := resumeRequestStream cfg s.reader b
        match r.1.2 with
        | some (m :: waiting, error) => (.ok (some m), ⟨r.1.1, waiting, error, false⟩, r.2)
        | some ([], error) => (outcome error, s.close, r.2)
        | none => (outcome (checkEnded .server r.1.1), s.close, r.2)

/-- What a call leaves. -/
def pull (cfg : ReaderConfig β) (s : RequestStream p β × RequestBody) :
    RequestStream p β × RequestBody := (s.1.next cfg s.2).2

end RequestStream

/-- The chunks of `_read_body`, if all of them are read. -/
def bodyChunks (b : RequestBody) : List Bytes :=
  let r := b.read bodyChunkSize
  if _hr : r.1 = [] then [] else r.1 :: bodyChunks r.2
termination_by b.stream.data.length
decreasing_by
  have hpos : 0 < (b.read bodyChunkSize).1.length := List.length_pos_iff.mpr _hr
  have hlength := b.read_length bodyChunkSize
  show (b.read bodyChunkSize).2.stream.data.length < b.stream.data.length
  omega

/-- So many calls of `next` read the last chunk of a body: the chunks before it are well
    formed, and fewer messages end in them. -/
def ReachLast (p : Platform) (cfg : ReaderConfig β) (chunks : List Bytes) (pulls : Nat) : Prop :=
  let before := feedAll .server cfg (Reader.new none : Reader p) chunks.dropLast
  chunks = [] ∨ before.error = none ∧ before.messages.length < pulls

section Pulls

variable {cfg : ReaderConfig β}

/-- A body of one chunk is read by the first call. -/
theorem reachLast_singleton (chunk : Bytes) (pulls : Nat) :
    ReachLast p cfg [chunk] pulls ↔ 0 < pulls := by
  simp [ReachLast, feedAll]

/-- A read of nothing ends the chunks. -/
theorem bodyChunks_nil {b : RequestBody} (hr : (b.read bodyChunkSize).1 = []) :
    bodyChunks b = [] := by
  rw [bodyChunks, dif_pos hr]

/-- Any other read is a chunk. -/
theorem bodyChunks_cons {b : RequestBody} (hr : (b.read bodyChunkSize).1 ≠ []) :
    bodyChunks b = (b.read bodyChunkSize).1 :: bodyChunks (b.read bodyChunkSize).2 := by
  rw [bodyChunks, dif_neg hr]

/-- An honest body has a chunk as long as it has anything. -/
theorem bodyChunks_eq_nil_iff {b : RequestBody} (hb : b.Honest) :
    bodyChunks b = [] ↔ Emptied b := by
  obtain ⟨-, -, hnil⟩ := RequestBody.read_honest hb bodyChunkSize (by decide)
  have happend := b.read_append bodyChunkSize
  by_cases hr : (b.read bodyChunkSize).1 = []
  · exact iff_of_true (bodyChunks_nil hr) (hnil hr)
  · rw [bodyChunks_cons hr]
    refine iff_of_false (by simp) ?_
    intro hempty
    rw [hempty] at happend
    exact hr (List.append_eq_nil_iff.mp happend).1

/-- An error ends the feeding. -/
theorem feedAll_cons_error {reader : Reader p} {chunk : Bytes} {chunks : List Bytes} {e : Exc}
    (h : (feed .server cfg reader chunk).error = some e) :
    feedAll .server cfg reader (chunk :: chunks) = feed .server cfg reader chunk := by
  rw [feedAll, h]

/-- Otherwise the chunks that follow are fed. -/
theorem feedAll_cons_none {reader : Reader p} {chunk : Bytes} {chunks : List Bytes}
    (h : (feed .server cfg reader chunk).error = none) :
    feedAll .server cfg reader (chunk :: chunks)
      = (feedAll .server cfg (feed .server cfg reader chunk).reader chunks).prepend
          (feed .server cfg reader chunk).messages := by
  rw [feedAll, h]

/-- A chunk without messages leads to the next one. -/
theorem resumeRequestStream_next {reader : Reader p} {b : RequestBody}
    (hr : (b.read bodyChunkSize).1 ≠ [])
    (hmessages : (feed .server cfg reader (b.read bodyChunkSize).1).messages = [])
    (herror : (feed .server cfg reader (b.read bodyChunkSize).1).error = none) :
    resumeRequestStream cfg reader b
      = resumeRequestStream cfg (feed .server cfg reader (b.read bodyChunkSize).1).reader
          (b.read bodyChunkSize).2 := by
  rw [resumeRequestStream, forChunks, dif_neg hr, feedReader, hmessages, herror]
  rfl

/-- At any other it stops. -/
theorem resumeRequestStream_stop (cfg : ReaderConfig β) (reader : Reader p) {b : RequestBody}
    (hr : (b.read bodyChunkSize).1 ≠ [])
    (hstop : ((feed .server cfg reader (b.read bodyChunkSize).1).messages.isEmpty
      && (feed .server cfg reader (b.read bodyChunkSize).1).error.isNone) = false) :
    resumeRequestStream cfg reader b
      = (((feed .server cfg reader (b.read bodyChunkSize).1).reader,
          some ((feed .server cfg reader (b.read bodyChunkSize).1).messages,
            (feed .server cfg reader (b.read bodyChunkSize).1).error)),
        (b.read bodyChunkSize).2) := by
  rw [resumeRequestStream, forChunks, dif_neg hr, feedReader, hstop]
  rfl

/-- What was read to its end stays so. -/
theorem resumeRequestStream_emptied (reader : Reader p) {b : RequestBody} (hb : Emptied b) :
    Emptied (resumeRequestStream cfg reader b).2 := by
  obtain ⟨log, hlog⟩ := resumeRequestStream_reads cfg reader b
  exact hlog.reads.emptied hb

/-- What one call reads of a body that has something left.  Either it comes to the last
    chunk, and no message ends before that; or it stops before, at a chunk with messages
    or with an exception. -/
inductive Resumed (cfg : ReaderConfig β) (reader : Reader p) (b : RequestBody) : Prop where
  | last (hempty : Emptied (resumeRequestStream cfg reader b).2)
      (herror : (feedAll .server cfg reader (bodyChunks b).dropLast).error = none)
      (hnone : (feedAll .server cfg reader (bodyChunks b).dropLast).messages = [])
  | failed {ms : List β} {e : Exc} (hhonest : (resumeRequestStream cfg reader b).2.Honest)
      (hleft : ¬ Emptied (resumeRequestStream cfg reader b).2)
      (hresult : (resumeRequestStream cfg reader b).1.2 = some (ms, some e))
      (herror : (feedAll .server cfg reader (bodyChunks b).dropLast).error = some e)
  | yielded {m : β} {ms : List β} (hhonest : (resumeRequestStream cfg reader b).2.Honest)
      (hleft : ¬ Emptied (resumeRequestStream cfg reader b).2)
      (hresult : (resumeRequestStream cfg reader b).1.2 = some (m :: ms, none))
      (hrest : feedAll .server cfg reader (bodyChunks b).dropLast
        = (feedAll .server cfg (resumeRequestStream cfg reader b).1.1
            (bodyChunks (resumeRequestStream cfg reader b).2).dropLast).prepend (m :: ms))

/-- By induction on the bytes that are left to read. -/
theorem resumed (cfg : ReaderConfig β) : ∀ (left : Nat) (reader : Reader p) (b : RequestBody),
    b.Honest → ¬ Emptied b → b.stream.data.length = left → Resumed cfg reader b := by
  intro left
  induction left using Nat.strongRecOn with
  | ind left ih =>
      intro reader b hb hne hleft
      obtain ⟨hb', -, hnil⟩ := RequestBody.read_honest hb bodyChunkSize (by decide)
      have hr : (b.read bodyChunkSize).1 ≠ [] := fun h => hne (hnil h)
      by_cases hlast : Emptied (b.read bodyChunkSize).2
      · -- The last chunk: before it nothing is fed.
        have hchunks : (bodyChunks b).dropLast = [] := by
          rw [bodyChunks_cons hr, (bodyChunks_eq_nil_iff hb').mpr hlast]
          rfl
        refine .last ?_ (by rw [hchunks]; rfl) (by rw [hchunks]; rfl)
        cases hstop : ((feed .server cfg reader (b.read bodyChunkSize).1).messages.isEmpty
            && (feed .server cfg reader (b.read bodyChunkSize).1).error.isNone) with
        | false =>
            rw [resumeRequestStream_stop cfg reader hr hstop]
            exact hlast
        | true =>
            rw [Bool.and_eq_true, List.isEmpty_iff, Option.isNone_iff_eq_none] at hstop
            rw [resumeRequestStream_next hr hstop.1 hstop.2]
            exact resumeRequestStream_emptied _ hlast
      · have hchunks : (bodyChunks b).dropLast
            = (b.read bodyChunkSize).1 :: (bodyChunks (b.read bodyChunkSize).2).dropLast := by
          rw [bodyChunks_cons hr]
          exact List.dropLast_cons_of_ne_nil (mt (bodyChunks_eq_nil_iff hb').mp hlast)
        cases herror : (feed .server cfg reader (b.read bodyChunkSize).1).error with
        | some e =>
            -- The chunk raises: the call ends here, with what it yields before.
            have hstop := resumeRequestStream_stop cfg reader hr
              (by rw [herror]; exact Bool.and_false _)
            rw [herror] at hstop
            refine .failed (by rw [hstop]; exact hb') (by rw [hstop]; exact hlast)
              (congrArg (fun r => r.1.2) hstop) ?_
            rw [hchunks, feedAll_cons_error herror, herror]
        | none =>
            cases hmessages : (feed .server cfg reader (b.read bodyChunkSize).1).messages with
            | cons m ms =>
                -- The chunk has a message, which suspends the generator.
                have hstop := resumeRequestStream_stop cfg reader hr
                  (by rw [hmessages]; rfl)
                rw [herror, hmessages] at hstop
                refine .yielded (by rw [hstop]; exact hb') (by rw [hstop]; exact hlast)
                  (congrArg (fun r => r.1.2) hstop) ?_
                rw [hchunks, feedAll_cons_none herror, hmessages, hstop]
            | nil =>
                -- A chunk without either: the loop reads on, and the hypothesis says how it
                -- ends.
                have hnext := resumeRequestStream_next hr hmessages herror
                have hfed : feedAll .server cfg reader (bodyChunks b).dropLast
                    = feedAll .server cfg (feed .server cfg reader (b.read bodyChunkSize).1).reader
                        (bodyChunks (b.read bodyChunkSize).2).dropLast := by
                  rw [hchunks, feedAll_cons_none herror, hmessages]
                  rfl
                have hlength := b.read_length bodyChunkSize
                have hpos : 0 < (b.read bodyChunkSize).1.length := List.length_pos_iff.mpr hr
                cases ih _ (by omega)
                  (feed .server cfg reader (b.read bodyChunkSize).1).reader
                  (b.read bodyChunkSize).2 hb' hlast rfl with
                | last h1 h2 h3 =>
                    rw [← hnext] at h1
                    rw [← hfed] at h2 h3
                    exact .last h1 h2 h3
                | failed h1 h2 h3 h4 =>
                    rw [← hnext] at h1 h2 h3
                    rw [← hfed] at h4
                    exact .failed h1 h2 h3 h4
                | yielded h1 h2 h3 h4 =>
                    rw [← hnext] at h1 h2 h3 h4
                    rw [← hfed] at h4
                    exact .yielded h1 h2 h3 h4

/-- A stream that has ended reads no more. -/
theorem pull_ended {s : RequestStream p β} (hended : s.ended = true) (b : RequestBody) :
    RequestStream.pull cfg (s, b) = (s, b) := by
  rw [RequestStream.pull, RequestStream.next, if_pos hended]

/-- However often it is asked. -/
theorem pulls_ended {s : RequestStream p β} (hended : s.ended = true) (b : RequestBody) (n : Nat) :
    (RequestStream.pull cfg)^[n] (s, b) = (s, b) :=
  Function.iterate_fixed (pull_ended hended b) n

/-- A call with nothing waiting resumes the loop. -/
theorem pull_snd (reader : Reader p) (b : RequestBody) :
    (RequestStream.pull cfg (⟨reader, [], none, false⟩, b)).2
      = (resumeRequestStream cfg reader b).2 := by
  rw [RequestStream.pull, RequestStream.next, if_neg Bool.false_ne_true]
  dsimp only
  split <;> rfl

/-- A message in hand, and those after it. -/
theorem pull_cons {reader : Reader p} {b : RequestBody} {m : β} {ms : List β}
    {error : Option Exc} (h : (resumeRequestStream cfg reader b).1.2 = some (m :: ms, error)) :
    RequestStream.pull cfg (⟨reader, [], none, false⟩, b)
      = (⟨(resumeRequestStream cfg reader b).1.1, ms, error, false⟩,
        (resumeRequestStream cfg reader b).2) := by
  rw [RequestStream.pull, RequestStream.next, if_neg Bool.false_ne_true]
  dsimp only
  rw [h]

/-- No message: the stream has ended, with its error or without. -/
theorem pull_nil {reader : Reader p} {b : RequestBody} {error : Option Exc}
    (h : (resumeRequestStream cfg reader b).1.2 = some ([], error)) :
    RequestStream.pull cfg (⟨reader, [], none, false⟩, b)
      = ((⟨reader, [], none, true⟩ : RequestStream p β), (resumeRequestStream cfg reader b).2) := by
  rw [RequestStream.pull, RequestStream.next, if_neg Bool.false_ne_true]
  dsimp only
  rw [h]
  rfl

/-- A call reads, or does not. -/
theorem next_reads (cfg : ReaderConfig β) (s : RequestStream p β) (b : RequestBody) :
    ∃ log, Reads b log (s.next cfg b).2.2 := by
  obtain ⟨log, hlog⟩ := resumeRequestStream_reads cfg s.reader b
  rw [RequestStream.next]
  split
  · exact ⟨[], .nil b⟩
  · split
    · exact ⟨[], .nil b⟩
    · exact ⟨[], .nil b⟩
    · dsimp only
      split
      · exact ⟨log, hlog.reads⟩
      · exact ⟨log, hlog.reads⟩
      · exact ⟨log, hlog.reads⟩

/-- Asking for messages never gives back what was read. -/
theorem pulls_emptied (s : RequestStream p β) {b : RequestBody} (hb : Emptied b) (n : Nat) :
    Emptied ((RequestStream.pull cfg)^[n] (s, b)).2 := by
  induction n generalizing s b with
  | zero => exact hb
  | succ n ih =>
      obtain ⟨log, hlog⟩ := next_reads cfg s b
      exact ih _ (hlog.emptied hb)

/-- From any state of the stream on, so many calls read the
    rest of the body just if they ask for more than is waiting and ends before the last
    chunk, and all of that is well formed. -/
theorem pulls_emptied_iff (n : Nat) : ∀ (s : RequestStream p β) (b : RequestBody),
    b.Honest → ¬ Emptied b → s.ended = false →
    (Emptied ((RequestStream.pull cfg)^[n] (s, b)).2
      ↔ s.error = none
        ∧ (feedAll .server cfg s.reader (bodyChunks b).dropLast).error = none
        ∧ s.waiting.length
            + (feedAll .server cfg s.reader (bodyChunks b).dropLast).messages.length < n) := by
  induction n with
  | zero =>
      intro s b _ hne _
      exact iff_of_false hne fun h => Nat.not_lt_zero _ h.2.2
  | succ n ih =>
      rintro ⟨reader, waiting, error, _⟩ b hb hne rfl
      rw [Function.iterate_succ_apply]
      cases waiting with
      | cons m waiting =>
          -- A message that is waiting costs one call and no read.
          have hnext := ih ⟨reader, waiting, error, false⟩ b hb hne rfl
          refine hnext.trans ?_
          dsimp only
          rw [List.length_cons]
          refine and_congr_right fun _ => and_congr_right fun _ => ?_
          omega
      | nil =>
          cases error with
          | some e =>
              have hended : RequestStream.pull cfg (⟨reader, [], some e, false⟩, b)
                  = ((⟨reader, [], none, true⟩ : RequestStream p β), b) := rfl
              rw [hended, pulls_ended rfl]
              exact iff_of_false hne fun h => nomatch h.1
          | none =>
              cases resumed cfg _ reader b hb hne rfl with
              | last hempty herror hnone =>
                  rw [← pull_snd] at hempty
                  refine iff_of_true (pulls_emptied _ hempty n) ⟨rfl, herror, ?_⟩
                  rw [hnone]
                  exact Nat.succ_pos n
              | @failed ms e hhonest hleft hresult herror =>
                  have hfalse : (feedAll .server cfg reader (bodyChunks b).dropLast).error
                      ≠ none := by
                    rw [herror]
                    exact Option.some_ne_none e
                  refine iff_of_false ?_ fun h => hfalse h.2.1
                  cases ms with
                  | nil =>
                      rw [pull_nil hresult, pulls_ended rfl]
                      exact hleft
                  | cons m ms =>
                      rw [pull_cons hresult, ih _ _ hhonest hleft rfl]
                      intro h
                      exact Option.some_ne_none e h.1
              | @yielded m ms hhonest hleft hresult hrest =>
                  rw [pull_cons hresult, ih _ _ hhonest hleft rfl, hrest]
                  dsimp only
                  refine and_congr_right fun _ => and_congr_right fun _ => ?_
                  show ms.length + _ < n ↔ 0 + ((m :: ms) ++ _).length < n + 1
                  rw [List.length_append, List.length_cons]
                  omega

/-- **The pulls of a handler** on a fresh stream. -/
theorem pulls_emptied_iff_reachLast {b : RequestBody} (hb : b.Honest) (n : Nat) :
    Emptied ((RequestStream.pull cfg)^[n] (.new p β, b)).2
      ↔ ReachLast p cfg (bodyChunks b) n := by
  rw [ReachLast, bodyChunks_eq_nil_iff hb]
  by_cases hempty : Emptied b
  · exact iff_of_true (pulls_emptied _ hempty n) (Or.inl hempty)
  · rw [or_iff_right hempty, pulls_emptied_iff n _ b hb hempty rfl]
    simp [RequestStream.new]

end Pulls

end ConnectReading
