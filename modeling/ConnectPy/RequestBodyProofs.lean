import ConnectPy.EnvelopeReaderProofs
import ConnectPy.UnaryRequestProofs

/-! # The request body of the WSGI server — never past its end

    `_RequestBody` stands between the WSGI server and `wsgi.input`, which may hold
    the next request of the connection after the body of this one, and on which a
    read that asks for too much blocks.  Everything that is read is read through
    it: the optimistic read and the loop for a content length, the loops over
    `_read_body` that collect a message, feed an envelope reader or drain what is
    left.

    A sequence of reads of any sizes is `Reads`.  One invariant (`Within`) says what
    a body that stands for `L` bytes has still to hand out; a read keeps it
    (`Within.read`), so a sequence does (`Within.reads`).  The loops are sequences
    of reads, of at most one more than there are bytes (`readUpTo_reads`,
    `forChunks_reads`). -/

namespace ConnectRequestBody

open Utf8 (Bytes)
open ConnectErrors ConnectPlatform ConnectEnvelope ConnectUnaryRequest

variable {σ ρ : Type}

/-! ## Sequences of reads -/

/-- What `_RequestBody.read(size)` asks of the stream; none where it leaves the
    stream alone. -/
def asks (b : RequestBody) (size : Int) : Option Int :=
  match b.remaining with
  | none => some size
  | some remaining =>
      if remaining ≤ 0 then none
      else some (min (if size < 0 then remaining else size) remaining)

/-- One read: the number of bytes asked of the stream, and what was handed out. -/
structure Read where
  asked : Option Int
  chunk : Bytes

/-- `_RequestBody` through a sequence of reads, of whatever sizes. -/
inductive Reads : RequestBody → List Read → RequestBody → Prop where
  | nil (b : RequestBody) : Reads b [] b
  | cons {b b' : RequestBody} {log : List Read} (size : Int) (h : Reads (b.read size).2 log b') :
      Reads b (⟨asks b size, (b.read size).1⟩ :: log) b'

/-- All that a sequence of reads handed out. -/
def handedOut (log : List Read) : Bytes := (log.map Read.chunk).flatten

@[simp] theorem handedOut_nil : handedOut [] = [] := rfl

@[simp] theorem handedOut_cons (r : Read) (log : List Read) :
    handedOut (r :: log) = r.chunk ++ handedOut log := rfl

theorem Reads.append {b b' b'' : RequestBody} {log log' : List Read} (h : Reads b log b')
    (h' : Reads b' log' b'') : Reads b (log ++ log') b'' := by
  induction h with
  | nil b => exact h'
  | cons size h ih => exact .cons size (ih h')

/-- A read is the read of the stream that it asks for, counted. -/
theorem read_eq_asks (b : RequestBody) (size : Int) :
    b.read size = match asks b size with
      | none => ([], b)
      | some n => ((b.stream.read n).1, ⟨(b.stream.read n).2,
          b.remaining.map fun remaining => remaining - ((b.stream.read n).1.length : Int)⟩) := by
  obtain ⟨stream, remaining⟩ := b
  cases remaining with
  | none => rfl
  | some remaining =>
      rw [RequestBody.read, asks]
      dsimp only
      by_cases hzero : remaining ≤ 0
      · rw [if_pos hzero, if_pos hzero]
      · rw [if_neg hzero, if_neg hzero]
        rfl

/-! ## The invariant -/

/-- A body that stands for the first `limit` bytes of a stream, of which it has
    handed out some. -/
structure Within (data : Bytes) (limit : Nat) (handed : Bytes) (b : RequestBody) : Prop where
  /-- Exactly the rest is still to come. -/
  remaining : b.remaining = some ((limit : Int) - (handed.length : Int))
  /-- Nothing is lost, repeated or out of order. -/
  append    : handed ++ b.stream.data = data
  le        : handed.length ≤ limit

/-- What a read asks for was not handed out yet, and is no more than was promised. -/
theorem Within.asks_le {data handed : Bytes} {limit : Nat} {b : RequestBody}
    (h : Within data limit handed b) {size n : Int} (hn : asks b size = some n) :
    0 ≤ n ∧ (handed.length : Int) + n ≤ (limit : Int) := by
  rw [asks, h.remaining] at hn
  dsimp only at hn
  by_cases hzero : (limit : Int) - (handed.length : Int) ≤ 0
  · rw [if_pos hzero] at hn
    exact nomatch hn
  · rw [if_neg hzero] at hn
    obtain rfl := Option.some.inj hn
    by_cases hsize : size < 0
    · rw [if_pos hsize]
      omega
    · rw [if_neg hsize]
      omega

/-- **One read** keeps the invariant. -/
theorem Within.read {data handed : Bytes} {limit : Nat} {b : RequestBody}
    (h : Within data limit handed b) (size : Int) :
    Within data limit (handed ++ (b.read size).1) (b.read size).2 := by
  have happend := b.read_append size
  rw [read_eq_asks] at happend ⊢
  cases hn : asks b size with
  | none =>
      dsimp only
      rw [List.append_nil]
      exact h
  | some n =>
      rw [hn] at happend
      obtain ⟨hnonneg, hle⟩ := h.asks_le hn
      have hlength : ((b.stream.read n).1.length : Int) ≤ n := Input.read_length_le hnonneg
      refine ⟨?_, ?_, ?_⟩
      · dsimp only
        rw [h.remaining, Option.map_some, List.length_append]
        congr 1
        push_cast
        omega
      · dsimp only at happend ⊢
        rw [List.append_assoc, happend, h.append]
      · dsimp only
        rw [List.length_append]
        omega

/-- **Any sequence of reads** keeps it. -/
theorem Within.reads {data handed : Bytes} {limit : Nat} {b b' : RequestBody} {log : List Read}
    (h : Within data limit handed b) (hreads : Reads b log b') :
    Within data limit (handed ++ handedOut log) b' := by
  induction hreads generalizing handed with
  | nil b =>
      rw [handedOut_nil, List.append_nil]
      exact h
  | cons size hreads ih =>
      rw [handedOut_cons, ← List.append_assoc]
      exact ih (h.read size)

theorem int_ne_empty {text : String} {n : Int} (h : int text = .ok n) : text ≠ "" := by
  rintro rfl
  exact nomatch h

/-- The body of a fresh request whose content length is a number. -/
theorem within_fromEnviron {environ : Environ} {text : String} {limit : Nat}
    (hlength : environ.contentLength = some text) (hint : int text = .ok (limit : Int)) :
    Within environ.wsgiInput.data limit [] (RequestBody.fromEnviron environ) := by
  have heq : RequestBody.fromEnviron environ = ⟨environ.wsgiInput, some (limit : Int)⟩ := by
    rw [RequestBody.fromEnviron, hlength]
    dsimp only
    rw [if_neg (int_ne_empty hint), hint]
    rfl
  rw [heq]
  exact ⟨by simp, rfl, Nat.zero_le _⟩

/-! ## The loops -/

/-- `for chunk in _read_body(request_body)`, with a loop body that keeps a state
    and may leave the loop with a result. -/
def forChunks (visit : σ → Bytes → σ × Option ρ) (s : σ) (b : RequestBody) :
    (σ × Option ρ) × RequestBody :=
  let r := b.read bodyChunkSize
  if _hr : r.1 = [] then ((s, none), r.2)
  else
    match visit s r.1 with
    | (s, some result) => ((s, some result), r.2)
    | (s, none) => forChunks visit s r.2
termination_by b.stream.data.length
decreasing_by
  have hpos : 0 < (b.read bodyChunkSize).1.length := List.length_pos_iff.mpr _hr
  have hlength := b.read_length bodyChunkSize
  show (b.read bodyChunkSize).2.stream.data.length < b.stream.data.length
  omega

/-- The loop body of `_handle_post_request`: collect the chunks up to the limit. -/
def collect (readMaxBytes : Option Int) (s : List Bytes × Nat) (chunk : Bytes) :
    (List Bytes × Nat) × Option Exc :=
  let readBytes := s.2 + chunk.length
  match tooLarge readBytes readMaxBytes with
  | some e => ((s.1, readBytes), some e)
  | none => ((s.1 ++ [chunk], readBytes), none)

/-- The loop body of `_request_stream`: feed the reader, and leave the loop, to come
    back to it, where it yields messages. -/
def feedReader {p : Platform} {α : Type} (cfg : ReaderConfig α) (reader : Reader p)
    (chunk : Bytes) : Reader p × Option (List α × Option Exc) :=
  let d := feed .server cfg reader chunk
  (d.reader, if d.messages.isEmpty && d.error.isNone then none else some (d.messages, d.error))

/-- `_request_stream` from one resumption to where it next yields or ends. -/
def resumeRequestStream {p : Platform} {α : Type} (cfg : ReaderConfig α) :
    Reader p → RequestBody → (Reader p × Option (List α × Option Exc)) × RequestBody :=
  forChunks (feedReader cfg)

/-- `_drain_request_body`. -/
def drainRequestBody (serverProtocol : String) (b : RequestBody) : RequestBody :=
  if serverProtocol.startsWith "HTTP/1" then
    (forChunks (fun (_ : Unit) _ => ((), (none : Option Unit))) () b).2
  else b

/-- A sequence of reads that ends: it takes at most one read more than there are
    bytes handed out by it. -/
structure Ends (b : RequestBody) (log : List Read) (b' : RequestBody) : Prop where
  reads  : Reads b log b'
  length : log.length ≤ (handedOut log).length + 1

theorem Ends.nil (b : RequestBody) : Ends b [] b := ⟨.nil b, Nat.zero_le _⟩

theorem Ends.single (b : RequestBody) (size : Int) :
    Ends b [⟨asks b size, (b.read size).1⟩] (b.read size).2 :=
  ⟨.cons size (.nil _), Nat.le_add_left _ _⟩

/-- A read that hands out something pays for itself. -/
theorem Ends.cons {b b' : RequestBody} {log : List Read} {size : Int}
    (hr : (b.read size).1 ≠ []) (h : Ends (b.read size).2 log b') :
    Ends b (⟨asks b size, (b.read size).1⟩ :: log) b' := by
  refine ⟨.cons size h.reads, ?_⟩
  have hpos : 0 < (b.read size).1.length := List.length_pos_iff.mpr hr
  have hlength := h.length
  rw [handedOut_cons, List.length_append, List.length_cons]
  dsimp only
  omega

/-- **The loop over `_read_body`**, whatever its body does. -/
theorem forChunks_reads (visit : σ → Bytes → σ × Option ρ) :
    ∀ (left : Nat) (s : σ) (b : RequestBody), b.stream.data.length = left →
      ∃ log, Ends b log (forChunks visit s b).2 := by
  intro left
  induction left using Nat.strongRecOn with
  | ind left ih =>
      intro s b hleft
      rw [forChunks]
      by_cases hr : (b.read bodyChunkSize).1 = []
      · rw [dif_pos hr]
        exact ⟨_, .single b bodyChunkSize⟩
      · rw [dif_neg hr]
        have hpos : 0 < (b.read bodyChunkSize).1.length := List.length_pos_iff.mpr hr
        have hlength := b.read_length bodyChunkSize
        split
        · exact ⟨_, .single b bodyChunkSize⟩
        · next s' hvisit =>
            obtain ⟨log, hlog⟩ := ih _ (by omega) s' (b.read bodyChunkSize).2 rfl
            exact ⟨_, .cons hr hlog⟩

/-- So is the request stream from one message to the next. -/
theorem resumeRequestStream_reads {p : Platform} {α : Type} (cfg : ReaderConfig α)
    (reader : Reader p) (b : RequestBody) :
    ∃ log, Ends b log (resumeRequestStream cfg reader b).2 :=
  forChunks_reads (feedReader cfg) _ reader b rfl

/-- Draining reads to the end, or not at all. -/
theorem drainRequestBody_reads (serverProtocol : String) (b : RequestBody) :
    ∃ log, Ends b log (drainRequestBody serverProtocol b) := by
  rw [drainRequestBody]
  split
  · exact forChunks_reads _ _ () b rfl
  · exact ⟨[], .nil b⟩

/-- The loop that collects a message of unknown length is one of them. -/
theorem readLimited_forChunks (readMaxBytes : Option Int) :
    ∀ (left : Nat) (b : RequestBody) (chunks : List Bytes) (readBytes : Nat),
      b.stream.data.length = left →
      readLimited readMaxBytes b chunks readBytes
        = match (forChunks (collect readMaxBytes) (chunks, readBytes) b).1 with
          | (_, some e) => .error e
          | (s, none) => .ok s.1 := by
  intro left
  induction left using Nat.strongRecOn with
  | ind left ih =>
      intro b chunks readBytes hleft
      rw [readLimited, forChunks]
      by_cases hr : (b.read bodyChunkSize).1 = []
      · rw [dif_pos hr, dif_pos hr]
      · rw [dif_neg hr, dif_neg hr]
        have hpos : 0 < (b.read bodyChunkSize).1.length := List.length_pos_iff.mpr hr
        have hlength := b.read_length bodyChunkSize
        dsimp only
        rw [collect]
        dsimp only
        cases tooLarge (readBytes + (b.read bodyChunkSize).1.length) readMaxBytes with
        | some e => rfl
        | none => exact ih _ (by omega) (b.read bodyChunkSize).2 _ _ rfl

/-- **The loop for a content length**, which adds what is handed out to its
    chunks. -/
theorem readUpTo_reads (contentLength : Nat) :
    ∀ (left : Nat) (b : RequestBody) (chunks : List Bytes) (bytesRead : Nat),
      left = contentLength - bytesRead →
      ∃ log, Ends b log (readUpTo contentLength b chunks bytesRead).2.2
        ∧ (readUpTo contentLength b chunks bytesRead).1.flatten
          = chunks.flatten ++ handedOut log
        ∧ (readUpTo contentLength b chunks bytesRead).2.1
          = bytesRead + (handedOut log).length := by
  intro left
  induction left using Nat.strongRecOn with
  | ind left ih =>
      intro b chunks bytesRead hleft
      rw [readUpTo]
      by_cases hlt : bytesRead < contentLength
      · rw [dif_pos hlt]
        by_cases hr : (b.read ((contentLength - bytesRead : Nat) : Int)).1 = []
        · rw [dif_pos hr]
          refine ⟨_, .single b ((contentLength - bytesRead : Nat) : Int), ?_, ?_⟩
          · rw [handedOut_cons, hr, handedOut_nil, List.append_nil, List.append_nil]
          · rw [handedOut_cons, hr, handedOut_nil]
            rfl
        · rw [dif_neg hr]
          have hpos : 0 < (b.read ((contentLength - bytesRead : Nat) : Int)).1.length :=
            List.length_pos_iff.mpr hr
          obtain ⟨log, hlog, hflat, hcount⟩ := ih (contentLength - (bytesRead
              + (b.read ((contentLength - bytesRead : Nat) : Int)).1.length)) (by omega)
            (b.read ((contentLength - bytesRead : Nat) : Int)).2
            (chunks ++ [(b.read ((contentLength - bytesRead : Nat) : Int)).1]) _ rfl
          refine ⟨_, .cons hr hlog, ?_, ?_⟩
          · rw [hflat, List.flatten_append, List.flatten_singleton, List.append_assoc]
            rfl
          · rw [hcount, handedOut_cons, List.length_append, Nat.add_assoc]
      · rw [dif_neg hlt]
        refine ⟨[], .nil b, ?_, rfl⟩
        rw [handedOut_nil, List.append_nil]

/-! ## Bodies that are read to their end -/

/-- All of the body has been read. -/
def Emptied (b : RequestBody) : Prop := b.stream.data = []

/-- What is handed out is what the stream has no more. -/
theorem Reads.data {b b' : RequestBody} {log : List Read} (h : Reads b log b') :
    handedOut log ++ b'.stream.data = b.stream.data := by
  induction h with
  | nil b => rfl
  | @cons b b' log size h ih =>
      rw [handedOut_cons, List.append_assoc, ih]
      exact b.read_append size

theorem Reads.emptied {b b' : RequestBody} {log : List Read} (h : Reads b log b')
    (hb : Emptied b) : Emptied b' :=
  (List.append_eq_nil_iff.mp (h.data.trans hb)).2

/-- A read of any size leaves an honest body honest. -/
theorem read_keeps_honest {b : RequestBody} (hb : b.Honest) (size : Int) :
    (b.read size).2.Honest := by
  have hlength := b.read_length size
  obtain ⟨stream, remaining⟩ := b
  rw [read_eq_asks] at hlength ⊢
  cases hn : asks ⟨stream, remaining⟩ size with
  | none => exact hb
  | some n =>
      rw [hn] at hlength
      rintro r hr
      obtain ⟨remaining', rfl, rfl⟩ := Option.map_eq_some_iff.mp hr
      have hremaining := hb remaining' rfl
      dsimp only at hlength hremaining ⊢
      omega

theorem Reads.honest {b b' : RequestBody} {log : List Read} (h : Reads b log b')
    (hb : b.Honest) : b'.Honest := by
  induction h with
  | nil b => exact hb
  | cons size h ih => exact ih (read_keeps_honest hb size)

/-- A loop over `_read_body` that is not left reads the body to its end. -/
theorem forChunks_emptied (visit : σ → Bytes → σ × Option ρ) :
    ∀ (left : Nat) (s : σ) (b : RequestBody), b.Honest → b.stream.data.length = left →
      (forChunks visit s b).1.2 = none → Emptied (forChunks visit s b).2 := by
  intro left
  induction left using Nat.strongRecOn with
  | ind left ih =>
      intro s b hb hleft hnone
      obtain ⟨hb', -, hnil⟩ := RequestBody.read_honest hb bodyChunkSize (by decide)
      have happend := b.read_append bodyChunkSize
      rw [forChunks] at hnone ⊢
      by_cases hr : (b.read bodyChunkSize).1 = []
      · rw [dif_pos hr]
        rw [hr, hnil hr] at happend
        exact happend
      · rw [dif_neg hr] at hnone ⊢
        have hpos : 0 < (b.read bodyChunkSize).1.length := List.length_pos_iff.mpr hr
        have hlength := b.read_length bodyChunkSize
        cases hvisit : visit s (b.read bodyChunkSize).1 with
        | mk s' result =>
            rw [hvisit] at hnone
            cases result with
            | some result => exact nomatch hnone
            | none => exact ih _ (by omega) s' _ hb' rfl hnone

/-- A loop over chunks that are there already. -/
def visitAll (visit : σ → Bytes → σ × Option ρ) : σ → List Bytes → σ × Option ρ
  | s, [] => (s, none)
  | s, chunk :: chunks =>
      match visit s chunk with
      | (s, some result) => (s, some result)
      | (s, none) => visitAll visit s chunks

/-- **What is visited** does not depend on who visits it: an honest body is cut into
    chunks. -/
theorem forChunks_visitAll :
    ∀ (left : Nat) (b : RequestBody), b.Honest → b.stream.data.length = left →
      ∃ chunks : List Bytes, chunks.flatten = b.stream.data
        ∧ ∀ {σ ρ : Type} (visit : σ → Bytes → σ × Option ρ) (s : σ),
          (forChunks visit s b).1 = visitAll visit s chunks := by
  intro left
  induction left using Nat.strongRecOn with
  | ind left ih =>
      intro b hb hleft
      obtain ⟨hb', -, hnil⟩ := RequestBody.read_honest hb bodyChunkSize (by decide)
      have happend := b.read_append bodyChunkSize
      have hlength := b.read_length bodyChunkSize
      by_cases hr : (b.read bodyChunkSize).1 = []
      · refine ⟨[], (hnil hr).symm, fun visit s => ?_⟩
        rw [forChunks, dif_pos hr, visitAll]
      · have hpos : 0 < (b.read bodyChunkSize).1.length := List.length_pos_iff.mpr hr
        obtain ⟨chunks, hflatten, hall⟩ := ih _ (by omega) (b.read bodyChunkSize).2 hb' rfl
        refine ⟨(b.read bodyChunkSize).1 :: chunks, by rw [List.flatten_cons, hflatten, happend],
          fun visit s => ?_⟩
        rw [forChunks, dif_neg hr, visitAll]
        cases visit s (b.read bodyChunkSize).1 with
        | mk s' result =>
            cases result with
            | some result => rfl
            | none => exact hall visit s'

theorem visitAll_runs {visit : σ → Bytes → σ × Option ρ}
    (hvisit : ∀ s chunk, (visit s chunk).2 = none) (s : σ) (chunks : List Bytes) :
    (visitAll visit s chunks).2 = none := by
  induction chunks generalizing s with
  | nil => rfl
  | cons chunk chunks ih =>
      have hnone := hvisit s chunk
      rw [visitAll]
      cases hv : visit s chunk with
      | mk s' result =>
          rw [hv] at hnone
          obtain rfl : result = none := hnone
          exact ih s'

/-- **Draining** an honest body reads it to its end, on HTTP/1. -/
theorem drainRequestBody_emptied {serverProtocol : String}
    (hhttp : serverProtocol.startsWith "HTTP/1" = true) {b : RequestBody} (hb : b.Honest) :
    Emptied (drainRequestBody serverProtocol b) := by
  obtain ⟨chunks, -, hvisit⟩ := forChunks_visitAll _ b hb rfl
  rw [drainRequestBody, if_pos hhttp]
  refine forChunks_emptied _ _ () b hb rfl ?_
  rw [hvisit]
  exact visitAll_runs (fun _ _ => rfl) () chunks

/-! ## A fresh body -/

/-- A body that hands out nothing where something was promised is at the end of its
    stream. -/
theorem Within.read_eq_nil {data handed : Bytes} {limit : Nat} {b : RequestBody}
    (h : Within data limit handed b) {size : Int} (hsize : 0 < size)
    (hlt : handed.length < limit) (hr : (b.read size).1 = []) : b.stream.data = [] := by
  rw [RequestBody.read, h.remaining] at hr
  dsimp only at hr
  rw [if_neg (by omega), if_neg (by omega)] at hr
  exact Input.read_eq_nil (by omega) hr

/-- The loop gets to the content length, or to the end of the stream. -/
theorem readUpTo_within {data : Bytes} {limit : Nat} :
    ∀ (left : Nat) (handed : Bytes) (b : RequestBody) (chunks : List Bytes),
      Within data limit handed b → left = limit - handed.length →
      (readUpTo limit b chunks handed.length).2.1 = min limit data.length := by
  intro left
  induction left using Nat.strongRecOn with
  | ind left ih =>
      intro handed b chunks h hleft
      have hdata : handed.length + b.stream.data.length = data.length := by
        rw [← List.length_append, h.append]
      rw [readUpTo]
      by_cases hlt : handed.length < limit
      · rw [dif_pos hlt]
        have hsize : (0 : Int) < ((limit - handed.length : Nat) : Int) := by omega
        by_cases hr : (b.read ((limit - handed.length : Nat) : Int)).1 = []
        · rw [dif_pos hr]
          rw [h.read_eq_nil hsize hlt hr, List.length_nil] at hdata
          dsimp only
          omega
        · rw [dif_neg hr]
          have hpos : 0 < (b.read ((limit - handed.length : Nat) : Int)).1.length :=
            List.length_pos_iff.mpr hr
          rw [← List.length_append]
          exact ih _ (by rw [List.length_append]; omega) _ _ _ (h.read _) rfl
      · rw [dif_neg hlt]
        have hle := h.le
        dsimp only
        omega

/-- **`_read_body_with_content_length` of a fresh body**: exactly the promised
    bytes, or the truncated request is refused. -/
theorem readBodyWithContentLength_within {data : Bytes} {limit : Nat} {b : RequestBody}
    (h : Within data limit [] b) :
    readBodyWithContentLength b limit
      = if limit ≤ data.length then .ok (data.take limit)
        else .error (.connect .invalidArgument
          s!"request truncated, expected {limit} bytes but only received {data.length} bytes") := by
  have hfirst := h.read (limit : Int)
  rw [List.nil_append] at hfirst
  have hprefix := hfirst.append
  have hlength : (b.read (limit : Int)).1.length + (b.read (limit : Int)).2.stream.data.length
      = data.length := by
    rw [← List.length_append, hprefix]
  rw [readBodyWithContentLength]
  dsimp only
  by_cases hfull : (b.read (limit : Int)).1.length = limit
  · -- The optimistic read got everything.
    rw [if_pos hfull, if_pos (by omega), ← hprefix, List.take_left' hfull]
  · rw [if_neg hfull]
    obtain ⟨log, hlog, hflat, hcount⟩ := readUpTo_reads limit _ (b.read (limit : Int)).2
      [(b.read (limit : Int)).1] (b.read (limit : Int)).1.length rfl
    have htotal := readUpTo_within _ _ _ [(b.read (limit : Int)).1] hfirst rfl
    by_cases hle : limit ≤ data.length
    · -- Short reads came to the content length.
      rw [if_pos hle, if_neg (by omega), hflat, List.flatten_singleton]
      have hrest := (hfirst.reads hlog.reads).append
      have hsize : ((b.read (limit : Int)).1 ++ handedOut log).length = limit := by
        rw [List.length_append]
        omega
      rw [← hrest, List.take_left' hsize]
    · rw [if_neg hle, htotal, if_pos (by omega), Nat.min_eq_right (by omega)]

/-- **The WSGI server reads its request body and nothing else.**  For every
    `wsgi.input`, however short its reads, and every content length that is a
    number: after any sequence of reads through `_RequestBody`, what the next read
    asks for and what was handed out stay within the content length, and what was
    handed out is, in order and without gaps, the beginning of the stream; the
    loops, from whatever state they are entered in, are such sequences and end;
    and reading a fresh body by its length is exact. -/
theorem request_body_exact (environ : Environ) (text : String) (limit : Nat)
    (hlength : environ.contentLength = some text) (hint : int text = .ok (limit : Int)) :
    (∀ (log : List Read) (b : RequestBody), Reads (.fromEnviron environ) log b →
      (∀ size n, asks b size = some n →
          0 ≤ n ∧ ((handedOut log).length : Int) + n ≤ (limit : Int))
        ∧ handedOut log ++ b.stream.data = environ.wsgiInput.data
        ∧ (handedOut log).length ≤ limit
        ∧ (∀ (contentLength : Nat) (chunks : List Bytes) (bytesRead : Nat),
            ∃ more, Ends b more (readUpTo contentLength b chunks bytesRead).2.2)
        ∧ (∀ (σ ρ : Type) (visit : σ → Bytes → σ × Option ρ) (s : σ),
            ∃ more, Ends b more (forChunks visit s b).2)
        ∧ (∀ (p : Platform) (α : Type) (cfg : ReaderConfig α) (reader : Reader p),
            ∃ more, Ends b more (resumeRequestStream cfg reader b).2)
        ∧ ∀ serverProtocol, ∃ more, Ends b more (drainRequestBody serverProtocol b))
    ∧ readBodyWithContentLength (.fromEnviron environ) limit
        = if limit ≤ environ.wsgiInput.data.length then .ok (environ.wsgiInput.data.take limit)
          else .error (.connect .invalidArgument
            s!"request truncated, expected {limit} bytes but only received {environ.wsgiInput.data.length} bytes") := by
  have hfresh := within_fromEnviron hlength hint
  refine ⟨?_, readBodyWithContentLength_within hfresh⟩
  intro log b hreads
  have h := hfresh.reads hreads
  rw [List.nil_append] at h
  refine ⟨fun size n hn => h.asks_le hn, h.append, h.le, ?_, ?_,
    fun p α cfg reader => resumeRequestStream_reads cfg reader b,
    fun serverProtocol => drainRequestBody_reads serverProtocol b⟩
  · intro contentLength chunks bytesRead
    obtain ⟨more, hmore, -, -⟩ := readUpTo_reads contentLength _ b chunks bytesRead rfl
    exact ⟨more, hmore⟩
  · intro σ ρ visit s
    exact forChunks_reads visit _ s b rfl

/-- A stream of five bytes, a content length of three, and reads of one byte. -/
theorem request_body_exact_three :
    readBodyWithContentLength
        (.fromEnviron ⟨some "3", none, [1, 2, 3, 4, 5], fun _ => 0⟩) 3 = .ok [1, 2, 3] :=
  (request_body_exact ⟨some "3", none, [1, 2, 3, 4, 5], fun _ => 0⟩ "3" 3 rfl (by decide)).2

end ConnectRequestBody
