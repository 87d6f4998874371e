import ConnectPy.HeadersProofs
import ConnectPy.IntTextProofs
import ConnectPy.WireErrorProofs

/-! # Unary Connect requests — two servers, one result

    The ASGI server takes the body of a POST request from `http.request` events,
    the WSGI server from `wsgi.input`, bounded by the content length when there
    is one.  Both then decompress and decode, and both read GET requests from the
    parsed query.

    However the events split the body and however short the reads are, both come
    to the body (`readChunks_spec`, `readPostBody_spec`), so they come to the same
    message or to errors of the same code (`unary_requests_agree`).  The one
    exception is a negative limit, which the ASGI server applies to an empty body
    as well (`negative_limit_disagrees`). -/

namespace ConnectUnaryRequest

open Utf8 (Bytes)
open OrderedDict ConnectErrors ConnectPlatform ConnectHeaders ConnectWireErrors

variable {p : Platform} {α : Type}

/-! ## What both servers share -/

/-- `resolve_compressions`: the compressions by name. -/
abbrev Compressions := Dict String Compression

/-- `unknown_compression_error`. -/
def unknownCompressionError (name : String) (compressions : Compressions) : Exc :=
  let supported := compressions.keys.filter fun n => n ≠ "identity"
  let detail :=
    if supported.isEmpty then "compression is not supported"
    else "supported encodings are " ++ String.intercalate ", " supported
  .connect .unimplemented s!"unknown compression: '{name}': {detail}"

/-- `value or "identity"`. -/
def orIdentity : Option String → String
  | none => "identity"
  | some s => if s = "" then "identity" else s

/-- The settings of a server that a unary request depends on. -/
structure Server (α : Type) where
  codec        : Codec α
  compressions : Compressions
  readMaxBytes : Option Int

/-- The end of all four functions: find the compression, decompress what is not
    empty, decode. -/
def Server.decodeBody (server : Server α) (compressionName : String) (body : Bytes) :
    Except Exc α :=
  match server.compressions.get? compressionName with
  | none => .error (unknownCompressionError compressionName server.compressions)
  | some compression =>
      match (if body = [] then .ok body else decompress compression body server.readMaxBytes) with
      | .error e => .error e
      | .ok body => decodeMessage server.codec body

/-- `self._read_max_bytes is not None and n > self._read_max_bytes`, with the
    error that is raised then. -/
def tooLarge (n : Nat) : Option Int → Option Exc
  | none => none
  | some limit => if limit < (n : Int) then some (messageTooLargeError limit) else none

/-! ## POST requests of the ASGI server -/

/-- What `receive()` returns. -/
inductive Event where
  | request (body : Option Bytes) (moreBody : Option Bool)
  | disconnect
  | other

/-- The loop of `_read_post_request` over `_read_body`; none when `receive()` is
    awaited forever. -/
def readChunks (readMaxBytes : Option Int) :
    List Event → List Bytes → Nat → Option (Except Exc (List Bytes))
  | [], _, _ => none
  | .request body moreBody :: events, chunks, readBytes =>
      let chunk := body.getD []
      let readBytes := readBytes + chunk.length
      match tooLarge readBytes readMaxBytes with
      | some e => some (.error e)
      | none =>
          let chunks := chunks ++ [chunk]
          if moreBody.getD false then readChunks readMaxBytes events chunks readBytes
          else some (.ok chunks)
  | .disconnect :: _, _, _ =>
      some (.error (.connect .canceled "Client disconnected before request completion"))
  | .other :: _, _, _ => some (.error (.connect .unknown "Unexpected message type"))

/-- `_read_post_request`. -/
def readPostRequest (server : Server α) (events : List Event) (headers : Headers p) :
    Option (Except Exc α) :=
  (readChunks server.readMaxBytes events [] 0).map fun
    | .error e => .error e
    | .ok chunks =>
        server.decodeBody (orIdentity (headers.get? "content-encoding")) chunks.flatten

/-! ## POST requests of the WSGI server -/

/-- `wsgi.input`: the bytes to come, and how many bytes beyond the first one each
    read returns at most. -/
structure Input where
  data   : Bytes
  shorts : Nat → Nat

/-- `read(size)`: something, until there is nothing more. -/
def Input.read (i : Input) (size : Int) : Bytes × Input :=
  let available := if size < 0 then i.data.length else min size.toNat i.data.length
  let n := min available (i.shorts 0 + 1)
  (i.data.take n, ⟨i.data.drop n, fun k => i.shorts (k + 1)⟩)

/-- `_RequestBody`. -/
structure RequestBody where
  stream    : Input
  remaining : Option Int

/-- `_RequestBody.read`. -/
def RequestBody.read (b : RequestBody) (size : Int) : Bytes × RequestBody :=
  match b.remaining with
  | none =>
      let r := b.stream.read size
      (r.1, { b with stream := r.2 })
  | some remaining =>
      if remaining ≤ 0 then ([], b)
      else
        let size := if size < 0 then remaining else size
        let r := b.stream.read (min size remaining)
        (r.1, ⟨r.2, some (remaining - r.1.length)⟩)

/-- `int(text)` of a header value, or the text of its `ValueError`. -/
def int (text : String) : Except String Int := IntText.int .latin1 text.toList

/-- What the functions use of the WSGI environment. -/
structure Environ where
  contentLength       : Option String
  httpContentEncoding : Option String
  wsgiInput           : Input

/-- `_RequestBody.from_environ`. -/
def RequestBody.fromEnviron (environ : Environ) : RequestBody :=
  match environ.contentLength with
  | none => ⟨environ.wsgiInput, none⟩
  | some s => if s = "" then ⟨environ.wsgiInput, none⟩ else ⟨environ.wsgiInput, (int s).toOption⟩

theorem Input.read_append (i : Input) (size : Int) :
    (i.read size).1 ++ (i.read size).2.data = i.data := List.take_append_drop _ _

/-- A read passes on a part of the data, and nothing is lost. -/
theorem RequestBody.read_append (b : RequestBody) (size : Int) :
    (b.read size).1 ++ (b.read size).2.stream.data = b.stream.data := by
  rw [RequestBody.read]
  split
  · exact b.stream.read_append size
  · split
    · rfl
    · exact b.stream.read_append _

theorem RequestBody.read_length (b : RequestBody) (size : Int) :
    (b.read size).1.length + (b.read size).2.stream.data.length = b.stream.data.length := by
  rw [← List.length_append, b.read_append size]

/-- The second loop of `_read_body_with_content_length`: read until there is
    enough, or nothing more. -/
def readUpTo (contentLength : Nat) (b : RequestBody) (chunks : List Bytes) (bytesRead : Nat) :
    List Bytes × Nat × RequestBody :=
  if _hlt : bytesRead < contentLength then
    let r := b.read ((contentLength - bytesRead : Nat) : Int)
    if _hr : r.1 = [] then (chunks, bytesRead, r.2)
    else readUpTo contentLength r.2 (chunks ++ [r.1]) (bytesRead + r.1.length)
  else (chunks, bytesRead, b)
termination_by contentLength - bytesRead
decreasing_by
  have hpos : 0 < (b.read ((contentLength - bytesRead : Nat) : Int)).1.length :=
    List.length_pos_iff.mpr _hr
  exact Nat.sub_lt_sub_left _hlt (Nat.lt_add_of_pos_right hpos)

/-- `_read_body_with_content_length`. -/
def readBodyWithContentLength (b : RequestBody) (contentLength : Nat) : Except Exc Bytes :=
  let r := b.read (contentLength : Int)
  if r.1.length = contentLength then .ok r.1
  else
    let loop := readUpTo contentLength r.2 [r.1] r.1.length
    if loop.2.1 < contentLength then
      .error (.connect .invalidArgument
        s!"request truncated, expected {contentLength} bytes but only received {loop.2.1} bytes")
    else .ok loop.1.flatten

/-- `_BODY_CHUNK_SIZE`. -/
def bodyChunkSize : Int := 4096

/-- The loop of `_handle_post_request` over `_read_body`. -/
def readLimited (readMaxBytes : Option Int) (b : RequestBody) (chunks : List Bytes)
    (readBytes : Nat) : Except Exc (List Bytes) :=
  let r := b.read bodyChunkSize
  if _hr : r.1 = [] then .ok chunks
  else
    let readBytes := readBytes + r.1.length
    match tooLarge readBytes readMaxBytes with
    | some e => .error e
    | none => readLimited readMaxBytes r.2 (chunks ++ [r.1]) readBytes
termination_by b.stream.data.length
decreasing_by
  have hpos : 0 < (b.read bodyChunkSize).1.length := List.length_pos_iff.mpr _hr
  have hlen := b.read_length bodyChunkSize
  show (b.read bodyChunkSize).2.stream.data.length < b.stream.data.length
  omega

/-- The body of a POST request, up to where its compression is looked up. -/
def readPostBody (readMaxBytes : Option Int) (environ : Environ) : Except Exc Bytes :=
  let requestBody := RequestBody.fromEnviron environ
  let contentLength : Except String Int :=
    match environ.contentLength with
    | none => .ok 0
    | some s => if s = "" then .ok 0 else int s
  match contentLength with
  | .error text => .error (.exception .valueError text)
  | .ok contentLength =>
      if 0 < contentLength then
        match tooLarge contentLength.toNat readMaxBytes with
        | some e => .error e
        | none => readBodyWithContentLength requestBody contentLength.toNat
      else
        match readLimited readMaxBytes requestBody [] 0 with
        | .error e => .error e
        | .ok chunks => .ok chunks.flatten

/-- The `except` clause of both WSGI functions: what is no `ConnectError` is
    reported as an internal error. -/
def orInternal : Except Exc α → Except Exc α
  | .ok m => .ok m
  | .error e =>
      if e.isException && !e.isConnectError then .error (.connect .internal e.text) else .error e

/-- `_handle_post_request`. -/
def handlePostRequest (server : Server α) (environ : Environ) : Except Exc α :=
  orInternal
    (match readPostBody server.readMaxBytes environ with
    | .error e => .error e
    | .ok body => server.decodeBody (orIdentity environ.httpContentEncoding) body)

/-! ## GET requests -/

/-- `base64.urlsafe_b64decode(text + "===")`. -/
def urlsafeDecodePadded (text : String) : Except Exc Bytes :=
  decodePadded (String.ofList (text.toList.map fun c =>
    if c = '-' then '+' else if c = '_' then '/' else c))

/-- The message parameter, as bytes. -/
def messageParameter (params : Multimap String String) (message : String) : Except Exc Bytes :=
  if Multimap.first? params "base64" = some "1" then
    match urlsafeDecodePadded message with
    | .ok b => .ok b
    | .error e =>
        if e.isException then
          .error (.connect .invalidArgument s!"Invalid base64 encoding: {e.text}")
        else .error e
  else .ok (Utf8.encode message)

/-- `_read_get_request`, on the parsed query: every key has a nonempty list. -/
def readGetRequest (server : Server α) (params : Multimap String String) : Except Exc α :=
  match Multimap.first? params "message" with
  | none => .error (.connect .invalidArgument "'message' parameter is required for GET requests")
  | some message =>
      match messageParameter params message with
      | .error e => .error e
      | .ok message =>
          server.decodeBody (orIdentity (Multimap.first? params "compression")) message

/-- `_handle_get_request`: the same body within the `except` clause. -/
def handleGetRequest (server : Server α) (params : Multimap String String) : Except Exc α :=
  orInternal (readGetRequest server params)

/-! ## Reading a body -/

theorem tooLarge_mono {n m : Nat} (h : n ≤ m) {limit : Option Int} {e : Exc}
    (he : tooLarge n limit = some e) : tooLarge m limit = some e := by
  cases limit with
  | none => exact nomatch he
  | some limit =>
      rw [tooLarge] at he ⊢
      by_cases hn : limit < (n : Int)
      · rw [if_pos hn] at he
        rw [if_pos (by omega)]
        exact he
      · rw [if_neg hn] at he
        exact nomatch he

theorem tooLarge_connectError {n : Nat} {limit : Option Int} {e : Exc}
    (he : tooLarge n limit = some e) : e.isConnectError = true := by
  cases limit with
  | none => exact nomatch he
  | some limit =>
      rw [tooLarge] at he
      split at he
      · exact Option.some.inj he ▸ rfl
      · exact nomatch he

/-- A body as a sequence of `http.request` events, whatever comes after them. -/
inductive Splits : List Event → Bytes → Prop where
  | last {body : Option Bytes} {more : Option Bool} (h : more.getD false = false)
      (rest : List Event) : Splits (.request body more :: rest) (body.getD [])
  | more {body : Option Bytes} {events : List Event} {bs : Bytes} (h : Splits events bs) :
      Splits (.request body (some true) :: events) (body.getD [] ++ bs)

/-- **The ASGI loop** comes to the body, or to the limit. -/
theorem readChunks_spec {events : List Event} {body : Bytes} (h : Splits events body)
    (readMaxBytes : Option Int) (chunks : List Bytes) (readBytes : Nat) :
    (∃ e, tooLarge (readBytes + body.length) readMaxBytes = some e
        ∧ readChunks readMaxBytes events chunks readBytes = some (.error e))
      ∨ tooLarge (readBytes + body.length) readMaxBytes = none
        ∧ ∃ more : List Bytes, more.flatten = body
          ∧ readChunks readMaxBytes events chunks readBytes = some (.ok (chunks ++ more)) := by
  induction h generalizing chunks readBytes with
  | @last body more hmore rest =>
      rw [readChunks]
      cases ht : tooLarge (readBytes + (body.getD []).length) readMaxBytes with
      | some e => exact Or.inl ⟨e, rfl, rfl⟩
      | none =>
          refine Or.inr ⟨rfl, [body.getD []], by simp, ?_⟩
          dsimp only
          rw [hmore, if_neg Bool.false_ne_true]
  | @more body events bs h ih =>
      rw [readChunks, List.length_append, ← Nat.add_assoc]
      cases ht : tooLarge (readBytes + (body.getD []).length) readMaxBytes with
      | some e => exact Or.inl ⟨e, tooLarge_mono (Nat.le_add_right _ _) ht, rfl⟩
      | none =>
          dsimp only
          rw [Option.getD_some, if_pos rfl]
          rcases ih (chunks ++ [body.getD []]) (readBytes + (body.getD []).length) with
            hlarge | ⟨hsmall, more, hmore, hread⟩
          · exact Or.inl hlarge
          · refine Or.inr ⟨hsmall, body.getD [] :: more, by rw [List.flatten_cons, hmore], ?_⟩
            rw [hread, List.append_assoc]
            rfl

/-- The request body knows how much is to come, or reads to the end. -/
def RequestBody.Honest (b : RequestBody) : Prop :=
  ∀ remaining, b.remaining = some remaining → remaining = (b.stream.data.length : Int)

theorem Input.read_eq_nil {i : Input} {size : Int} (hsize : 0 < size)
    (h : (i.read size).1 = []) : i.data = [] := by
  rw [Input.read] at h
  dsimp only at h
  rw [if_neg (by omega), List.take_eq_nil_iff] at h
  rcases h with h | h
  · refine List.eq_nil_of_length_eq_zero ?_
    omega
  · exact h

theorem Input.read_length_le {i : Input} {size : Int} (hsize : 0 ≤ size) :
    ((i.read size).1.length : Int) ≤ size := by
  rw [Input.read]
  dsimp only
  rw [if_neg (by omega), List.length_take]
  omega

/-- A read of an honest body stops short of nothing, and stays honest. -/
theorem RequestBody.read_honest {b : RequestBody} (hb : b.Honest) (size : Int) (hsize : 0 < size) :
    (b.read size).2.Honest ∧ ((b.read size).1.length : Int) ≤ size
      ∧ ((b.read size).1 = [] → b.stream.data = []) := by
  obtain ⟨stream, remaining⟩ := b
  cases remaining with
  | none => exact ⟨nofun, Input.read_length_le (Int.le_of_lt hsize), Input.read_eq_nil hsize⟩
  | some remaining =>
      have hrem : remaining = (stream.data.length : Int) := hb remaining rfl
      rw [RequestBody.read]
      dsimp only
      by_cases hzero : remaining ≤ 0
      · rw [if_pos hzero]
        refine ⟨hb, Int.le_of_lt hsize, fun _ => List.eq_nil_of_length_eq_zero ?_⟩
        show stream.data.length = 0
        omega
      · rw [if_neg hzero, if_neg (by omega)]
        have hmin : 0 < min size remaining := by omega
        refine ⟨?_, ?_, Input.read_eq_nil hmin⟩
        · rintro r hr
          obtain rfl := Option.some.inj hr
          have hlen := congrArg List.length (stream.read_append (min size remaining))
          rw [List.length_append] at hlen
          dsimp only
          omega
        · exact Int.le_trans (Input.read_length_le (Int.le_of_lt hmin)) (Int.min_le_left _ _)

/-- **The loop for a content length** comes to all of a truthful body. -/
theorem readUpTo_spec (contentLength : Nat) :
    ∀ (left : Nat) (b : RequestBody) (chunks : List Bytes) (bytesRead : Nat), b.Honest →
      left = contentLength - bytesRead → bytesRead + b.stream.data.length = contentLength →
      (readUpTo contentLength b chunks bytesRead).1.flatten
          = chunks.flatten ++ b.stream.data
        ∧ (readUpTo contentLength b chunks bytesRead).2.1 = contentLength := by
  intro left
  induction left using Nat.strongRecOn with
  | ind left ih =>
      intro b chunks bytesRead hb hleft hlen
      rw [readUpTo]
      by_cases hlt : bytesRead < contentLength
      · rw [dif_pos hlt]
        obtain ⟨hb', -, hnil⟩ := RequestBody.read_honest hb
          ((contentLength - bytesRead : Nat) : Int) (by omega)
        by_cases hr : (b.read ((contentLength - bytesRead : Nat) : Int)).1 = []
        · -- Nothing read means that nothing was left.
          have hdata := hnil hr
          rw [hdata] at hlen
          exact absurd hlen (by simp only [List.length_nil]; omega)
        · -- A short read comes closer to the content length.
          have hpos : 0 < (b.read ((contentLength - bytesRead : Nat) : Int)).1.length :=
            List.length_pos_iff.mpr hr
          have happend := b.read_append ((contentLength - bytesRead : Nat) : Int)
          have hlength := b.read_length ((contentLength - bytesRead : Nat) : Int)
          rw [dif_neg hr]
          obtain ⟨hflat, hread⟩ := ih (contentLength - (bytesRead
              + (b.read ((contentLength - bytesRead : Nat) : Int)).1.length)) (by omega) _
            (chunks ++ [(b.read ((contentLength - bytesRead : Nat) : Int)).1]) _ hb' rfl (by omega)
          refine ⟨?_, hread⟩
          rw [hflat, List.flatten_append, List.flatten_singleton, List.append_assoc, happend]
      · rw [dif_neg hlt]
        -- All that was promised has been read.
        have hdata : b.stream.data = [] := List.eq_nil_of_length_eq_zero (by omega)
        refine ⟨by rw [hdata, List.append_nil], ?_⟩
        show bytesRead = contentLength
        rw [hdata, List.length_nil] at hlen
        omega

theorem readBodyWithContentLength_spec {b : RequestBody} (hb : b.Honest)
    (hpos : 0 < b.stream.data.length) :
    readBodyWithContentLength b b.stream.data.length = .ok b.stream.data := by
  have happend := b.read_append (b.stream.data.length : Int)
  have hlength := b.read_length (b.stream.data.length : Int)
  obtain ⟨hb', -, -⟩ := RequestBody.read_honest hb (b.stream.data.length : Int) (by omega)
  rw [readBodyWithContentLength]
  dsimp only
  by_cases hfull : (b.read (b.stream.data.length : Int)).1.length = b.stream.data.length
  · -- The optimistic read got everything.
    rw [if_pos hfull]
    have hrest : (b.read (b.stream.data.length : Int)).2.stream.data = [] :=
      List.eq_nil_of_length_eq_zero (by omega)
    rw [hrest, List.append_nil] at happend
    rw [happend]
  · rw [if_neg hfull]
    obtain ⟨hflat, hread⟩ := readUpTo_spec b.stream.data.length _ _
      [(b.read (b.stream.data.length : Int)).1] _ hb' rfl hlength
    rw [if_neg (by omega), hflat, List.flatten_singleton, happend]

/-- **The loop without a content length** comes to the body, or to the limit. -/
theorem readLimited_spec (readMaxBytes : Option Int) :
    ∀ (left : Nat) (b : RequestBody) (chunks : List Bytes) (readBytes : Nat), b.Honest →
      b.stream.data.length = left → (b.stream.data = [] → tooLarge readBytes readMaxBytes = none) →
      (∃ e, tooLarge (readBytes + b.stream.data.length) readMaxBytes = some e
          ∧ readLimited readMaxBytes b chunks readBytes = .error e)
        ∨ tooLarge (readBytes + b.stream.data.length) readMaxBytes = none
          ∧ ∃ more : List Bytes, more.flatten = b.stream.data
            ∧ readLimited readMaxBytes b chunks readBytes = .ok (chunks ++ more) := by
  intro left
  induction left using Nat.strongRecOn with
  | ind left ih =>
      intro b chunks readBytes hb hleft hempty
      obtain ⟨hb', -, hnil⟩ := RequestBody.read_honest hb bodyChunkSize (by decide)
      have happend := b.read_append bodyChunkSize
      have hlength := b.read_length bodyChunkSize
      rw [readLimited]
      by_cases hr : (b.read bodyChunkSize).1 = []
      · have hdata := hnil hr
        rw [dif_pos hr, hdata]
        exact Or.inr ⟨hempty hdata, [], rfl, by rw [List.append_nil]⟩
      · have hpos : 0 < (b.read bodyChunkSize).1.length := List.length_pos_iff.mpr hr
        rw [dif_neg hr]
        dsimp only
        cases ht : tooLarge (readBytes + (b.read bodyChunkSize).1.length) readMaxBytes with
        -- The limit is passed for good: what follows only adds to the length.
        | some e => exact Or.inl ⟨e, tooLarge_mono (by omega) ht, rfl⟩
        | none =>
            have hsum : readBytes + b.stream.data.length
                = readBytes + (b.read bodyChunkSize).1.length
                  + (b.read bodyChunkSize).2.stream.data.length := by omega
            rw [hsum]
            rcases ih _ (by omega) (b.read bodyChunkSize).2
                (chunks ++ [(b.read bodyChunkSize).1]) _ hb' rfl (fun _ => ht) with
              hlarge | ⟨hsmall, more, hmore, hread⟩
            · exact Or.inl hlarge
            · refine Or.inr ⟨hsmall, (b.read bodyChunkSize).1 :: more, ?_, ?_⟩
              · rw [List.flatten_cons, hmore, happend]
              · rw [hread, List.append_assoc]
                rfl

/-! ## The two servers agree -/

/-- The same message, or errors of the same code. -/
inductive Agree : Except Exc α → Except Exc α → Prop where
  | message (m : α) : Agree (.ok m) (.ok m)
  | error {e e' : ConnectError} (h : e.code = e'.code) :
      Agree (.error (.connectError e)) (.error (.connectError e'))

/-- A codec and compressions that raise only exceptions. -/
structure Server.Tame (server : Server α) : Prop where
  codec : ∀ data e, server.codec.decode data = .error e → e.isException = true
  compressions : ∀ name c, server.compressions.get? name = some c →
    ∀ data limit e, c.decompress data limit = .error e → e.isException = true

/-- Only `ConnectError`s leave the end of all four functions. -/
theorem Server.Tame.decodeBody {server : Server α} (hs : server.Tame) {name : String}
    {body : Bytes} {e : Exc} (h : server.decodeBody name body = .error e) :
    e.isConnectError = true := by
  rw [Server.decodeBody] at h
  cases hc : server.compressions.get? name with
  | none =>
      rw [hc] at h
      injection h with h
      exact h ▸ rfl
  | some compression =>
      rw [hc] at h
      dsimp only at h
      cases hd : (if body = [] then .ok body
          else decompress compression body server.readMaxBytes : Except Exc Bytes) with
      | ok data =>
          rw [hd] at h
          exact decodeMessage_connectError hs.codec h
      | error e' =>
          rw [hd] at h
          injection h with h
          subst h
          by_cases hb : body = []
          · rw [if_pos hb] at hd
            exact nomatch hd
          · rw [if_neg hb] at hd
            exact decompress_connectError (hs.compressions name compression hc) hd

/-- What the base64 decoder raises is a `ValueError`. -/
theorem decodePadded_exception {text : String} {e : Exc} (h : decodePadded text = .error e) :
    e.isException = true := by
  rw [decodePadded] at h
  split at h
  · cases h
  · injection h with h
    exact h ▸ rfl
  · injection h with h
    exact h ▸ rfl
  · injection h with h
    exact h ▸ rfl

/-- Base64 that cannot be decoded is an invalid argument. -/
theorem messageParameter_connectError {params : Multimap String String} {message : String}
    {e : Exc} (h : messageParameter params message = .error e) : e.isConnectError = true := by
  rw [messageParameter] at h
  split at h
  · split at h
    · cases h
    · next e' he' =>
        split at h
        · rw [← Except.error.inj h]
          rfl
        · next hexc =>
            exact absurd (decodePadded_exception he') hexc
  · cases h

/-- Where only `ConnectError`s are raised the `except` clause does nothing. -/
theorem agree_orInternal {r : Except Exc α} (h : ∀ e, r = .error e → e.isConnectError = true) :
    Agree r (orInternal r) := by
  cases r with
  | ok m => exact .message m
  | error e =>
      have he := h e rfl
      cases e with
      | connectError e => exact .error rfl
      | httpError e => exact nomatch he
      | exception cls text => exact nomatch he
      | cancelled origin => exact nomatch he
      | baseException name => exact nomatch he

/-- A content length that is missing, empty or right. -/
def Truthful (contentLength : Option String) (body : Bytes) : Prop :=
  ∀ s, contentLength = some s → s = "" ∨ int s = .ok (body.length : Int)

theorem fromEnviron_stream (environ : Environ) :
    (RequestBody.fromEnviron environ).stream = environ.wsgiInput := by
  rw [RequestBody.fromEnviron]
  split
  · rfl
  · split
    · rfl
    · rfl

/-- With a truthful content length the request body is honest. -/
theorem fromEnviron_honest {environ : Environ}
    (h : Truthful environ.contentLength environ.wsgiInput.data) :
    (RequestBody.fromEnviron environ).Honest
      ∧ (RequestBody.fromEnviron environ).stream = environ.wsgiInput := by
  refine ⟨?_, fromEnviron_stream environ⟩
  rw [RequestBody.fromEnviron]
  split
  · exact nofun
  · next s hs =>
      split
      · exact nofun
      · next hne =>
          have hint : int s = .ok (environ.wsgiInput.data.length : Int) :=
            (h s hs).resolve_left hne
          intro remaining hremaining
          rw [hint] at hremaining
          exact (Option.some.inj hremaining).symm

/-- The two ways in which the WSGI server reads a body of which it was told the
    truth: by its length, or to its end. -/
theorem readPostBody_eq {environ : Environ}
    (h : Truthful environ.contentLength environ.wsgiInput.data) (readMaxBytes : Option Int) :
    (0 < environ.wsgiInput.data.length ∧ readPostBody readMaxBytes environ
        = match tooLarge environ.wsgiInput.data.length readMaxBytes with
          | some e => .error e
          | none => readBodyWithContentLength (.fromEnviron environ)
              environ.wsgiInput.data.length)
      ∨ readPostBody readMaxBytes environ
        = match readLimited readMaxBytes (.fromEnviron environ) [] 0 with
          | .error e => .error e
          | .ok chunks => .ok chunks.flatten := by
  rw [readPostBody]
  cases hc : environ.contentLength with
  | none => exact Or.inr rfl
  | some s =>
      dsimp only
      by_cases hs : s = ""
      · rw [if_pos hs]
        exact Or.inr rfl
      · rw [if_neg hs, (h s hc).resolve_left hs]
        dsimp only
        by_cases hpos : (0 : Int) < (environ.wsgiInput.data.length : Int)
        · rw [if_pos hpos]
          exact Or.inl ⟨by omega, rfl⟩
        · rw [if_neg hpos]
          exact Or.inr rfl

/-- **The WSGI server** comes to the body, or to the limit. -/
theorem readPostBody_spec {environ : Environ}
    (h : Truthful environ.contentLength environ.wsgiInput.data) {readMaxBytes : Option Int}
    (hempty : environ.wsgiInput.data = [] → tooLarge 0 readMaxBytes = none) :
    readPostBody readMaxBytes environ
      = match tooLarge environ.wsgiInput.data.length readMaxBytes with
        | some e => .error e
        | none => .ok environ.wsgiInput.data := by
  obtain ⟨hhonest, hstream⟩ := fromEnviron_honest h
  rcases readPostBody_eq h readMaxBytes with ⟨hpos, heq⟩ | heq
  · have hspec := readBodyWithContentLength_spec hhonest (by rw [hstream]; exact hpos)
    rw [hstream] at hspec
    rw [heq, hspec]
  · rcases readLimited_spec readMaxBytes _ (.fromEnviron environ) [] 0 hhonest rfl
        (by rw [hstream]; exact hempty) with ⟨e, hlarge, hread⟩ | ⟨hsmall, more, hmore, hread⟩
    · rw [hstream, Nat.zero_add] at hlarge
      rw [heq, hread, hlarge]
    · rw [hstream, Nat.zero_add] at hsmall
      rw [hstream] at hmore
      rw [heq, hread, hsmall]
      dsimp only
      rw [List.nil_append, hmore]

/-- **Both servers decode a unary Connect request alike.**  A POST request: for
    every split of the body into events, every short reads, and a truthful content
    length or none, unless the limit excludes the empty body and the body is
    empty.  A GET request: for every parsed query. -/
theorem unary_requests_agree (server : Server α) (hserver : server.Tame) :
    (∀ (body : Bytes) (events : List Event) (headers : Headers p) (environ : Environ),
      Splits events body → environ.wsgiInput.data = body →
      Truthful environ.contentLength body →
      headers.get? "content-encoding" = environ.httpContentEncoding →
      (body = [] → tooLarge 0 server.readMaxBytes = none) →
      ∃ r, readPostRequest server events headers = some r
        ∧ Agree r (handlePostRequest server environ))
    ∧ ∀ params : Multimap String String,
      Agree (readGetRequest server params) (handleGetRequest server params) := by
  constructor
  · rintro body events headers environ hsplits rfl htruth hencoding hempty
    have hsync := readPostBody_spec htruth hempty
    rw [handlePostRequest, hsync, readPostRequest, hencoding]
    -- Both loops come to the same body, or both find it too large.
    rcases readChunks_spec hsplits server.readMaxBytes [] 0 with
      ⟨e, hlarge, hread⟩ | ⟨hsmall, more, hmore, hread⟩
    · rw [Nat.zero_add] at hlarge
      rw [hlarge, hread]
      refine ⟨_, rfl, agree_orInternal ?_⟩
      rintro e' ⟨⟩
      exact tooLarge_connectError hlarge
    · rw [Nat.zero_add] at hsmall
      rw [hsmall, hread]
      refine ⟨_, rfl, ?_⟩
      dsimp only
      rw [List.nil_append, hmore]
      exact agree_orInternal fun e he => hserver.decodeBody he
  · intro params
    -- The sync server only turns other exceptions into errors, and there are none.
    refine agree_orInternal ?_
    intro e he
    rw [readGetRequest] at he
    cases hm : Multimap.first? params "message" with
    | none =>
        rw [hm] at he
        injection he with he
        exact he ▸ rfl
    | some message =>
        rw [hm] at he
        dsimp only at he
        cases hb : messageParameter params message with
        | ok data =>
            rw [hb] at he
            exact hserver.decodeBody he
        | error e' =>
            rw [hb] at he
            injection he with he
            subst he
            exact messageParameter_connectError hb

/-- A server whose messages are bytes, without compression. -/
def rawServer (readMaxBytes : Option Int) : Server Bytes :=
  ⟨Codec.raw, Dict.empty.insert "identity" .identity, readMaxBytes⟩

theorem rawServer_tame (readMaxBytes : Option Int) : (rawServer readMaxBytes).Tame where
  codec := nofun
  compressions := by
    intro name c hc data limit e he
    have hname : name = "identity" := by
      by_contra hne
      rw [rawServer, Dict.get?_insert_ne _ (Ne.symm hne)] at hc
      exact nomatch hc
    subst hname
    rw [rawServer, Dict.get?_insert_self] at hc
    obtain rfl := Option.some.inj hc
    cases limit with
    | none => exact nomatch he
    | some limit =>
        rw [Compression.decompress] at he
        split at he
        · injection he with he
          exact he ▸ rfl
        · exact nomatch he

/-- Two bytes in two events, or by their length in reads of one byte. -/
theorem unary_requests_agree_raw :
    ∃ r, readPostRequest (rawServer (some 2)) [.request (some [1]) (some true),
        .request (some [2]) none] (Headers.empty Platform.plain) = some r
      ∧ Agree r (handlePostRequest (rawServer (some 2)) ⟨some "2", none, [1, 2], fun _ => 0⟩) :=
  (unary_requests_agree (rawServer (some 2)) (rawServer_tame _)).1 [1, 2] _ _ _
    (.more (.last rfl [])) rfl
    (by
      rintro s ⟨⟩
      exact Or.inr (by decide))
    rfl nofun

/-- A negative limit and an empty body: the ASGI server checks the limit after its
    one empty event, the WSGI server reads no chunk and never checks. -/
theorem negative_limit_disagrees :
    Splits [.request none none] [] ∧ Truthful none []
      ∧ ¬ ∃ r, readPostRequest (rawServer (some (-1))) [.request none none]
            (Headers.empty Platform.plain) = some r
          ∧ Agree r (handlePostRequest (rawServer (some (-1))) ⟨none, none, [], fun _ => 0⟩) := by
  refine ⟨.last rfl [], nofun, ?_⟩
  rintro ⟨r, hr, hagree⟩
  have hsync : handlePostRequest (rawServer (some (-1))) ⟨none, none, [], fun _ => 0⟩ = .ok [] := by
    rw [handlePostRequest, readPostBody]
    dsimp only
    rw [if_neg (by decide), readLimited]
    rfl
  rw [hsync] at hagree
  obtain rfl : .error (messageTooLargeError (-1)) = r := Option.some.inj hr
  exact nomatch hagree

end ConnectUnaryRequest
