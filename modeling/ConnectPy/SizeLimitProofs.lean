import ConnectPy.ClientCallProofs
import ConnectPy.EnvelopeGrammarProofs
import ConnectPy.RequestBodyProofs

/-! # The message size limit — on every path

    `read_max_bytes` is enforced in many places: the loops over the body of a POST
    request, the content length, the argument of `decompress`, the prefix of an
    envelope, the content of a unary response.  What they come to together is that
    the codec is never asked to decode more (`AsksAtMost`): no path depends on how
    the codec decodes longer data.

    Every path ends in `decodeBody`, in `handleFrame` or in `unaryResponse`.  For the
    envelopes an invariant does it: a pending length was checked against the limit
    when its prefix was read (`Checked`). -/

namespace ConnectSizeLimit

open Utf8 (Bytes)
open Framing Resumable OrderedDict
open ConnectErrors ConnectPlatform ConnectHeaders ConnectWireErrors
open ConnectEnvelope ConnectGrammar ConnectUnaryRequest ConnectRequestBody
open ConnectClientRequest ConnectContentType ConnectNegotiation ConnectClient

variable {p : Platform} {α β γ δ : Type}

/-! ## What a codec is asked -/

/-- A path that asks its codec only for data of at most `n` bytes: how the codec
    decodes longer data makes no difference. -/
def AsksAtMost (n : Int) (codec : Codec α) (path : Codec α → β) : Prop :=
  ∀ decode : Bytes → Except Exc α,
    (∀ data : Bytes, (data.length : Int) ≤ n → decode data = codec.decode data) →
    path { codec with decode := decode } = path codec

/-- What is computed from the outcome of a path asks nothing. -/
theorem AsksAtMost.comp {n : Int} {codec : Codec α} {path : Codec α → β}
    (h : AsksAtMost n codec path) (g : β → γ) : AsksAtMost n codec fun c => g (path c) :=
  fun decode hdecode => congrArg g (h decode hdecode)

theorem asksAtMost_decodeMessage {n : Int} (codec : Codec α) {data : Bytes}
    (h : (data.length : Int) ≤ n) : AsksAtMost n codec fun c => decodeMessage c data := by
  intro decode hdecode
  beta_reduce
  have hasked : Codec.decode { codec with decode := decode } data = codec.decode data :=
    hdecode data h
  rw [decodeMessage, decodeMessage, hasked]

/-! ## What a compression promises -/

/-- The error that says that a message is too large. -/
def Exhausted (e : Exc) : Prop := ∃ error, e = .connectError error ∧ error.code = .resourceExhausted

theorem exhausted_messageTooLarge (limit : Int) : Exhausted (messageTooLargeError limit) :=
  ⟨_, rfl, rfl⟩

theorem Exhausted.isConnectError {e : Exc} (h : Exhausted e) : e.isConnectError = true := by
  obtain ⟨error, rfl, -⟩ := h
  rfl

/-- What data may stand for within a limit; a negative one still lets the empty
    message through. -/
def bound (limit : Int) : Int := max limit 0

/-- The data decompresses to more than the limit. -/
def Expands (limit : Int) (c : Compression) (data : Bytes) : Prop :=
  ∃ out, c.decompress data none = .ok out ∧ bound limit < (out.length : Int)

/-- The contract of `Compression.decompress` for a limit. -/
structure Contract (limit : Int) (c : Compression) : Prop where
  within    : ∀ {data out}, c.decompress data (some limit) = .ok out →
    (out.length : Int) ≤ bound limit
  exhausted : ∀ {data}, Expands limit c data →
    ∃ e, c.decompress data (some limit) = .error e ∧ Exhausted e

/-- `IdentityCompression` keeps it. -/
theorem contract_identity (limit : Int) : Contract limit .identity where
  within := by
    intro data out h
    rw [Compression.decompress] at h
    split at h
    · cases h
    · next hle =>
        injection h with h
        subst h
        rw [bound]
        omega
  exhausted := by
    rintro data ⟨out, hout, hlt⟩
    injection hout with hout
    subst hout
    refine ⟨messageTooLargeError limit, ?_, exhausted_messageTooLarge limit⟩
    rw [bound] at hlt
    rw [Compression.decompress, if_pos (by omega)]

theorem Contract.decompress_within {limit : Int} {c : Compression} (h : Contract limit c)
    {data out : Bytes} (hd : decompress c data (some limit) = .ok out) :
    (out.length : Int) ≤ bound limit := by
  rw [decompress] at hd
  split at hd
  · next out' hout =>
      injection hd with hd
      exact hd ▸ h.within hout
  · split at hd
    · cases hd
    · split at hd <;> cases hd

theorem Contract.decompress_exhausted {limit : Int} {c : Compression} (h : Contract limit c)
    {data : Bytes} (he : Expands limit c data) :
    ∃ e, decompress c data (some limit) = .error e ∧ Exhausted e := by
  obtain ⟨e, hd, hexhausted⟩ := h.exhausted he
  refine ⟨e, ?_, hexhausted⟩
  rw [decompress, hd]
  exact if_pos hexhausted.isConnectError

/-- Every compression an application provides keeps its contract. -/
def Contracts (limit : Int) (compressions : Compressions) : Prop :=
  ∀ name c, compressions.get? name = some (.custom c) → Contract limit (.custom c)

theorem Contracts.get {limit : Int} {compressions : Compressions}
    (h : Contracts limit compressions) {name : String} {c : Compression}
    (hc : compressions.get? name = some c) : Contract limit c := by
  cases c with
  | identity => exact contract_identity limit
  | custom c => exact h name c hc

/-- The compression that a response declares is one of the client's. -/
theorem Contracts.response {limit : Int} {compressions : Compressions}
    (h : Contracts limit compressions) {protocol : ClientProtocol} {stream : Bool}
    {headers : p.HTTPHeaders} {c : Compression}
    (hc : handleResponseCompression protocol stream headers compressions = .ok c) :
    Contract limit c := by
  rw [handleResponseCompression] at hc
  split at hc
  · injection hc with hc
    exact hc ▸ contract_identity limit
  · split at hc
    · injection hc with hc
      exact hc ▸ contract_identity limit
    · split at hc
      · next hget =>
          injection hc with hc
          exact hc ▸ h.get hget
      · cases hc

/-! ## Unary requests -/

section Unary

variable {limit : Int} {compressions : Compressions}

/-- **`decodeBody`**, the end of every unary request. -/
theorem asksAtMost_decodeBody (h : Contracts limit compressions) (codec : Codec α)
    (name : String) (body : Bytes) :
    AsksAtMost (bound limit) codec
      fun c => Server.decodeBody ⟨c, compressions, some limit⟩ name body := by
  intro decode hdecode
  beta_reduce
  rw [Server.decodeBody, Server.decodeBody]
  dsimp only
  cases hc : compressions.get? name with
  | none => rfl
  | some compression =>
      dsimp only
      by_cases hbody : body = []
      · rw [if_pos hbody]
        have hempty : ((body.length : Nat) : Int) ≤ bound limit := by
          rw [hbody, bound]
          exact Int.le_max_right _ _
        exact asksAtMost_decodeMessage codec hempty decode hdecode
      · rw [if_neg hbody]
        cases hd : decompress compression body (some limit) with
        | error e => rfl
        | ok out =>
            exact asksAtMost_decodeMessage codec ((h.get hc).decompress_within hd) decode hdecode

theorem asksAtMost_readPostRequest (h : Contracts limit compressions) (codec : Codec α)
    (events : List Event) (headers : Headers p) :
    AsksAtMost (bound limit) codec
      fun c => readPostRequest ⟨c, compressions, some limit⟩ events headers := by
  intro decode hdecode
  beta_reduce
  rw [readPostRequest, readPostRequest]
  dsimp only
  cases readChunks (some limit) events [] 0 with
  | none => rfl
  | some r =>
      cases r with
      | error e => rfl
      | ok chunks =>
          exact congrArg some (asksAtMost_decodeBody h codec _ _ decode hdecode)

theorem asksAtMost_handlePostRequest (h : Contracts limit compressions) (codec : Codec α)
    (environ : Environ) :
    AsksAtMost (bound limit) codec
      fun c => handlePostRequest ⟨c, compressions, some limit⟩ environ := by
  intro decode hdecode
  beta_reduce
  rw [handlePostRequest, handlePostRequest]
  dsimp only
  cases readPostBody (some limit) environ with
  | error e => rfl
  | ok body => exact congrArg orInternal (asksAtMost_decodeBody h codec _ _ decode hdecode)

theorem asksAtMost_readGetRequest (h : Contracts limit compressions) (codec : Codec α)
    (params : Multimap String String) :
    AsksAtMost (bound limit) codec
      fun c => readGetRequest ⟨c, compressions, some limit⟩ params := by
  intro decode hdecode
  beta_reduce
  rw [readGetRequest, readGetRequest]
  cases Multimap.first? params "message" with
  | none => rfl
  | some message =>
      dsimp only
      cases messageParameter params message with
      | error e => rfl
      | ok data => exact asksAtMost_decodeBody h codec _ _ decode hdecode

/-- A unary response, whose content the HTTP client has decompressed. -/
theorem asksAtMost_unaryResponse (codec : Codec α) (resp : FullResponse p) :
    AsksAtMost (bound limit) codec
      fun c => unaryResponse c compressions (some limit) resp := by
  intro decode hdecode
  beta_reduce
  rw [unaryResponse, unaryResponse]
  cases validateResponse p codec.name resp.status (contentType resp.headers) with
  | error e => rfl
  | ok _ =>
      dsimp only
      cases handleResponseCompression .connect false resp.headers compressions with
      | error e => rfl
      | ok _ =>
          dsimp only
          by_cases hlarge : limit < (resp.content.length : Int)
          · rw [tooLarge, if_pos hlarge]
          · rw [tooLarge, if_neg hlarge]
            dsimp only
            have hlength : (resp.content.length : Int) ≤ bound limit := by
              rw [bound]
              omega
            by_cases hstatus : resp.status = 200
            · rw [if_pos hstatus, if_pos hstatus]
              exact asksAtMost_decodeMessage codec hlength decode hdecode
            · rw [if_neg hstatus, if_neg hstatus]

end Unary

/-! ## Envelopes -/

section Envelopes

variable {k : ReaderKind} {limit : Int} {compression : Compression}

/-- A pending length was checked when its prefix was read. -/
def Checked (limit : Int) (s : ReaderState p) : Prop :=
  ∀ n, s.nextMessageLength = some n → (n : Int) ≤ limit

/-- The payload of a frame within the limit stays within it. -/
theorem messageContents_within (h : Contract limit compression) {codec : Codec α} {b : UInt8}
    {data plain : Bytes} (hdata : (data.length : Int) ≤ bound limit)
    (hplain : messageContents ⟨codec, compression, some limit⟩ b data = .ok plain) :
    (plain.length : Int) ≤ bound limit := by
  rw [messageContents] at hplain
  dsimp only at hplain
  split at hplain
  · injection hplain with hplain
    exact hplain ▸ hdata
  · split at hplain
    · cases hplain
    · split at hplain
      · injection hplain with hplain
        exact hplain ▸ hdata
      · exact h.decompress_within hplain

/-- **A frame** is decoded within the limit. -/
theorem asksAtMost_handleFrame (h : Contract limit compression) (codec : Codec α)
    (s : ReaderState p) (b : UInt8) {data : Bytes} (hdata : (data.length : Int) ≤ bound limit) :
    AsksAtMost (bound limit) codec
      fun c => handleFrame k ⟨c, compression, some limit⟩ s b data := by
  intro decode hdecode
  beta_reduce
  have hcontents : messageContents ⟨{ codec with decode := decode }, compression, some limit⟩ b data
      = messageContents ⟨codec, compression, some limit⟩ b data := rfl
  rw [handleFrame, handleFrame, hcontents]
  cases hc : messageContents ⟨codec, compression, some limit⟩ b data with
  | error e => rfl
  | ok plain =>
      dsimp only
      have hplain := messageContents_within h hdata hc
      have hasked : decodeMessage { codec with decode := decode } plain
          = decodeMessage codec plain :=
        asksAtMost_decodeMessage codec hplain decode hdecode
      rw [hasked]

/-- What follows a frame waits for the next prefix. -/
theorem handleFrame_ended {cfg : ReaderConfig α} {s s' : ReaderState p} {b : UInt8}
    {data : Bytes} (h : handleFrame k cfg s b data = .ended s') :
    s'.nextMessageLength = s.nextMessageLength := by
  rcases handleFrame_cases k cfg s b data with
    ⟨e, _, hr⟩ | ⟨plain, t, _, ⟨e, _, hr⟩ | ⟨ht, hr⟩ | ⟨_, ⟨e, _, hr⟩ | ⟨m, _, hr⟩⟩⟩
  · rw [hr] at h; exact nomatch h
  · rw [hr] at h; exact nomatch h
  · rw [hr] at h
    injection h with h
    have hframe := handleEndMessage_frame k s b plain
    rw [ht] at hframe
    exact h ▸ hframe.2
  · rw [hr] at h; exact nomatch h
  · rw [hr] at h; exact nomatch h

/-- From a checked state the reader moves alike, however the codec decodes more than
    the limit. -/
theorem move_alike (h : Contract limit compression) (codec : Codec α)
    {decode : Bytes → Except Exc α}
    (hdecode : ∀ data : Bytes, (data.length : Int) ≤ bound limit →
      decode data = codec.decode data)
    (s : ReaderState p) (b : Bytes) (hs : Checked limit s) :
    move k ⟨{ codec with decode := decode }, compression, some limit⟩ s b
      = move k ⟨codec, compression, some limit⟩ s b := by
  rw [move, move]
  cases hn : s.nextMessageLength with
  | none => rfl
  | some n =>
      have hdata : (((b.drop 5).take n).length : Int) ≤ bound limit := by
        have hle := hs n hn
        rw [List.length_take, bound]
        omega
      have hframe : handleFrame k ⟨{ codec with decode := decode }, compression, some limit⟩
            s.taken (flagOf b) ((b.drop 5).take n)
          = handleFrame k ⟨codec, compression, some limit⟩ s.taken (flagOf b)
            ((b.drop 5).take n) :=
        asksAtMost_handleFrame h codec s.taken (flagOf b) hdata decode hdecode
      dsimp only
      rw [hframe]

/-- A move that goes on leaves a checked state. -/
theorem Checked.move {codec : Codec α} {s s' : ReaderState p} {b r : Bytes} {o : Option α}
    (h : ConnectEnvelope.move k ⟨codec, compression, some limit⟩ s b = .advance s' r o) :
    Checked limit s' := by
  have hmove : ConnectEnvelope.move k ⟨codec, compression, some limit⟩ s b ≠ .wait := by
    rw [h]
    rintro ⟨⟩
  obtain ⟨he, ⟨hn, -⟩ | ⟨n, hn, hb⟩⟩ := move_cases hmove
  · rw [move_readPrefix he hn] at h
    split at h
    · cases h
    · cases h
    · next s'' hp =>
        -- The limit was checked just now.
        injection h with h1
        subst h1
        obtain ⟨-, -, hfits, rfl⟩ := readPrefix_promised hp
        rintro m ⟨⟩
        have hle : ¬ limit < (lengthOf b : Int) := of_decide_eq_false hfits
        omega
  · rw [move_frame he hn hb] at h
    have hnone : s'.nextMessageLength = none := by
      split at h
      · cases h
      · next hf =>
          injection h with h1
          exact h1 ▸ handleFrame_ended hf
      · next hf =>
          injection h with h1
          exact h1 ▸ (handleFrame_message hf).2
    intro m hm
    rw [hnone] at hm
    cases hm

/-- **Feeding a reader**, over any chunks. -/
theorem asksAtMost_feedAll (h : Contract limit compression) (codec : Codec α)
    (response : Option (ResponseMetadata p)) (chunks : List Bytes) :
    AsksAtMost (bound limit) codec
      fun c => feedAll k ⟨c, compression, some limit⟩ (Reader.new response) chunks := by
  intro decode hdecode
  beta_reduce
  have hrun := (parser k ⟨codec, compression, some limit⟩).run_congr
    (parser k ⟨{ codec with decode := decode }, compression, some limit⟩)
    (I := Checked (p := p) limit) (fun s b hs => move_alike h codec hdecode s b hs)
    (fun _ hm => Checked.move hm) chunks (start response) [] nofun
  rw [feedAll_eq_run, feedAll_eq_run]
  exact congrArg ofResult hrun

theorem asksAtMost_withBlock (h : Contract limit compression) (codec : Codec α)
    (response : Option (ResponseMetadata p)) (chunks : List Bytes) :
    AsksAtMost (bound limit) codec
      fun c => withBlock k ⟨c, compression, some limit⟩ (Reader.new response) chunks := by
  intro decode hdecode
  have hfeed : feedAll k ⟨{ codec with decode := decode }, compression, some limit⟩
        (Reader.new response) chunks
      = feedAll k ⟨codec, compression, some limit⟩ (Reader.new response) chunks :=
    asksAtMost_feedAll h codec response chunks decode hdecode
  beta_reduce
  rw [withBlock, withBlock, hfeed]

end Envelopes

/-- Reading the response of a streaming call. -/
theorem asksAtMost_readBody (client : Client α β) {limit : Int}
    (hlimit : client.readMaxBytes = some limit)
    (h : Contracts limit client.responseCompressions) (f : Flavor) (resp : Opened p)
    (timeAfter : Option Int) (response : Option (ResponseMetadata p)) :
    AsksAtMost (bound limit) client.codec fun c =>
      readBody f { client with codec := c } resp timeAfter response := by
  intro decode hdecode
  beta_reduce
  rw [readBody, readBody]
  cases validateStreamResponse client.protocol client.codec.name (contentType resp.headers) with
  | error e => rfl
  | ok _ =>
      dsimp only
      cases hc : handleResponseCompression client.protocol true resp.headers
          client.responseCompressions with
      | error e => rfl
      | ok compression =>
          dsimp only
          have hfeed : feedAll (readerKind client.protocol)
                ⟨{ client.codec with decode := decode }, compression, client.readMaxBytes⟩
                (Reader.new response) resp.chunks
              = feedAll (readerKind client.protocol)
                ⟨client.codec, compression, client.readMaxBytes⟩ (Reader.new response)
                resp.chunks := by
            rw [hlimit]
            exact asksAtMost_feedAll (h.response hc) client.codec response resp.chunks decode
              hdecode
          rw [hfeed]

/-- **A streaming call**, whatever becomes of the exchange. -/
theorem asksAtMost_bidiStream (client : Client α β) {limit : Int}
    (hlimit : client.readMaxBytes = some limit)
    (h : Contracts limit client.responseCompressions)
    (streamErrorCode : Exc → Option StreamErrorCode) (f : Flavor) (requests : Requests α)
    (x : Exchange p) (current : Option (ResponseMetadata p)) :
    AsksAtMost (bound limit) client.codec fun c =>
      sendRequestBidiStream streamErrorCode f { client with codec := c } requests x current := by
  intro decode hdecode
  have hwith : ∀ resp : Opened p,
      withResponse f { client with codec := { client.codec with decode := decode } } resp
          x.timeAfterBody current
        = withResponse f client resp x.timeAfterBody current := by
    intro resp
    have hread := fun response => asksAtMost_readBody client hlimit h f resp x.timeAfterBody
      response decode hdecode
    beta_reduce at hread
    rw [withResponse, withResponse, hread]
  have htry : tryBody f { client with codec := { client.codec with decode := decode } } requests x
        current
      = tryBody f client requests x current := by
    rw [tryBody, tryBody]
    have hcontent : requestContent
          { client with codec := { client.codec with decode := decode } } requests
        = requestContent client requests := by
      cases requests <;> rfl
    rw [hcontent]
    simp only [hwith]
  beta_reduce
  rw [sendRequestBidiStream, sendRequestBidiStream, htry]

/-! ## What is longer is refused -/

section Refusals

variable {limit : Int} {compressions : Compressions}

theorem exhausted_tooLarge {n : Nat} (h : bound limit < (n : Int)) :
    tooLarge n (some limit) = some (messageTooLargeError limit) := by
  rw [bound] at h
  rw [tooLarge, if_pos (by omega)]

theorem orInternal_exhausted {e : Exc} (h : Exhausted e) :
    orInternal (.error e : Except Exc α) = .error e := by
  rw [orInternal, h.isConnectError]
  simp

/-- A body that stands for a longer message: it is longer itself, or what it
    decompresses to is. -/
inductive LongBody (limit : Int) (compressions : Compressions) (name : String) (body : Bytes) :
    Prop where
  | body (h : bound limit < (body.length : Int))
  | message {c : Compression} (hne : body ≠ []) (hc : compressions.get? name = some c)
      (h : Expands limit c body)

/-- `decodeBody` refuses what expands. -/
theorem decodeBody_exhausted (h : Contracts limit compressions) (codec : Codec α) {name : String}
    {body : Bytes} {c : Compression} (hne : body ≠ []) (hc : compressions.get? name = some c)
    (hexpands : Expands limit c body) :
    ∃ e, Server.decodeBody ⟨codec, compressions, some limit⟩ name body = .error e
      ∧ Exhausted e := by
  obtain ⟨e, hd, he⟩ := (h.get hc).decompress_exhausted hexpands
  refine ⟨e, ?_, he⟩
  rw [Server.decodeBody]
  dsimp only
  rw [hc]
  dsimp only
  rw [if_neg hne, hd]

/-- The loop over the body, and then `decodeBody`, refuse a long body. -/
theorem readPostRequest_exhausted (h : Contracts limit compressions) (codec : Codec α)
    {events : List Event} {body : Bytes} (hsplits : Splits events body) (headers : Headers p)
    (hlong : LongBody limit compressions (orIdentity (headers.get? "content-encoding")) body) :
    ∃ e, readPostRequest ⟨codec, compressions, some limit⟩ events headers = some (.error e)
      ∧ Exhausted e := by
  rw [readPostRequest]
  rcases readChunks_spec hsplits (some limit) [] 0 with
    ⟨e, hlarge, hread⟩ | ⟨hsmall, more, hmore, hread⟩
  · refine ⟨e, by rw [hread]; rfl, ?_⟩
    rw [tooLarge] at hlarge
    split at hlarge
    · exact Option.some.inj hlarge ▸ exhausted_messageTooLarge limit
    · cases hlarge
  · rw [Nat.zero_add] at hsmall
    rw [hread]
    cases hlong with
    | body hlt =>
        rw [exhausted_tooLarge hlt] at hsmall
        cases hsmall
    | message hne hc hexpands =>
        obtain ⟨e, hd, he⟩ := decodeBody_exhausted h codec hne hc hexpands
        refine ⟨e, ?_, he⟩
        rw [Option.map_some]
        dsimp only
        rw [List.nil_append, hmore, hd]

/-- The body that a WSGI request stands for: as much as its content length says, or
    all there is. -/
inductive Posted (environ : Environ) : Bytes → Prop where
  | sized {text : String} {n : Nat} (hlength : environ.contentLength = some text)
      (hint : int text = .ok (n : Int)) (hpos : 0 < n)
      (hle : n ≤ environ.wsgiInput.data.length) : Posted environ (environ.wsgiInput.data.take n)
  | whole (hlength : ∀ text, environ.contentLength = some text → text = "") :
      Posted environ environ.wsgiInput.data

/-- A content length is checked before anything is read. -/
theorem readPostBody_declared {environ : Environ} {text : String} {n : Nat}
    (hlength : environ.contentLength = some text) (hint : int text = .ok (n : Int))
    (hpos : 0 < n) (readMaxBytes : Option Int) :
    readPostBody readMaxBytes environ
      = match tooLarge n readMaxBytes with
        | some e => .error e
        | none => readBodyWithContentLength (.fromEnviron environ) n := by
  rw [readPostBody, hlength]
  dsimp only
  rw [if_neg (int_ne_empty hint), hint]
  dsimp only
  rw [if_pos (by omega)]
  rfl

/-- A body whose content length is longer than the limit is not even read. -/
theorem handlePostRequest_declared (codec : Codec α) {environ : Environ} {text : String} {n : Nat}
    (hlength : environ.contentLength = some text) (hint : int text = .ok (n : Int))
    (hlt : bound limit < (n : Int)) :
    handlePostRequest ⟨codec, compressions, some limit⟩ environ
      = .error (messageTooLargeError limit) := by
  have hpos : 0 < n := by
    rw [bound] at hlt
    omega
  rw [handlePostRequest, readPostBody_declared hlength hint hpos, exhausted_tooLarge hlt]
  exact orInternal_exhausted (exhausted_messageTooLarge limit)

/-- The body of a request comes whole, or the limit was passed. -/
theorem readPostBody_posted {environ : Environ} {body : Bytes} (h : Posted environ body)
    (hne : body ≠ []) :
    readPostBody (some limit) environ = .error (messageTooLargeError limit)
      ∨ readPostBody (some limit) environ = .ok body ∧ tooLarge body.length (some limit) = none := by
  have hlarge : ∀ {m : Nat} {e : Exc}, tooLarge m (some limit) = some e →
      e = messageTooLargeError limit := by
    intro m e he
    rw [tooLarge] at he
    split at he
    · exact (Option.some.inj he).symm
    · cases he
  cases h with
  | @sized text n hlength hint hpos hle =>
      rw [readPostBody_declared hlength hint hpos]
      cases ht : tooLarge n (some limit) with
      | some e => exact Or.inl (congrArg Except.error (hlarge ht))
      | none =>
          refine Or.inr ⟨?_, by rw [List.length_take, Nat.min_eq_left hle, ht]⟩
          have hexact := readBodyWithContentLength_within (within_fromEnviron hlength hint)
          rw [if_pos hle] at hexact
          exact hexact
  | whole hlength =>
      have htruth : Truthful environ.contentLength environ.wsgiInput.data :=
        fun text htext => Or.inl (hlength text htext)
      have hspec : readPostBody (some limit) environ = _ :=
        readPostBody_spec htruth fun hnil => absurd hnil hne
      rw [hspec]
      cases ht : tooLarge environ.wsgiInput.data.length (some limit) with
      | some e => exact Or.inl (congrArg Except.error (hlarge ht))
      | none => exact Or.inr ⟨rfl, rfl⟩

theorem handlePostRequest_exhausted (h : Contracts limit compressions) (codec : Codec α)
    {environ : Environ} {body : Bytes} (hposted : Posted environ body)
    (hlong : LongBody limit compressions (orIdentity environ.httpContentEncoding) body) :
    ∃ e, handlePostRequest ⟨codec, compressions, some limit⟩ environ = .error e
      ∧ Exhausted e := by
  have hne : body ≠ [] := by
    cases hlong with
    | body hlt =>
        rintro rfl
        rw [bound, List.length_nil] at hlt
        omega
    | message hne hc hexpands => exact hne
  rw [handlePostRequest]
  have hbody : readPostBody (some limit) environ = _ ∨ _ := readPostBody_posted hposted hne
  rcases hbody with hread | ⟨hread, hsmall⟩
  · rw [hread]
    exact ⟨_, orInternal_exhausted (exhausted_messageTooLarge limit),
      exhausted_messageTooLarge limit⟩
  · rw [hread]
    cases hlong with
    | body hlt =>
        rw [exhausted_tooLarge hlt] at hsmall
        cases hsmall
    | message _ hc hexpands =>
        obtain ⟨e, hd, he⟩ := decodeBody_exhausted h codec hne hc hexpands
        dsimp only
        rw [hd, orInternal_exhausted he]
        exact ⟨e, rfl, he⟩

/-- A GET request, whatever its parameters say the message is. -/
theorem readGetRequest_exhausted (h : Contracts limit compressions) (codec : Codec α)
    {params : Multimap String String} {message : String} {data : Bytes} {c : Compression}
    (hmessage : Multimap.first? params "message" = some message)
    (hdata : messageParameter params message = .ok data) (hne : data ≠ [])
    (hc : compressions.get? (orIdentity (Multimap.first? params "compression")) = some c)
    (hexpands : Expands limit c data) :
    ∃ e, readGetRequest ⟨codec, compressions, some limit⟩ params = .error e ∧ Exhausted e := by
  obtain ⟨e, hd, he⟩ := decodeBody_exhausted h codec hne hc hexpands
  refine ⟨e, ?_, he⟩
  rw [readGetRequest, hmessage]
  dsimp only
  rw [hdata]
  exact hd

theorem unaryResponse_exhausted (codec : Codec α) {resp : FullResponse p} {c : Compression}
    (hvalid : validateResponse p codec.name resp.status (contentType resp.headers) = .ok ())
    (hc : handleResponseCompression .connect false resp.headers compressions = .ok c)
    (hlt : bound limit < (resp.content.length : Int)) :
    unaryResponse codec compressions (some limit) resp = .error (messageTooLargeError limit) := by
  rw [unaryResponse, hvalid]
  dsimp only
  rw [hc]
  dsimp only
  rw [exhausted_tooLarge hlt]

end Refusals

section Envelopes

variable {k : ReaderKind} {limit : Int} {cfg : ReaderConfig α}

/-- A body on which one drain raises raises over any chunks, after the same messages. -/
theorem withBlock_error {response : Option (ResponseMetadata p)} {chunks : List Bytes} {e : Exc}
    (h : ((parser k cfg).drain (start response) chunks.flatten).error = some e) :
    (withBlock k cfg (Reader.new response) chunks).messages
        = ((parser k cfg).drain (start response) chunks.flatten).outs
      ∧ (withBlock k cfg (Reader.new response) chunks).error = some e := by
  obtain ⟨houts, herror, -, -⟩ :=
    (parser k cfg).run_eq_drain chunks (start response) [] (parser_waits_nil k cfg _)
  rw [List.nil_append] at houts herror
  have hfeed : (feedAll k cfg (Reader.new response) chunks).error = some e := by
    rw [feedAll_eq_run]
    exact herror.trans h
  have hmessages : (feedAll k cfg (Reader.new response) chunks).messages
      = ((parser k cfg).drain (start response) chunks.flatten).outs := by
    rw [feedAll_eq_run]
    exact houts
  rw [withBlock, hfeed]
  exact ⟨hmessages, hfeed⟩

/-- Why an envelope with too long a length is refused: its flags come first. -/
def refusal (k : ReaderKind) (limit : Int) (flags : UInt8) : Exc :=
  if flags &&& ~~~k.flagsMask ≠ 0 then
    .connect k.protocolErrorCode "protocol error: invalid envelope flags"
  else messageTooLargeError limit

/-- Five bytes with too long a length are enough. -/
theorem readPrefix_refused (hmax : cfg.readMaxBytes = some limit) (s : ReaderState p) {b : Bytes}
    (hb : 5 ≤ b.length) (hlong : limit < (lengthOf b : Int)) :
    ∃ s', readPrefix k cfg s b = .raised s' (refusal k limit (flagOf b)) := by
  rw [readPrefix, refusal, if_neg (Nat.not_lt_of_le hb)]
  by_cases hflags : flagOf b &&& ~~~k.flagsMask ≠ 0
  · rw [if_pos hflags, if_pos hflags]
    exact ⟨_, rfl⟩
  · rw [if_neg hflags, if_neg hflags, hmax]
    exact ⟨_, if_pos (decide_eq_true hlong)⟩

/-- **The prefix decides**: behind any messages, in any chunks, and whatever follows. -/
theorem withBlock_prefix (hmax : cfg.readMaxBytes = some limit) {ms : List α} {b head rest : Bytes}
    (hms : Messages cfg ms b) (hhead : head.length = 5) (hlong : limit < (lengthOf head : Int))
    (response : Option (ResponseMetadata p)) {chunks : List Bytes}
    (hchunks : chunks.flatten = b ++ (head ++ rest)) :
    (withBlock k cfg (Reader.new response) chunks).messages = ms
      ∧ (withBlock k cfg (Reader.new response) chunks).error
        = some (refusal k limit (flagOf head)) := by
  obtain ⟨s', hprefix⟩ := readPrefix_refused (k := k) hmax (afterMessages k (start response) ms)
    (b := head) (by omega) hlong
  have hdrain : (parser k cfg).drain (start response) chunks.flatten
      = ⟨ms, s', head ++ rest, some (refusal k limit (flagOf head))⟩ := by
    rw [hchunks, drain_messages hms (head ++ rest) (start response) rfl rfl,
      drain_readPrefix (afterMessages_ended k ms (start response))
        (afterMessages_nextMessageLength k ms (start response)),
      readPrefix_append (by omega), hprefix]
    dsimp only
    rw [Result.prepend, List.append_nil]
  have herror : ((parser k cfg).drain (start response) chunks.flatten).error
      = some (refusal k limit (flagOf head)) := by rw [hdrain]
  have hblock := withBlock_error herror
  rw [hdrain] at hblock
  exact hblock

/-- An envelope that stands for a longer message: its length says so, or what it
    decompresses to is longer. -/
inductive LongEnvelope (limit : Int) (c : Compression) (f : Frame) : Prop where
  | declared (h : limit < (f.payload.length : Int))
  | message (hflag : f.flags &&& 0b01 ≠ 0) (hc : c.isIdentity = false) (hne : f.payload ≠ [])
      (h : Expands limit c f.payload)

/-- **A long message** in an envelope is refused after the messages before it. -/
theorem withBlock_exhausted {c : Compression} (hcontract : Contract limit c) {codec : Codec α}
    {ms : List α} {b rest : Bytes} (hms : Messages ⟨codec, c, some limit⟩ ms b) {f : Frame}
    (hlegal : f.flags &&& ~~~k.flagsMask = 0) (hlong : LongEnvelope limit c f)
    (response : Option (ResponseMetadata p)) {chunks : List Bytes}
    (hchunks : chunks.flatten = b ++ (f.bytes ++ rest)) :
    (withBlock k ⟨codec, c, some limit⟩ (Reader.new response) chunks).messages = ms
      ∧ ∃ e, (withBlock k ⟨codec, c, some limit⟩ (Reader.new response) chunks).error = some e
        ∧ Exhausted e := by
  have he := afterMessages_ended k ms (start response)
  have hn := afterMessages_nextMessageLength k ms (start response)
  have hdrain : ∃ s rest' e, (parser k ⟨codec, c, some limit⟩).drain (start response)
      chunks.flatten = ⟨ms, s, rest', some e⟩ ∧ Exhausted e := by
    rw [hchunks, drain_messages hms (f.bytes ++ rest) (start response) rfl rfl]
    by_cases hlength : limit < (f.payload.length : Int)
    -- The length in the prefix is too large: the payload is never looked at.
    · have hmax : (⟨codec, c, some limit⟩ : ReaderConfig α).readMaxBytes = some limit := rfl
      obtain ⟨s', hprefix⟩ := readPrefix_refused (k := k) hmax
        (afterMessages k (start response) ms) (b := f.bytes ++ rest)
        (by rw [List.length_append, f.bytes_length]; omega) (by rw [lengthOf_bytes]; exact hlength)
      rw [drain_readPrefix he hn, hprefix]
      refine ⟨s', f.bytes ++ rest, messageTooLargeError limit, ?_,
        exhausted_messageTooLarge limit⟩
      rw [refusal, flagOf_bytes, if_neg (not_not.mpr hlegal), Result.prepend, List.append_nil]
    · cases hlong with
      | declared h => exact absurd h hlength
      | message hflag hc hne hexpands =>
          -- The payload is small enough, but not what it decompresses to.
          obtain ⟨e, hd, hexhausted⟩ := hcontract.decompress_exhausted hexpands
          have hcontents : messageContents ⟨codec, c, some limit⟩ f.flags f.payload
              = .error e := by
            rw [messageContents, if_neg hflag]
            dsimp only
            rw [hc, if_neg Bool.false_ne_true, if_neg hne]
            exact hd
          have hframe : handleFrame k ⟨codec, c, some limit⟩
              (afterMessages k (start response) ms) f.flags f.payload
              = .raised (afterMessages k (start response) ms) e := by
            rw [handleFrame, hcontents]
          have hfits : exceeds f.payload.length (some limit) = false := decide_eq_false hlength
          rw [drain_bytes he hn hlegal hfits, hframe]
          exact ⟨_, rest, e, by rw [Result.prepend, List.append_nil], hexhausted⟩
  obtain ⟨s, rest', e, hdrain, hexhausted⟩ := hdrain
  have herror : ((parser k ⟨codec, c, some limit⟩).drain (start response) chunks.flatten).error
      = some e := by rw [hdrain]
  have hblock := withBlock_error herror
  rw [hdrain] at hblock
  exact ⟨hblock.1, e, hblock.2, hexhausted⟩

end Envelopes

/-! ## The limit on every path -/

section Paths

variable (p : Platform) (limit : Int) (codec : Codec α) (compressions : Compressions)

/-- The compressions a reader may be constructed with. -/
def Supported (compressions : Compressions) (c : Compression) : Prop :=
  c = .identity ∨ ∃ name, compressions.get? name = some c

/-- What the codec is asked to decode, path by path. -/
structure AsksWithin : Prop where
  post      : ∀ (events : List Event) (headers : Headers p),
    AsksAtMost (bound limit) codec
      fun c => readPostRequest ⟨c, compressions, some limit⟩ events headers
  wsgiPost  : ∀ environ : Environ,
    AsksAtMost (bound limit) codec
      fun c => handlePostRequest ⟨c, compressions, some limit⟩ environ
  get       : ∀ params : Multimap String String,
    AsksAtMost (bound limit) codec
      fun c => readGetRequest ⟨c, compressions, some limit⟩ params
  wsgiGet   : ∀ params : Multimap String String,
    AsksAtMost (bound limit) codec
      fun c => handleGetRequest ⟨c, compressions, some limit⟩ params
  /-- The request streams of both servers, and a client's reader. -/
  enveloped : ∀ (k : ReaderKind) (compression : Compression), Supported compressions compression →
    ∀ (response : Option (ResponseMetadata p)) (chunks : List Bytes),
      AsksAtMost (bound limit) codec
        fun c => withBlock k ⟨c, compression, some limit⟩ (Reader.new response) chunks
  unary     : ∀ resp : FullResponse p,
    AsksAtMost (bound limit) codec fun c => unaryResponse c compressions (some limit) resp
  /-- The whole of a streaming call. -/
  stream    : ∀ (streamErrorCode : Exc → Option StreamErrorCode) (f : Flavor)
    (protocol : ClientProtocol) (requestCodec : Codec β) (sendCompression : Option Compression)
    (requests : Requests β) (x : Exchange p) (current : Option (ResponseMetadata p)),
    AsksAtMost (bound limit) codec fun c =>
      sendRequestBidiStream streamErrorCode f
        ⟨protocol, requestCodec, c, sendCompression, compressions, some limit⟩ requests x current

/-- How a longer message is answered, path by path. -/
structure RefusesLonger : Prop where
  post      : ∀ {events : List Event} {body : Bytes}, Splits events body →
    ∀ headers : Headers p,
      LongBody limit compressions (orIdentity (headers.get? "content-encoding")) body →
      ∃ e, readPostRequest ⟨codec, compressions, some limit⟩ events headers = some (.error e)
        ∧ Exhausted e
  wsgiPost  : ∀ {environ : Environ} {body : Bytes}, Posted environ body →
    LongBody limit compressions (orIdentity environ.httpContentEncoding) body →
    ∃ e, handlePostRequest ⟨codec, compressions, some limit⟩ environ = .error e ∧ Exhausted e
  declared  : ∀ {environ : Environ} {text : String} {n : Nat},
    environ.contentLength = some text → int text = .ok (n : Int) → bound limit < (n : Int) →
    ∃ e, handlePostRequest ⟨codec, compressions, some limit⟩ environ = .error e ∧ Exhausted e
  get       : ∀ {params : Multimap String String} {message : String} {data : Bytes}
    {c : Compression}, Multimap.first? params "message" = some message →
    messageParameter params message = .ok data → data ≠ [] →
    compressions.get? (orIdentity (Multimap.first? params "compression")) = some c →
    Expands limit c data →
    ∃ e, readGetRequest ⟨codec, compressions, some limit⟩ params = .error e
      ∧ handleGetRequest ⟨codec, compressions, some limit⟩ params = .error e ∧ Exhausted e
  /-- In an envelope, after the messages before it. -/
  enveloped : ∀ (k : ReaderKind) {c : Compression}, Supported compressions c →
    ∀ {ms : List α} {b rest : Bytes} {f : Frame}, Messages ⟨codec, c, some limit⟩ ms b →
    f.flags &&& ~~~k.flagsMask = 0 → LongEnvelope limit c f →
    ∀ (response : Option (ResponseMetadata p)) {chunks : List Bytes},
      chunks.flatten = b ++ (f.bytes ++ rest) →
      (withBlock k ⟨codec, c, some limit⟩ (Reader.new response) chunks).messages = ms
        ∧ ∃ e, (withBlock k ⟨codec, c, some limit⟩ (Reader.new response) chunks).error = some e
          ∧ Exhausted e
  /-- The five bytes of a prefix are enough, whatever follows. -/
  envelope  : ∀ (k : ReaderKind) {c : Compression}, Supported compressions c →
    ∀ {ms : List α} {b head rest : Bytes}, Messages ⟨codec, c, some limit⟩ ms b →
    head.length = 5 → limit < (lengthOf head : Int) →
    ∀ (response : Option (ResponseMetadata p)) {chunks : List Bytes},
      chunks.flatten = b ++ (head ++ rest) →
      (withBlock k ⟨codec, c, some limit⟩ (Reader.new response) chunks).messages = ms
        ∧ (withBlock k ⟨codec, c, some limit⟩ (Reader.new response) chunks).error
          = some (refusal k limit (flagOf head))
  unary     : ∀ {resp : FullResponse p} {c : Compression},
    validateResponse p codec.name resp.status (contentType resp.headers) = .ok () →
    handleResponseCompression .connect false resp.headers compressions = .ok c →
    bound limit < (resp.content.length : Int) →
    ∃ e, unaryResponse codec compressions (some limit) resp = .error e ∧ Exhausted e

end Paths

theorem Contracts.supported {limit : Int} {compressions : Compressions}
    (h : Contracts limit compressions) {c : Compression} (hc : Supported compressions c) :
    Contract limit c := by
  rcases hc with rfl | ⟨name, hget⟩
  · exact contract_identity limit
  · exact h.get hget

/-- **The size limit holds on every path.**  With compressions that keep their
    contract, the codec is only asked to decode data within the limit, and what is
    longer is refused as too large before it is decoded. -/
theorem size_limit (p : Platform) (limit : Int) (codec : Codec α) (compressions : Compressions)
    (h : Contracts limit compressions) :
    AsksWithin (β := β) p limit codec compressions ∧ RefusesLonger p limit codec compressions := by
  constructor
  · exact
      { post := fun events headers => asksAtMost_readPostRequest h codec events headers
        wsgiPost := fun environ => asksAtMost_handlePostRequest h codec environ
        get := fun params => asksAtMost_readGetRequest h codec params
        wsgiGet := fun params => (asksAtMost_readGetRequest h codec params).comp orInternal
        enveloped := fun k compression hc response chunks =>
          asksAtMost_withBlock (h.supported hc) codec response chunks
        unary := fun resp => asksAtMost_unaryResponse codec resp
        stream := fun streamErrorCode f protocol requestCodec sendCompression requests x current =>
          asksAtMost_bidiStream
            ⟨protocol, requestCodec, codec, sendCompression, compressions, some limit⟩
            rfl h streamErrorCode f requests x current }
  · refine
      { post := fun hsplits headers hlong =>
          readPostRequest_exhausted h codec hsplits headers hlong
        wsgiPost := fun hposted hlong => handlePostRequest_exhausted h codec hposted hlong
        declared := fun hlength hint hlt =>
          ⟨_, handlePostRequest_declared codec hlength hint hlt, exhausted_messageTooLarge limit⟩
        get := ?_
        enveloped := fun k _ hc _ _ _ _ hms hlegal hlong response _ hchunks =>
          withBlock_exhausted (h.supported hc) hms hlegal hlong response hchunks
        envelope := fun k _ _ _ _ _ _ hms hhead hlong response _ hchunks =>
          withBlock_prefix rfl hms hhead hlong response hchunks
        unary := fun hvalid hc hlt =>
          ⟨_, unaryResponse_exhausted codec hvalid hc hlt, exhausted_messageTooLarge limit⟩ }
    intro params message data c hmessage hdata hne hc hexpands
    obtain ⟨e, hread, he⟩ := readGetRequest_exhausted h codec hmessage hdata hne hc hexpands
    refine ⟨e, hread, ?_, he⟩
    rw [handleGetRequest, hread]
    exact orInternal_exhausted he

/-- A compression that halves: what it compressed is there twice. -/
def doubling : Compression := .custom
  { name := "double"
    compress := .ok
    decompress := fun data limit =>
      let out := data ++ data
      match tooLarge out.length limit with
      | some e => .error e
      | none => .ok out }

theorem decompress_doubling (data : Bytes) (limit : Option Int) :
    doubling.decompress data limit = match tooLarge (data ++ data).length limit with
      | some e => .error e
      | none => .ok (data ++ data) := rfl

theorem contract_doubling (limit : Int) : Contract limit doubling where
  within := by
    intro data out hout
    rw [decompress_doubling] at hout
    by_cases hlt : limit < ((data ++ data).length : Int)
    · rw [tooLarge, if_pos hlt] at hout
      cases hout
    · rw [tooLarge, if_neg hlt] at hout
      obtain rfl : data ++ data = out := Except.ok.inj hout
      rw [bound]
      omega
  exhausted := by
    rintro data ⟨out, hout, hlt⟩
    obtain rfl : data ++ data = out := Except.ok.inj hout
    refine ⟨messageTooLargeError limit, ?_, exhausted_messageTooLarge limit⟩
    rw [decompress_doubling, exhausted_tooLarge hlt]

/-- That compression, and `identity`. -/
def doubled : Compressions := (Dict.empty.insert "double" doubling).insert "identity" .identity

theorem contracts_doubled (limit : Int) : Contracts limit doubled := by
  intro name c hc
  by_cases hidentity : name = "identity"
  · rw [hidentity, doubled, Dict.get?_insert_self] at hc
    exact nomatch hc
  · rw [doubled, Dict.get?_insert_ne _ (Ne.symm hidentity)] at hc
    by_cases hdouble : name = "double"
    · rw [hdouble, Dict.get?_insert_self] at hc
      exact Option.some.inj hc ▸ contract_doubling limit
    · rw [Dict.get?_insert_ne _ (Ne.symm hdouble)] at hc
      exact nomatch hc

/-- Three bytes, and a compression whose messages are twice as long. -/
theorem size_limit_three :
    AsksWithin (β := Bytes) Platform.plain 3 Codec.raw doubled
      ∧ RefusesLonger Platform.plain 3 Codec.raw doubled :=
  size_limit Platform.plain 3 Codec.raw doubled (contracts_doubled 3)

/-- With a negative limit the WSGI server still decodes an empty body, which is longer
    than the limit. -/
theorem negative_limit_decodes :
    ¬ AsksAtMost (-1) Codec.raw fun c =>
      handlePostRequest ⟨c, (rawServer (some (-1))).compressions, some (-1)⟩
        ⟨none, none, [], fun _ => 0⟩ := by
  intro h
  have hnone : ∀ data : Bytes, (data.length : Int) ≤ -1 →
      (.error (.connect .internal "asked") : Except Exc Bytes) = Codec.raw.decode data := by
    intro data hdata
    omega
  have hread : readPostBody (some (-1)) ⟨none, none, [], fun _ => 0⟩ = .ok [] := by
    rw [readPostBody]
    dsimp only
    rw [readLimited]
    rfl
  have heq := h (fun _ => .error (.connect .internal "asked")) hnone
  beta_reduce at heq
  rw [handlePostRequest, handlePostRequest, hread] at heq
  cases heq

end ConnectSizeLimit
