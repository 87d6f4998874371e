import ConnectPy.EnvelopeReaderProofs

/-! # The grammar of a body — what each reader accepts

    The four framed formats are given here as grammars over bytes: `IsMessage`
    is one message envelope, `Messages` a sequence of them, and a body is such a
    sequence with what its protocol puts at the end (`WellFormed`).  The grammars
    name the codec, the compression and the limit, and nothing of the reader.

    `drain_messages` runs the reader over a sequence of message envelopes;
    `drain_stops` says where it stops on any bytes, and `drain_complete` which
    envelopes it must have seen when it ended cleanly.  Together they give `readResponse_eq_none_iff`:
    a response is read without an exception exactly when it is well formed. -/

namespace ConnectGrammar

open Utf8 (Bytes)
open Framing Resumable OrderedDict
open ConnectErrors ConnectPlatform ConnectHeaders ConnectWireErrors ConnectGrpcStatus
open ConnectEnvelope

variable {p : Platform} {α : Type}

/-! ## Grammars -/

/-- The payload of a frame, seen through the compression of the stream. -/
inductive Carries (cfg : ReaderConfig α) (f : Frame) : Bytes → Prop where
  | plain : f.flags &&& 0b01 = 0 → Carries cfg f f.payload
  | empty : f.flags &&& 0b01 ≠ 0 → cfg.compression.isIdentity = false → f.payload = [] →
      Carries cfg f []
  | compressed {data : Bytes} : f.flags &&& 0b01 ≠ 0 → cfg.compression.isIdentity = false →
      f.payload ≠ [] → cfg.compression.decompress f.payload cfg.readMaxBytes = .ok data →
      Carries cfg f data

/-- A message envelope: flag 0 or 1, a payload within the limit, and contents
    that decode. -/
structure IsMessage (cfg : ReaderConfig α) (f : Frame) (m : α) : Prop where
  flags   : f.flags = 0 ∨ f.flags = 1
  fits    : exceeds f.payload.length cfg.readMaxBytes = false
  decodes : ∃ data, Carries cfg f data ∧ cfg.codec.decode data = .ok m

/-- Zero or more message envelopes. -/
inductive Messages (cfg : ReaderConfig α) : List α → Bytes → Prop where
  | nil : Messages cfg [] []
  | cons {f : Frame} {m : α} {ms : List α} {b : Bytes} :
      IsMessage cfg f m → Messages cfg ms b → Messages cfg (m :: ms) (f.bytes ++ b)

/-- The end-of-stream envelope of a Connect stream: a JSON object without a
    truthy `error`. -/
structure IsConnectEnd (p : Platform) (cfg : ReaderConfig α) (f : Frame) : Prop where
  flags  : f.flags = 2 ∨ f.flags = 3
  fits   : exceeds f.payload.length cfg.readMaxBytes = false
  object : ∃ data entries, Carries cfg f data ∧ p.jsonLoads data = .ok (.obj entries)
    ∧ ((Json.field "error" entries).getD .null).truthy = false

/-- The trailer envelope of a gRPC-Web stream and the trailers in its lines. -/
structure IsTrailers (p : Platform) (cfg : ReaderConfig α) (f : Frame)
    (trailers : p.HTTPHeaders) : Prop where
  flags : f.flags = 0x80 ∨ f.flags = 0x81
  fits  : exceeds f.payload.length cfg.readMaxBytes = false
  lines : ∃ data, Carries cfg f data
    ∧ addTrailerLines p.emptyHeaders (Utf8.splitCrLf data) = (trailers, none)

/-- The status that says a call succeeded. -/
def StatusOk (trailers : p.HTTPHeaders) : Prop := p.getHeader trailers "grpc-status" = some "0"

/-- The bodies and trailers of a successful response, for each reader. -/
def WellFormed (k : ReaderKind) (cfg : ReaderConfig α) (response : Response p) (b : Bytes) :
    Prop :=
  match k with
  | .server => ∃ ms, Messages cfg ms b
  | .connect => ∃ ms body f, Messages cfg ms body ∧ IsConnectEnd p cfg f ∧ b = body ++ f.bytes
  | .grpc => ∃ ms, Messages cfg ms b
      ∧ (StatusOk response.trailers
        ∨ (b = [] ∧ p.getHeader response.trailers "grpc-status" = none
          ∧ StatusOk response.headers))
  | .grpcWeb =>
      (∃ ms body f trailers, Messages cfg ms body ∧ IsTrailers p cfg f trailers
        ∧ StatusOk trailers ∧ b = body ++ f.bytes)
      ∨ (b = [] ∧ StatusOk response.headers)

/-! ## Contents -/

theorem messageContents_iff (cfg : ReaderConfig α) (f : Frame) (data : Bytes) :
    messageContents cfg f.flags f.payload = .ok data ↔ Carries cfg f data := by
  constructor
  · intro h
    rw [messageContents] at h
    split at h
    · next hflag =>
        injection h with h
        exact h ▸ Carries.plain hflag
    · next hflag =>
        split at h
        · cases h
        · next hid =>
            have hid' := Bool.eq_false_iff.mpr hid
            split at h
            · next hempty =>
                injection h with h
                rw [← h, hempty]
                exact Carries.empty hflag hid' hempty
            · next hne =>
                refine Carries.compressed hflag hid' hne ?_
                -- What fails to decompress is an error of one kind or another.
                rw [decompress] at h
                split at h
                · next out hd =>
                    injection h with h
                    exact h ▸ hd
                · split at h
                  · cases h
                  · split at h <;> cases h
  · intro h
    cases h with
    | plain hflag => rw [messageContents, if_pos hflag]
    | empty hflag hid hempty =>
        rw [messageContents, if_neg hflag, hid, if_neg Bool.false_ne_true, if_pos hempty, hempty]
    | compressed hflag hid hne hd =>
        rw [messageContents, if_neg hflag, hid, if_neg Bool.false_ne_true, if_neg hne]
        exact decompress_ok hd

theorem decodeMessage_iff (codec : Codec α) (data : Bytes) (m : α) :
    decodeMessage codec data = .ok m ↔ codec.decode data = .ok m := by
  constructor
  · intro h
    rw [decodeMessage] at h
    split at h
    · next m' hd =>
        injection h with h
        exact h ▸ hd
    · split at h
      · cases h
      · split at h <;> cases h
  · exact decodeMessage_ok

/-! ## Flags -/

/-- The bit that marks an end message. -/
def endBit : ReaderKind → UInt8
  | .server => 0
  | .connect => 0b10
  | .grpc => 0
  | .grpcWeb => 0b10000000

theorem forall_byte {P : UInt8 → Prop} (h : ∀ n < 256, P (UInt8.ofNat n)) (b : UInt8) : P b := by
  have hb := h b.toNat (UInt8.toNat_lt b)
  rwa [UInt8.ofNat_toNat] at hb

/-- The flags of a message, for every reader. -/
theorem messageFlags_iff (k : ReaderKind) (b : UInt8) :
    (b &&& ~~~k.flagsMask = 0 ∧ b &&& endBit k = 0) ↔ b = 0 ∨ b = 1 := by
  refine forall_byte (P := fun b => (b &&& ~~~k.flagsMask = 0 ∧ b &&& endBit k = 0)
    ↔ b = 0 ∨ b = 1) ?_ b
  cases k <;> decide +kernel

theorem connectEndFlags_iff (b : UInt8) :
    (b &&& ~~~ReaderKind.connect.flagsMask = 0 ∧ b &&& 0b10 ≠ 0) ↔ b = 2 ∨ b = 3 := by
  refine forall_byte (P := fun b => (b &&& ~~~ReaderKind.connect.flagsMask = 0 ∧ b &&& 0b10 ≠ 0)
    ↔ b = 2 ∨ b = 3) ?_ b
  decide +kernel

theorem trailerFlags_iff (b : UInt8) :
    (b &&& ~~~ReaderKind.grpcWeb.flagsMask = 0 ∧ b &&& 0b10000000 ≠ 0) ↔ b = 0x80 ∨ b = 0x81 := by
  refine forall_byte (P := fun b =>
    (b &&& ~~~ReaderKind.grpcWeb.flagsMask = 0 ∧ b &&& 0b10000000 ≠ 0)
    ↔ b = 0x80 ∨ b = 0x81) ?_ b
  decide +kernel

/-! ## Messages -/

/-- The state after a message: the gRPC readers remember that there was one. -/
def afterMessage (k : ReaderKind) (s : ReaderState p) : ReaderState p :=
  match k with
  | .server => s
  | .connect => s
  | .grpc => { s with readMessage := true }
  | .grpcWeb => { s with readMessage := true }

/-- The state after a sequence of messages. -/
def afterMessages (k : ReaderKind) (s : ReaderState p) (ms : List α) : ReaderState p :=
  ms.foldl (fun s _ => afterMessage k s) s

@[simp] theorem afterMessage_ended (k : ReaderKind) (s : ReaderState p) :
    (afterMessage k s).ended = s.ended := by
  cases k <;> rfl

@[simp] theorem afterMessage_nextMessageLength (k : ReaderKind) (s : ReaderState p) :
    (afterMessage k s).nextMessageLength = s.nextMessageLength := by
  cases k <;> rfl

@[simp] theorem afterMessage_trailers (k : ReaderKind) (s : ReaderState p) :
    (afterMessage k s).trailers = s.trailers := by
  cases k <;> rfl

@[simp] theorem afterMessage_response (k : ReaderKind) (s : ReaderState p) :
    (afterMessage k s).response = s.response := by
  cases k <;> rfl

/-- A message is no end message. -/
theorem handleEndMessage_message {k : ReaderKind} {s : ReaderState p} {b : UInt8}
    (h : b &&& endBit k = 0) (data : Bytes) :
    handleEndMessage k s b data = (afterMessage k s, .ok false) := by
  cases k with
  | server => rfl
  | grpc => rfl
  | connect =>
      rw [handleEndMessage, handleConnectEnd]
      exact if_pos h
  | grpcWeb =>
      rw [handleEndMessage, handleWebEnd]
      exact if_pos h

/-- With the end bit set a message is handled as the end, or raises. -/
theorem handleEndMessage_end {k : ReaderKind} {s s' : ReaderState p} {b : UInt8} {data : Bytes}
    (h : b &&& endBit k ≠ 0) : handleEndMessage k s b data ≠ (s', .ok false) := by
  have hk : ∀ x : UInt8, x &&& 0 = 0 := fun x => UInt8.and_zero
  cases k with
  | server => exact absurd (hk b) h
  | grpc => exact absurd (hk b) h
  | connect =>
      have h' : b &&& 0b10 ≠ 0 := h
      rw [handleEndMessage, handleConnectEnd, if_neg h']
      split
      · rintro ⟨⟩
      · dsimp only
        split
        · rintro ⟨⟩
        · split
          · split <;> rintro ⟨⟩
          · rintro ⟨⟩
      · rintro ⟨⟩
  | grpcWeb =>
      have h' : b &&& 0b10000000 ≠ 0 := h
      rw [handleEndMessage, handleWebEnd]
      dsimp only
      rw [if_neg h']
      split <;> rintro ⟨⟩

/-- **One message envelope**, read by any of the four readers. -/
theorem handleFrame_isMessage {k : ReaderKind} {cfg : ReaderConfig α} {f : Frame} {m : α}
    (h : IsMessage cfg f m) (s : ReaderState p) :
    handleFrame k cfg s f.flags f.payload = .message (afterMessage k s) m := by
  obtain ⟨data, hcarries, hdecode⟩ := h.decodes
  have hflags := (messageFlags_iff k f.flags).mpr h.flags
  rw [handleFrame, (messageContents_iff cfg f data).mpr hcarries]
  dsimp only
  rw [handleEndMessage_message hflags.2]
  dsimp only
  rw [(decodeMessage_iff cfg.codec data m).mpr hdecode]

/-- **Conversely**, a frame that is taken for a message is a message envelope. -/
theorem isMessage_of_handleFrame {k : ReaderKind} {cfg : ReaderConfig α} {f : Frame} {m : α}
    {s s' : ReaderState p} (hlegal : f.flags &&& ~~~k.flagsMask = 0)
    (hfits : exceeds f.payload.length cfg.readMaxBytes = false)
    (h : handleFrame k cfg s f.flags f.payload = .message s' m) :
    IsMessage cfg f m ∧ s' = afterMessage k s := by
  rcases handleFrame_cases k cfg s f.flags f.payload with
    ⟨e, _, hr⟩ | ⟨plain, t, hc, ⟨e, _, hr⟩ | ⟨_, hr⟩ | ⟨ht, ⟨e, _, hr⟩ | ⟨m', hd, hr⟩⟩⟩
  · rw [hr] at h; exact nomatch h
  · rw [hr] at h; exact nomatch h
  · rw [hr] at h; exact nomatch h
  · rw [hr] at h; exact nomatch h
  · rw [hr] at h
    injection h with h1 h2
    subst h1; subst h2
    have hend : f.flags &&& endBit k = 0 := by
      by_contra hne
      exact handleEndMessage_end hne ht
    rw [handleEndMessage_message hend] at ht
    refine ⟨⟨(messageFlags_iff k f.flags).mp ⟨hlegal, hend⟩, hfits, plain,
      (messageContents_iff cfg f plain).mp hc, (decodeMessage_iff _ _ _).mp hd⟩, ?_⟩
    exact (congrArg Prod.fst ht).symm

/-! ## End messages -/

theorem handleFrame_ended_iff {k : ReaderKind} {cfg : ReaderConfig α} {s s' : ReaderState p}
    {f : Frame} :
    handleFrame k cfg s f.flags f.payload = .ended s' ↔
      ∃ data t, Carries cfg f data ∧ handleEndMessage k s f.flags data = (t, .ok true)
        ∧ s' = { t with ended := true } := by
  constructor
  · intro h
    rcases handleFrame_cases k cfg s f.flags f.payload with
      ⟨e, _, hr⟩ | ⟨plain, t, hc, ⟨e, _, hr⟩ | ⟨ht, hr⟩ | ⟨_, ⟨e, _, hr⟩ | ⟨m', _, hr⟩⟩⟩
    · rw [hr] at h; exact nomatch h
    · rw [hr] at h; exact nomatch h
    · rw [hr] at h
      injection h with h
      exact ⟨plain, t, (messageContents_iff cfg f plain).mp hc, ht, h.symm⟩
    · rw [hr] at h; exact nomatch h
    · rw [hr] at h; exact nomatch h
  · rintro ⟨data, t, hc, ht, rfl⟩
    rw [handleFrame, (messageContents_iff cfg f data).mpr hc]
    dsimp only
    rw [ht]

/-- The server and gRPC have no end messages. -/
theorem handleEndMessage_true {k : ReaderKind} {s t : ReaderState p} {b : UInt8} {data : Bytes}
    (h : handleEndMessage k s b data = (t, .ok true)) : b &&& endBit k ≠ 0 := by
  intro hb
  rw [handleEndMessage_message hb] at h
  exact nomatch h

/-- Without ambient metadata, the end of a Connect stream is an object without a
    truthy error. -/
theorem handleConnectEnd_iff {s t : ReaderState p} (hs : s.response = none) {b : UInt8}
    (hb : b &&& 0b10 ≠ 0) (data : Bytes) :
    handleConnectEnd s b data = (t, .ok true) ↔
      t = s ∧ ∃ entries, p.jsonLoads data = .ok (.obj entries)
        ∧ ((Json.field "error" entries).getD .null).truthy = false := by
  rw [handleConnectEnd, if_neg hb]
  cases hj : p.jsonLoads data with
  | error e => exact iff_of_false (by rintro ⟨⟩) (by rintro ⟨-, entries, ⟨⟩, -⟩)
  | ok j =>
      cases j with
      | obj entries =>
          -- Without ambient metadata the trailers of the end message go nowhere.
          have hhandled : (if ((Json.field "metadata" entries).getD .null).truthy = true then
              handleResponseTrailers s.response
                (metadataPairs p ((Json.field "metadata" entries).getD .null))
              else (s.response, none)) = (none, none) := by
            rw [hs]
            split <;> rfl
          have hsame : { s with response := none } = s := by
            rw [← hs]
          dsimp only
          rw [hhandled]
          dsimp only
          rw [hsame]
          constructor
          · intro h
            split at h
            · split at h <;> cases h
            · next hne =>
                injection h with h1 h2
                exact ⟨h1.symm, entries, rfl, Bool.eq_false_iff.mpr hne⟩
          · rintro ⟨rfl, entries', hentries, herror⟩
            injection hentries with hentries
            injection hentries with hentries
            subst hentries
            rw [herror]
            rfl
      | _ => exact iff_of_false (by rintro ⟨⟩) (by rintro ⟨-, entries, ⟨⟩, -⟩)

theorem handleWebEnd_iff {s t : ReaderState p} {b : UInt8} (hb : b &&& 0b10000000 ≠ 0)
    (data : Bytes) :
    handleWebEnd s b data = (t, .ok true) ↔
      ∃ trailers, addTrailerLines s.trailers (Utf8.splitCrLf data) = (trailers, none)
        ∧ t = { s with readMessage := true, trailers := trailers } := by
  rw [handleWebEnd]
  dsimp only
  rw [if_neg hb]
  cases h : addTrailerLines s.trailers (Utf8.splitCrLf data) with
  | mk trailers error =>
      cases error with
      | some e => exact iff_of_false (by rintro ⟨⟩) (by rintro ⟨trailers, ⟨⟩, -⟩)
      | none =>
          constructor
          · intro ht
            injection ht with ht _
            exact ⟨trailers, rfl, ht.symm⟩
          · rintro ⟨trailers', ht, rfl⟩
            injection ht with ht _
            subst ht
            rfl

theorem connectEnd_iff {cfg : ReaderConfig α} {s : ReaderState p} (hs : s.response = none)
    {f : Frame} :
    (f.flags &&& ~~~ReaderKind.connect.flagsMask = 0
        ∧ exceeds f.payload.length cfg.readMaxBytes = false
        ∧ ∃ s', handleFrame .connect cfg s f.flags f.payload = .ended s')
      ↔ IsConnectEnd p cfg f := by
  constructor
  · rintro ⟨hlegal, hfits, s', h⟩
    obtain ⟨data, t, hc, ht, _⟩ := handleFrame_ended_iff.mp h
    have hbit : f.flags &&& 0b10 ≠ 0 := handleEndMessage_true ht
    obtain ⟨_, entries, hj, herror⟩ := (handleConnectEnd_iff hs hbit data).mp ht
    exact ⟨(connectEndFlags_iff _).mp ⟨hlegal, hbit⟩, hfits, data, entries, hc, hj, herror⟩
  · intro h
    obtain ⟨hlegal, hbit⟩ := (connectEndFlags_iff _).mpr h.flags
    obtain ⟨data, entries, hc, hj, herror⟩ := h.object
    exact ⟨hlegal, h.fits, _, handleFrame_ended_iff.mpr
      ⟨data, s, hc, (handleConnectEnd_iff hs hbit data).mpr ⟨rfl, entries, hj, herror⟩, rfl⟩⟩

theorem trailers_iff {cfg : ReaderConfig α} {s s' : ReaderState p}
    (hs : s.trailers = p.emptyHeaders) {f : Frame} :
    (f.flags &&& ~~~ReaderKind.grpcWeb.flagsMask = 0
        ∧ exceeds f.payload.length cfg.readMaxBytes = false
        ∧ handleFrame .grpcWeb cfg s f.flags f.payload = .ended s')
      ↔ ∃ trailers, IsTrailers p cfg f trailers
          ∧ s' = { s with ended := true, readMessage := true, trailers := trailers } := by
  constructor
  · rintro ⟨hlegal, hfits, h⟩
    obtain ⟨data, t, hc, ht, rfl⟩ := handleFrame_ended_iff.mp h
    have hbit : f.flags &&& 0b10000000 ≠ 0 := handleEndMessage_true ht
    obtain ⟨trailers, hadd, rfl⟩ := (handleWebEnd_iff hbit data).mp ht
    rw [hs] at hadd
    exact ⟨trailers, ⟨(trailerFlags_iff _).mp ⟨hlegal, hbit⟩, hfits, data, hc, hadd⟩, rfl⟩
  · rintro ⟨trailers, h, rfl⟩
    obtain ⟨hlegal, hbit⟩ := (trailerFlags_iff _).mpr h.flags
    obtain ⟨data, hc, hadd⟩ := h.lines
    rw [← hs] at hadd
    exact ⟨hlegal, h.fits, handleFrame_ended_iff.mpr
      ⟨data, _, hc, (handleWebEnd_iff hbit data).mpr ⟨trailers, hadd, rfl⟩, rfl⟩⟩

/-! ## Whole bodies -/

theorem afterMessages_ended (k : ReaderKind) (ms : List α) (s : ReaderState p) :
    (afterMessages k s ms).ended = s.ended := by
  induction ms generalizing s with
  | nil => rfl
  | cons m ms ih =>
      show (afterMessages k (afterMessage k s) ms).ended = s.ended
      rw [ih, afterMessage_ended]

theorem afterMessages_nextMessageLength (k : ReaderKind) (ms : List α) (s : ReaderState p) :
    (afterMessages k s ms).nextMessageLength = s.nextMessageLength := by
  induction ms generalizing s with
  | nil => rfl
  | cons m ms ih =>
      show (afterMessages k (afterMessage k s) ms).nextMessageLength = s.nextMessageLength
      rw [ih, afterMessage_nextMessageLength]

theorem afterMessages_trailers (k : ReaderKind) (ms : List α) (s : ReaderState p) :
    (afterMessages k s ms).trailers = s.trailers := by
  induction ms generalizing s with
  | nil => rfl
  | cons m ms ih =>
      show (afterMessages k (afterMessage k s) ms).trailers = s.trailers
      rw [ih, afterMessage_trailers]

theorem afterMessages_response (k : ReaderKind) (ms : List α) (s : ReaderState p) :
    (afterMessages k s ms).response = s.response := by
  induction ms generalizing s with
  | nil => rfl
  | cons m ms ih =>
      show (afterMessages k (afterMessage k s) ms).response = s.response
      rw [ih, afterMessage_response]

/-- The gRPC readers know after the messages whether there was one. -/
theorem afterMessages_readMessage {k : ReaderKind} (hk : k = .grpc ∨ k = .grpcWeb)
    (ms : List α) (s : ReaderState p) :
    (afterMessages k s ms).readMessage = (s.readMessage || !ms.isEmpty) := by
  induction ms generalizing s with
  | nil =>
      show s.readMessage = (s.readMessage || false)
      rw [Bool.or_false]
  | cons m ms ih =>
      show (afterMessages k (afterMessage k s) ms).readMessage = _
      rw [ih]
      have htrue : (afterMessage k s).readMessage = true := by
        rcases hk with rfl | rfl <;> rfl
      rw [htrue]
      simp

/-- **Reading messages.**  A sequence of message envelopes is yielded, and the
    reader goes on with what follows it. -/
theorem drain_messages {k : ReaderKind} {cfg : ReaderConfig α} {ms : List α} {b : Bytes}
    (h : Messages cfg ms b) (x : Bytes) :
    ∀ s : ReaderState p, s.ended = false → s.nextMessageLength = none →
      (parser k cfg).drain s (b ++ x)
        = ((parser k cfg).drain (afterMessages k s ms) x).prepend ms := by
  induction h with
  | nil => intro s _ _; rfl
  | @cons f m ms b hm _ ih =>
      intro s he hn
      have hlegal := ((messageFlags_iff k f.flags).mpr hm.flags).1
      rw [List.append_assoc, drain_bytes he hn hlegal hm.fits, handleFrame_isMessage hm]
      dsimp only
      rw [ih (afterMessage k s) (by rw [afterMessage_ended]; exact he)
        (by rw [afterMessage_nextMessageLength]; exact hn), Result.prepend_prepend]
      rfl

/-- Where a reader that expects a frame stops without a message: it waits for more,
    it has seen the end, or it raises. -/
inductive Stops (k : ReaderKind) (cfg : ReaderConfig α) (s : ReaderState p) :
    Bytes → Result UInt8 (ReaderState p) Exc α → Prop where
  | short {b : Bytes} : b.length < 5 → Stops k cfg s b ⟨[], s, b, none⟩
  | cut {b : Bytes} : 5 ≤ b.length → flagOf b &&& ~~~k.flagsMask = 0 →
      exceeds (lengthOf b) cfg.readMaxBytes = false → b.length < lengthOf b + 5 →
      Stops k cfg s b ⟨[], { s with nextMessageLength := some (lengthOf b) }, b, none⟩
  | refused {b : Bytes} {s' : ReaderState p} {e : Exc} : readPrefix k cfg s b = .raised s' e →
      Stops k cfg s b ⟨[], s', b, some e⟩
  | ended {f : Frame} {rest : Bytes} {s' : ReaderState p} : f.flags &&& ~~~k.flagsMask = 0 →
      exceeds f.payload.length cfg.readMaxBytes = false →
      handleFrame k cfg s f.flags f.payload = .ended s' →
      Stops k cfg s (f.bytes ++ rest) ⟨[], s', rest, none⟩
  | raised {f : Frame} {rest : Bytes} {s' : ReaderState p} {e : Exc} :
      f.flags &&& ~~~k.flagsMask = 0 → exceeds f.payload.length cfg.readMaxBytes = false →
      handleFrame k cfg s f.flags f.payload = .raised s' e →
      Stops k cfg s (f.bytes ++ rest) ⟨[], s', rest, some e⟩

/-- One step of reading: a message envelope is at the front, or the reader stops. -/
theorem drain_step (k : ReaderKind) (cfg : ReaderConfig α) {s : ReaderState p}
    (he : s.ended = false) (hn : s.nextMessageLength = none) (b : Bytes) :
    Stops k cfg s b ((parser k cfg).drain s b)
      ∨ ∃ f m rest, b = Frame.bytes f ++ rest ∧ IsMessage cfg f m
        ∧ (parser k cfg).drain s b
          = ((parser k cfg).drain (afterMessage k s) rest).prepend [m] := by
  have hread : (parser k cfg).drain s b = _ := drain_readPrefix he hn b
  cases hp : readPrefix k cfg s b with
  | incomplete =>
      rw [hp] at hread
      rw [hread]
      -- A prefix with five bytes would not be incomplete.
      refine Or.inl (.short (Nat.lt_of_not_le fun h5 => ?_))
      rw [readPrefix, if_neg (Nat.not_lt_of_le h5)] at hp
      split at hp
      · cases hp
      · split at hp
        · cases hp
        · dsimp only at hp
          split at hp <;> cases hp
  | raised s' e =>
      rw [hp] at hread
      rw [hread]
      exact Or.inl (.refused hp)
  | promised s' =>
      obtain ⟨h5, hflags, hfits, rfl⟩ := readPrefix_promised hp
      rw [hp] at hread
      dsimp only at hread
      by_cases hlt : b.length < lengthOf b + 5
      · -- The payload is cut short, so the length stays pending.
        have hw : (parser k cfg).move { s with nextMessageLength := some (lengthOf b) } b
            = .wait :=
          move_short (s := { s with nextMessageLength := some (lengthOf b) }) he rfl hlt
        rw [hread, Parser.drain_wait _ hw]
        exact Or.inl (.cut h5 hflags hfits hlt)
      -- A whole frame is at the front, and its handler decides.
      · obtain ⟨f, rest, rfl, hf, hlen⟩ := exists_frame h5 (Nat.le_of_not_lt hlt)
        rw [← hf] at hflags
        rw [← hlen] at hfits
        have hdrain := drain_bytes he hn hflags hfits rest
        cases hframe : handleFrame k cfg s f.flags f.payload with
        | raised s' e =>
            rw [hdrain, hframe]
            exact Or.inl (.raised hflags hfits hframe)
        | ended s' =>
            rw [hdrain, hframe]
            exact Or.inl (.ended hflags hfits hframe)
        | message s' m =>
            obtain ⟨hm, rfl⟩ := isMessage_of_handleFrame hflags hfits hframe
            rw [hframe] at hdrain
            exact Or.inr ⟨f, m, rest, rfl, hm, hdrain⟩

/-- **Reading any bytes.**  By induction on the buffer: the reader passes message
    envelopes, and stops. -/
theorem drain_stops (k : ReaderKind) (cfg : ReaderConfig α) (n : Nat) :
    ∀ (b : Bytes) (s : ReaderState p), b.length ≤ n → s.ended = false →
      s.nextMessageLength = none →
      ∃ ms body tail r, Messages cfg ms body ∧ b = body ++ tail
        ∧ Stops k cfg (afterMessages k s ms) tail r
        ∧ (parser k cfg).drain s b = r.prepend ms := by
  induction n with
  | zero =>
      intro b s hb he hn
      obtain rfl := List.length_eq_zero_iff.mp (Nat.le_zero.mp hb)
      refine ⟨[], [], [], _, .nil, rfl, .short (by decide), ?_⟩
      rw [Parser.drain_wait _ (move_nil s)]
      rfl
  | succ n ih =>
      intro b s hb he hn
      rcases drain_step k cfg he hn b with hstops | ⟨f, m, rest, rfl, hm, hdrain⟩
      · exact ⟨[], [], b, _, .nil, rfl, hstops, rfl⟩
      · have hlen : rest.length ≤ n := by
          rw [List.length_append, f.bytes_length] at hb
          omega
        obtain ⟨ms, body, tail, r, hms, rfl, hstops, hrest⟩ := ih rest (afterMessage k s) hlen
          (by rw [afterMessage_ended]; exact he)
          (by rw [afterMessage_nextMessageLength]; exact hn)
        refine ⟨m :: ms, f.bytes ++ body, tail, r, .cons hm hms,
          (List.append_assoc _ _ _).symm, hstops, ?_⟩
        rw [hdrain, hrest, Result.prepend_prepend]
        rfl

/-- What a reader has seen when it ended cleanly: messages only, or messages and
    one frame that it took for the end. -/
def Seen (k : ReaderKind) (cfg : ReaderConfig α) (s : ReaderState p) (b : Bytes) : Prop :=
  ∃ ms body, Messages cfg ms body ∧
    ((b = body ∧ (parser k cfg).drain s b = ⟨ms, afterMessages k s ms, [], none⟩)
    ∨ ∃ f s', b = body ++ Frame.bytes f ∧ f.flags &&& ~~~k.flagsMask = 0
        ∧ exceeds f.payload.length cfg.readMaxBytes = false
        ∧ handleFrame k cfg (afterMessages k s ms) f.flags f.payload = .ended s'
        ∧ (parser k cfg).drain s b = ⟨ms, s', [], none⟩)

/-- **Completeness of the reader.**  A reader that ended cleanly stopped at the end
    of its buffer. -/
theorem drain_complete (k : ReaderKind) (cfg : ReaderConfig α) {b : Bytes} {s : ReaderState p}
    (he : s.ended = false) (hn : s.nextMessageLength = none)
    (herror : ((parser k cfg).drain s b).error = none)
    (hended : checkEnded k ⟨((parser k cfg).drain s b).state, ((parser k cfg).drain s b).rest⟩
      = none) :
    Seen k cfg s b := by
  obtain ⟨ms, body, tail, r, hms, rfl, hstops, hdrain⟩ :=
    drain_stops k cfg b.length b s (Nat.le_refl _) he hn
  have he' := (afterMessages_ended k ms s).trans he
  refine ⟨ms, body, hms, ?_⟩
  rw [hdrain] at herror hended ⊢
  rw [Result.prepend_state, Result.prepend_rest, checkEnded] at hended
  cases hstops with
  | short h5 =>
      rw [if_neg (by rw [he']; exact Bool.false_ne_true)] at hended
      dsimp only at hended
      rw [afterMessages_nextMessageLength, hn] at hended
      have htail : tail = [] := by
        by_contra hne
        cases (if_pos hne).symm.trans hended
      subst htail
      refine Or.inl ⟨List.append_nil body, ?_⟩
      rw [Result.prepend, List.append_nil ms]
  | cut h5 hflags hfits hlt =>
      rw [if_neg (by rw [he']; exact Bool.false_ne_true)] at hended
      cases hended
  | refused hp => cases herror
  | raised hflags hfits hframe => cases herror
  | @ended f rest s' hflags hfits hframe =>
      obtain ⟨_, t, _, _, ht⟩ := handleFrame_ended_iff.mp hframe
      -- Nothing may follow the end message.
      have hrest : rest = [] := by
        by_contra hne
        rw [if_pos (show s'.ended = true by rw [ht]), if_pos hne] at hended
        cases hended
      subst hrest
      refine Or.inr ⟨f, s', by rw [List.append_nil], hflags, hfits, hframe, ?_⟩
      rw [Result.prepend, List.append_nil ms]

/-! ## The end of a response -/

/-- Reading the status of some trailers succeeds when it is "0". -/
theorem readStatus_eq_none_iff {r : Reader p} (hr : r.response = none) (t : p.HTTPHeaders) :
    (readStatus r t none).2 = none ↔ StatusOk t := by
  rw [readStatus, hr, handleResponseTrailers_none, StatusOk]
  dsimp only
  cases hs : p.getHeader t "grpc-status" with
  | none => exact ⟨nofun, nofun⟩
  | some status =>
      dsimp only
      by_cases hz : status = "0"
      · subst hz
        rw [raiseStatus_zero]
        exact ⟨fun _ => rfl, fun _ => rfl⟩
      · obtain ⟨e, he⟩ := raiseStatus_ne_zero t hz none
        rw [he]
        exact ⟨nofun, fun h => absurd (Option.some.inj h) hz⟩

theorem handleGrpcComplete_eq_none_iff {r : Reader p} (hr : r.response = none)
    (t h : p.HTTPHeaders) :
    (handleGrpcComplete r t h none).2 = none ↔
      StatusOk t ∨ (p.getHeader t "grpc-status" = none ∧ r.readMessage = false ∧ StatusOk h) := by
  rw [handleGrpcComplete]
  cases hs : p.getHeader t "grpc-status" with
  | some status =>
      refine (readStatus_eq_none_iff hr t).trans ⟨Or.inl, ?_⟩
      rintro (hok | ⟨hnone, -⟩)
      · exact hok
      · exact nomatch hnone
  | none =>
      have hnot : ¬ StatusOk t := by
        rw [StatusOk, hs]
        exact nofun
      cases hm : r.readMessage with
      | true =>
          refine ⟨nofun, ?_⟩
          rintro (hok | ⟨-, hfalse, -⟩)
          · exact absurd hok hnot
          · exact nomatch hfalse
      | false =>
          refine (readStatus_eq_none_iff hr h).trans ⟨fun hok => Or.inr ⟨rfl, rfl, hok⟩, ?_⟩
          rintro (hok | ⟨-, -, hok⟩)
          · exact absurd hok hnot
          · exact hok

/-- A response is read cleanly when each of its three parts is. -/
theorem readResponse_single (k : ReaderKind) (cfg : ReaderConfig α) (r : Reader p)
    (response : Response p) (b : Bytes) (d : Result UInt8 (ReaderState p) Exc α)
    (hd : (parser k cfg).drain r.toReaderState (r.buffer ++ b) = d) :
    (readResponse k cfg r response [b]).error = none ↔
      d.error = none ∧ checkEnded k ⟨d.state, d.rest⟩ = none
        ∧ (handleResponseComplete k ⟨d.state, d.rest⟩ response none).2 = none := by
  have hfeed : feedAll k cfg r [b] = ofResult d := by
    rw [feedAll_singleton, ← hd]
    exact readMessages_eq_drain _
  rw [readResponse, withBlock, hfeed, ofResult]
  cases he : d.error with
  | some e => exact iff_of_false (by rintro ⟨⟩) (by rintro ⟨⟨⟩, -⟩)
  | none =>
      dsimp only
      cases hc : checkEnded k ⟨d.state, d.rest⟩ with
      | some e => exact iff_of_false (by rintro ⟨⟩) (by rintro ⟨-, ⟨⟩, -⟩)
      | none => exact ⟨fun h => ⟨rfl, rfl, h⟩, fun h => h.2.2⟩

theorem checkEnded_clean {k : ReaderKind} {s : ReaderState p}
    (h : s.ended = true ∨ s.nextMessageLength = none) : checkEnded k ⟨s, []⟩ = none := by
  rw [checkEnded]
  by_cases he : s.ended = true
  · rw [if_pos he]
    exact if_neg (by simp)
  · have hn := h.resolve_left he
    rw [if_neg he]
    dsimp only
    rw [hn]
    exact if_neg (by simp)

/-- The reader before its first byte. -/
abbrev start (response : Option (ResponseMetadata p)) : ReaderState p :=
  (Reader.new response).toReaderState

/-- Reading a sequence of messages up to the end of the body. -/
theorem drain_start_messages {k : ReaderKind} {cfg : ReaderConfig α} {ms : List α} {b : Bytes}
    (h : Messages cfg ms b) (response : Option (ResponseMetadata p)) :
    (parser k cfg).drain (start response) b
      = ⟨ms, afterMessages k (start response) ms, [], none⟩ := by
  have hd := drain_messages (k := k) h [] (start response) rfl rfl
  have hwait : (parser k cfg).drain (afterMessages k (start response) ms) []
      = ⟨[], afterMessages k (start response) ms, [], none⟩ := Parser.drain_wait _ (move_nil _)
  rw [List.append_nil, hwait] at hd
  rw [hd, Result.prepend, List.append_nil]

/-- Reading a sequence of messages and one more frame, whatever follows it. -/
theorem drain_start_bytes {k : ReaderKind} {cfg : ReaderConfig α} {ms : List α} {b : Bytes}
    (h : Messages cfg ms b) {f : Frame} (hlegal : f.flags &&& ~~~k.flagsMask = 0)
    (hfits : exceeds f.payload.length cfg.readMaxBytes = false) (rest : Bytes)
    (response : Option (ResponseMetadata p)) :
    (parser k cfg).drain (start response) (b ++ (f.bytes ++ rest)) =
      match handleFrame k cfg (afterMessages k (start response) ms) f.flags f.payload with
      | .raised s e => ⟨ms, s, rest, some e⟩
      | .ended s => ⟨ms, s, rest, none⟩
      | .message s res => ((parser k cfg).drain s rest).prepend (ms ++ [res]) := by
  rw [drain_messages (k := k) h (f.bytes ++ rest) (start response) rfl rfl,
    drain_bytes (k := k) (afterMessages_ended k ms (start response))
      (afterMessages_nextMessageLength k ms (start response)) hlegal hfits rest]
  cases handleFrame k cfg (afterMessages k (start response) ms) f.flags f.payload with
  | raised s e => rw [Result.prepend, List.append_nil]
  | ended s => rw [Result.prepend, List.append_nil]
  | message s m => exact Result.prepend_prepend _ _ _

/-- Reading a sequence of messages and one more frame. -/
theorem drain_start_frame {k : ReaderKind} {cfg : ReaderConfig α} {ms : List α} {b : Bytes}
    (h : Messages cfg ms b) {f : Frame} (hlegal : f.flags &&& ~~~k.flagsMask = 0)
    (hfits : exceeds f.payload.length cfg.readMaxBytes = false)
    (response : Option (ResponseMetadata p)) :
    (parser k cfg).drain (start response) (b ++ f.bytes) =
      match handleFrame k cfg (afterMessages k (start response) ms) f.flags f.payload with
      | .raised s e => ⟨ms, s, [], some e⟩
      | .ended s => ⟨ms, s, [], none⟩
      | .message s res => ⟨ms ++ [res], s, [], none⟩ := by
  have hd := drain_start_bytes h hlegal hfits [] response
  rw [List.append_nil] at hd
  rw [hd]
  cases handleFrame k cfg (afterMessages k (start response) ms) f.flags f.payload with
  | raised s e => rfl
  | ended s => rfl
  | message s m =>
      dsimp only
      rw [show (parser k cfg).drain s [] = ⟨[], s, [], none⟩ from
        Parser.drain_wait _ (move_nil s), Result.prepend, List.append_nil]

/-- Reading a sequence of messages and the frame that ends the stream. -/
theorem drain_start_end {k : ReaderKind} {cfg : ReaderConfig α} {ms : List α} {b : Bytes}
    {response : Option (ResponseMetadata p)} (h : Messages cfg ms b) {f : Frame}
    {s' : ReaderState p}
    (hlegal : f.flags &&& ~~~k.flagsMask = 0)
    (hfits : exceeds f.payload.length cfg.readMaxBytes = false)
    (hf : handleFrame k cfg (afterMessages k (start response) ms) f.flags f.payload = .ended s') :
    (parser k cfg).drain (start response) (b ++ f.bytes) = ⟨ms, s', [], none⟩ := by
  rw [drain_start_frame h hlegal hfits, hf]

/-- Feeding any chunks to a new reader is one drain of their concatenation. -/
theorem feedAll_drain (k : ReaderKind) (cfg : ReaderConfig α)
    (response : Option (ResponseMetadata p)) {chunks : List Bytes}
    {r : Result UInt8 (ReaderState p) Exc α}
    (hd : (parser k cfg).drain (start response) chunks.flatten = r) :
    (feedAll k cfg (Reader.new response) chunks).messages = r.outs
      ∧ (feedAll k cfg (Reader.new response) chunks).error = r.error
      ∧ (r.error = none →
        (feedAll k cfg (Reader.new response) chunks).reader = ⟨r.state, r.rest⟩) := by
  subst hd
  obtain ⟨houts, herror, hstate, hrest⟩ :=
    (parser k cfg).run_eq_drain chunks (start response) [] (parser_waits_nil k cfg _)
  rw [feedAll_eq_run]
  refine ⟨houts, herror, fun hnone => ?_⟩
  exact congr (congrArg Reader.mk hstate) (hrest (herror.trans hnone))

/-- Over any chunks, a body that one drain reads to its end without an exception. -/
theorem withBlock_of_drain {k : ReaderKind} {cfg : ReaderConfig α}
    {response : Option (ResponseMetadata p)} {chunks : List Bytes} {ms : List α}
    {s : ReaderState p}
    (hd : (parser k cfg).drain (start response) chunks.flatten = ⟨ms, s, [], none⟩)
    (hs : s.ended = true ∨ s.nextMessageLength = none) :
    withBlock k cfg (Reader.new response) chunks = ⟨ms, ⟨s, []⟩, none⟩ := by
  obtain ⟨hmessages, herror, hreader⟩ := feedAll_drain k cfg response hd
  rw [withBlock, herror]
  dsimp only
  rw [hmessages, hreader rfl, checkEnded_clean hs]

/-- Over any chunks, a body that raises when nothing is left of it. -/
theorem withBlock_of_drain_error {k : ReaderKind} {cfg : ReaderConfig α}
    {response : Option (ResponseMetadata p)} {chunks : List Bytes} {ms : List α}
    {s : ReaderState p} {e : Exc}
    (hd : (parser k cfg).drain (start response) chunks.flatten = ⟨ms, s, [], some e⟩) :
    withBlock k cfg (Reader.new response) chunks = ⟨ms, ⟨s, []⟩, some e⟩ := by
  obtain ⟨houts, herror, hstate, -⟩ :=
    (parser k cfg).run_eq_drain chunks (start response) [] (parser_waits_nil k cfg _)
  obtain ⟨x, hrest⟩ := (parser k cfg).run_rest chunks (start response) [] (parser_waits_nil k cfg _)
  rw [List.nil_append, hd] at houts herror hstate hrest
  have hnil := (List.append_eq_nil_iff.mp hrest.symm).1
  have hall : feedAll k cfg (Reader.new response) chunks = ⟨ms, ⟨s, []⟩, some e⟩ := by
    rw [feedAll_eq_run]
    show (⟨_, ⟨_, _⟩, _⟩ : Drained p α) = _
    exact congr (congr (congrArg Drained.mk houts)
      (congr (congrArg Reader.mk hstate) hnil)) herror
  rw [withBlock, hall]

theorem messages_nil_iff {cfg : ReaderConfig α} {ms : List α} {b : Bytes}
    (h : Messages cfg ms b) : b = [] ↔ ms = [] := by
  cases h with
  | nil => exact ⟨fun _ => rfl, fun _ => rfl⟩
  | @cons f m ms b hm hms =>
      exact ⟨fun hb => absurd (List.append_eq_nil_iff.mp hb).1 f.bytes_ne_nil, nofun⟩

/-- What ended a clean read: the messages alone, or a frame taken for the end. -/
theorem readResponse_seen (k : ReaderKind) (cfg : ReaderConfig α) (response : Response p)
    (b : Bytes) :
    (readResponse k cfg (Reader.new none) response [b]).error = none ↔
      ∃ ms body, Messages cfg ms body ∧
        ((b = body ∧ (handleResponseComplete k ⟨afterMessages k (start none) ms, []⟩ response
            none).2 = none)
        ∨ ∃ f s', b = body ++ Frame.bytes f ∧ f.flags &&& ~~~k.flagsMask = 0
            ∧ exceeds f.payload.length cfg.readMaxBytes = false
            ∧ handleFrame k cfg (afterMessages k (start none) ms) f.flags f.payload = .ended s'
            ∧ (handleResponseComplete k ⟨s', []⟩ response none).2 = none) := by
  constructor
  · intro h
    obtain ⟨herror, hended, _⟩ :=
      (readResponse_single k cfg (Reader.new none) response b _ rfl).mp h
    obtain ⟨ms, body, hms, ⟨hb, hd⟩ | ⟨f, s', hb, hlegal, hfits, hf, hd⟩⟩ :=
      drain_complete k cfg rfl rfl herror hended
    · have hc := ((readResponse_single k cfg (Reader.new none) response b _ hd).mp h).2.2
      exact ⟨ms, body, hms, Or.inl ⟨hb, hc⟩⟩
    · have hc := ((readResponse_single k cfg (Reader.new none) response b _ hd).mp h).2.2
      exact ⟨ms, body, hms, Or.inr ⟨f, s', hb, hlegal, hfits, hf, hc⟩⟩
  · rintro ⟨ms, body, hms, ⟨rfl, hc⟩ | ⟨f, s', rfl, hlegal, hfits, hf, hc⟩⟩
    · refine (readResponse_single k cfg (Reader.new none) response b _
        (drain_start_messages hms none)).mpr ⟨rfl, ?_, hc⟩
      exact checkEnded_clean (Or.inr (afterMessages_nextMessageLength k ms (start none)))
    · obtain ⟨_, t, _, _, ht⟩ := handleFrame_ended_iff.mp hf
      refine (readResponse_single k cfg (Reader.new none) response _ _
        (drain_start_end hms hlegal hfits hf)).mpr ⟨rfl, ?_, hc⟩
      exact checkEnded_clean (Or.inl (ht ▸ rfl))

/-- A server reads a body of message envelopes. -/
theorem readResponse_server (cfg : ReaderConfig α) (response : Response p) (b : Bytes) :
    (readResponse .server cfg (Reader.new none) response [b]).error = none
      ↔ WellFormed .server cfg response b := by
  rw [readResponse_seen]
  -- A server knows no end message, so the body is its messages.
  constructor
  · rintro ⟨ms, body, hms, ⟨rfl, _⟩ | ⟨f, s', _, _, _, hf, _⟩⟩
    · exact ⟨ms, hms⟩
    · obtain ⟨_, _, _, ht, _⟩ := handleFrame_ended_iff.mp hf
      exact nomatch ht
  · rintro ⟨ms, hms⟩
    exact ⟨ms, b, hms, Or.inl ⟨rfl, rfl⟩⟩

/-- A Connect client reads message envelopes up to the end envelope. -/
theorem readResponse_connect (cfg : ReaderConfig α) (response : Response p) (b : Bytes) :
    (readResponse .connect cfg (Reader.new none) response [b]).error = none
      ↔ WellFormed .connect cfg response b := by
  rw [readResponse_seen]
  constructor
  · rintro ⟨ms, body, hms, ⟨_, hc⟩ | ⟨f, s', hb, hlegal, hfits, hf, _⟩⟩
    · -- Without an end message the end of the body is an error.
      have he := afterMessages_ended .connect ms (start (p := p) none)
      rw [handleResponseComplete] at hc
      simp only [he] at hc
      exact nomatch hc
    · have hs := afterMessages_response .connect ms (start (p := p) none)
      exact ⟨ms, body, f, hms, (connectEnd_iff hs).mp ⟨hlegal, hfits, s', hf⟩, hb⟩
  · rintro ⟨ms, body, f, hms, hend, hb⟩
    have hs := afterMessages_response .connect ms (start (p := p) none)
    obtain ⟨hlegal, hfits, s', hf⟩ := (connectEnd_iff hs).mpr hend
    obtain ⟨_, t, _, _, ht⟩ := handleFrame_ended_iff.mp hf
    refine ⟨ms, body, hms, Or.inr ⟨f, s', hb, hlegal, hfits, hf, ?_⟩⟩
    subst ht
    rfl

/-- A gRPC client reads message envelopes, and then the status in the trailers or,
    when there was none, in the headers. -/
theorem readResponse_grpc (cfg : ReaderConfig α) (response : Response p) (b : Bytes) :
    (readResponse .grpc cfg (Reader.new none) response [b]).error = none
      ↔ WellFormed .grpc cfg response b := by
  rw [readResponse_seen]
  -- The status is in the trailers, or in the headers of an empty response.
  have hcomplete (ms : List α) :
      (handleResponseComplete .grpc ⟨afterMessages .grpc (start (p := p) none) ms, []⟩ response
        none).2 = none ↔ StatusOk response.trailers
          ∨ (p.getHeader response.trailers "grpc-status" = none ∧ ms = []
            ∧ StatusOk response.headers) := by
    refine (handleGrpcComplete_eq_none_iff
      (afterMessages_response .grpc ms (start (p := p) none)) _ _).trans ?_
    have hm : (afterMessages .grpc (start (p := p) none) ms).readMessage = false ↔ ms = [] := by
      rw [afterMessages_readMessage (Or.inl rfl)]
      show (false || !ms.isEmpty) = false ↔ ms = []
      simp
    rw [hm]
  constructor
  · rintro ⟨ms, body, hms, ⟨rfl, hc⟩ | ⟨f, s', _, _, _, hf, _⟩⟩
    · refine ⟨ms, hms, ?_⟩
      rcases (hcomplete ms).mp hc with hok | ⟨hnone, hnil, hok⟩
      · exact Or.inl hok
      · exact Or.inr ⟨(messages_nil_iff hms).mpr hnil, hnone, hok⟩
    · obtain ⟨_, _, _, ht, _⟩ := handleFrame_ended_iff.mp hf
      exact nomatch ht
  · rintro ⟨ms, hms, hstatus⟩
    refine ⟨ms, b, hms, Or.inl ⟨rfl, (hcomplete ms).mpr ?_⟩⟩
    rcases hstatus with hok | ⟨hnil, hnone, hok⟩
    · exact Or.inl hok
    · exact Or.inr ⟨hnone, (messages_nil_iff hms).mp hnil, hok⟩

/-- A gRPC-Web client reads message envelopes up to the trailer envelope, or an empty
    body with the status in the headers. -/
theorem readResponse_grpcWeb (cfg : ReaderConfig α) (response : Response p) (b : Bytes) :
    (readResponse .grpcWeb cfg (Reader.new none) response [b]).error = none
      ↔ WellFormed .grpcWeb cfg response b := by
  rw [readResponse_seen]
  constructor
  · rintro ⟨ms, body, hms, ⟨rfl, hc⟩ | ⟨f, s', hb, hlegal, hfits, hf, hc⟩⟩
    · -- Without a trailer envelope only the headers of an empty body count.
      have hempty : p.getHeader (afterMessages .grpcWeb (start (p := p) none) ms).trailers
          "grpc-status" = none := by
        rw [afterMessages_trailers]
        exact p.getHeader_empty _
      have hor := (handleGrpcComplete_eq_none_iff
        (afterMessages_response .grpcWeb ms (start (p := p) none)) _ _).mp hc
      rcases hor with hok | ⟨_, hm, hok⟩
      · exact absurd hok (by rw [StatusOk]; simp only [hempty]; exact nofun)
      · refine Or.inr ⟨(messages_nil_iff hms).mpr ?_, hok⟩
        rw [show (Reader.mk (afterMessages .grpcWeb (start (p := p) none) ms) []).readMessage
          = (afterMessages .grpcWeb (start (p := p) none) ms).readMessage from rfl,
          afterMessages_readMessage (Or.inr rfl), Bool.or_eq_false_iff] at hm
        simpa using hm.2
    · -- An end message was read: its status decides, whatever the headers say.
      have hs := afterMessages_trailers .grpcWeb ms (start (p := p) none)
      obtain ⟨trailers, ht, rfl⟩ := (trailers_iff hs).mp ⟨hlegal, hfits, hf⟩
      refine Or.inl ⟨ms, body, f, trailers, hms, ht, ?_, hb⟩
      have hresponse : (afterMessages .grpcWeb (start (p := p) none) ms).response = none :=
        afterMessages_response .grpcWeb ms (start (p := p) none)
      rcases (handleGrpcComplete_eq_none_iff hresponse _ _).mp hc with hok | ⟨_, hm, _⟩
      · exact hok
      · exact nomatch hm
  · rintro (⟨ms, body, f, trailers, hms, ht, hok, hb⟩ | ⟨rfl, hok⟩)
    · have hs := afterMessages_trailers .grpcWeb ms (start (p := p) none)
      -- Backwards, a trailer envelope with its status is enough.
      obtain ⟨hlegal, hfits, hf⟩ := (trailers_iff hs).mpr ⟨trailers, ht, rfl⟩
      refine ⟨ms, body, hms, Or.inr ⟨f, _, hb, hlegal, hfits, hf, ?_⟩⟩
      exact (handleGrpcComplete_eq_none_iff
        (afterMessages_response .grpcWeb ms (start (p := p) none)) _ _).mpr (Or.inl hok)
    · refine ⟨[], [], .nil, Or.inl ⟨rfl, ?_⟩⟩
      exact (handleGrpcComplete_eq_none_iff rfl _ _).mpr
        (Or.inr ⟨p.getHeader_empty _, rfl, hok⟩)

/-- **What is accepted.**  A body and its trailers are read without an exception
    exactly when they are well formed, for each of the four readers. -/
theorem readResponse_eq_none_iff (k : ReaderKind) (cfg : ReaderConfig α)
    (response : Response p) (b : Bytes) :
    (readResponse k cfg (Reader.new none) response [b]).error = none
      ↔ WellFormed k cfg response b := by
  cases k with
  | server => exact readResponse_server cfg response b
  | connect => exact readResponse_connect cfg response b
  | grpc => exact readResponse_grpc cfg response b
  | grpcWeb => exact readResponse_grpcWeb cfg response b

/-- Envelopes by their shape alone, whatever they hold. -/
def Envelopes (b : Bytes) : Prop :=
  ∃ fs : List Frame, (∀ f ∈ fs, f.flags = 0 ∨ f.flags = 1) ∧ b = fs.flatMap Frame.bytes

/-- The shape of the envelopes is not enough: an empty envelope that says it is
    compressed is refused on a stream without compression. -/
theorem compressed_without_compression :
    ¬ ((readResponse .server ⟨Codec.raw, .identity, none⟩
          (Reader.new none : Reader Platform.plain) ⟨Dict.empty, Dict.empty⟩
          [[1, 0, 0, 0, 0]]).error = none
        ↔ Envelopes [1, 0, 0, 0, 0]) := by
  intro h
  have hshape : Envelopes [1, 0, 0, 0, 0] :=
    ⟨[⟨1, [], by decide⟩], by simp, by decide⟩
  obtain ⟨ms, hms⟩ := (readResponse_eq_none_iff .server _ _ _).mp (h.mpr hshape)
  generalize hb : ([1, 0, 0, 0, 0] : Bytes) = b at hms
  cases hms with
  | nil => exact nomatch hb
  | @cons f m ms rest hm hms =>
      have hbytes : (⟨1, [], by decide⟩ : Frame).bytes ++ [] = f.bytes ++ rest := hb
      have hf := (frame_unique hbytes).1
      obtain ⟨data, hcarries, _⟩ := hm.decodes
      cases hcarries with
      | plain hflag => rw [← hf] at hflag; exact absurd hflag (by decide)
      | empty _ hid _ => exact nomatch hid
      | compressed _ hid _ _ => exact nomatch hid

end ConnectGrammar
