import ConnectPy.EndMessageProofs

/-! # The envelope writers — and reading back what they wrote

    The writers of the three protocols share `write` and differ in how they end a
    stream: a JSON object (Connect), HTTP trailers (gRPC), or a frame of trailer
    lines (gRPC-Web).

    What a writer puts out is a word of the grammar of its reader
    (`messages_writeAll`, `handleFrame_connectEnd`, `handleFrame_lines`), so the
    round trips follow from what readers do on such words; `streams_round_trip`
    collects them, for every way of cutting the bytes into chunks. -/

namespace ConnectWriter

open Utf8 (Bytes)
open Framing Resumable OrderedDict
open ConnectErrors ConnectPlatform ConnectHeaders ConnectWireErrors ConnectGrpcStatus
open ConnectEnvelope ConnectGrammar ConnectEndMessage

variable {p : Platform} {α : Type}

/-! ## Writers -/

/-- `EnvelopeWriter`. -/
structure EnvelopeWriter (α : Type) where
  codec       : Codec α
  compression : Option Compression

/-- `_prefix`. -/
def EnvelopeWriter.prefixByte (w : EnvelopeWriter α) : UInt8 :=
  match w.compression with
  | none => 0
  | some c => if c.isIdentity then 0 else 1

/-- `compress`, when there is a compression. -/
def EnvelopeWriter.compress (w : EnvelopeWriter α) (data : Bytes) : Except Exc Bytes :=
  match w.compression with
  | none => .ok data
  | some c => c.compress data

/-- `struct.pack(">BI", flags, len(data)) + data`. -/
def pack (flags : UInt8) (data : Bytes) : Except Exc Bytes :=
  if data.length < 0x100000000 then .ok (framePrefix flags data.length ++ data)
  else .error (.exception .structError "'I' format requires 0 <= number <= 4294967295")

theorem pack_ok (flags : UInt8) {data : Bytes} (h : data.length < 0x100000000) :
    pack flags data = .ok (framePrefix flags data.length ++ data) := if_pos h

/-- Compress some data and put it into a frame. -/
def EnvelopeWriter.frame (w : EnvelopeWriter α) (flags : UInt8) (data : Bytes) :
    Except Exc Bytes :=
  match w.compress data with
  | .error e => .error e
  | .ok data => pack flags data

/-- `write`. -/
def EnvelopeWriter.write (w : EnvelopeWriter α) (message : α) : Except Exc Bytes :=
  match w.codec.encode message with
  | .error e => .error e
  | .ok data => w.frame w.prefixByte data

/-- The concatenation of `write` over a list of messages. -/
def EnvelopeWriter.writeAll (w : EnvelopeWriter α) : List α → Except Exc Bytes
  | [] => .ok []
  | message :: messages =>
      match w.write message with
      | .error e => .error e
      | .ok b =>
          match w.writeAll messages with
          | .error e => .error e
          | .ok bs => .ok (b ++ bs)

/-! ## Ends of streams -/

/-- `ConnectEnvelopeWriter.end`. -/
def connectEnd (w : EnvelopeWriter α) (userTrailers : Headers p)
    (error : Option ConnectWireError) : Except Exc Bytes :=
  w.frame (w.prefixByte ||| 0b10) (endMessageData userTrailers error)

/-- `GRPCWebEnvelopeWriter.end`. -/
def webEnd (w : EnvelopeWriter α) (userTrailers : Headers p) (error : Option ConnectWireError) :
    Except Exc Bytes :=
  w.frame (w.prefixByte ||| 0b10000000) (trailerData userTrailers error)

/-! ## Frames a reader understands -/

/-- Compressing can be undone, and does not make something into nothing. -/
def Lossless (c : Compression) : Prop :=
  ∀ data, ∃ out, c.compress data = .ok out ∧ (data ≠ [] → out ≠ [])
    ∧ ∀ limit, exceeds data.length limit = false → c.decompress out limit = .ok data

/-- Encoding can be undone. -/
def Codec.Lossless (codec : Codec α) : Prop :=
  ∀ m, ∃ data, codec.encode m = .ok data ∧ codec.decode data = .ok m

/-- Some data fits into a frame and into the limit of the reader, plain and
    compressed. -/
def Fits (w : EnvelopeWriter α) (readMaxBytes : Option Int) (data : Bytes) : Prop :=
  exceeds data.length readMaxBytes = false
    ∧ ∀ out, w.compress data = .ok out →
      out.length < 0x100000000 ∧ exceeds out.length readMaxBytes = false

theorem lossless_identity : Lossless .identity := by
  intro data
  refine ⟨data, rfl, id, ?_⟩
  intro limit h
  cases limit with
  | none => rfl
  | some limit =>
      have hle : ¬ limit < (data.length : Int) := of_decide_eq_false h
      exact if_neg hle

/-- The reader that matches a writer. -/
def EnvelopeWriter.reader (w : EnvelopeWriter α) (readMaxBytes : Option Int) : ReaderConfig α :=
  ⟨w.codec, w.compression.getD .identity, readMaxBytes⟩

section Frames

variable {w : EnvelopeWriter α} {readMaxBytes : Option Int}

/-- **A written frame carries its data**, whatever the end bit. -/
theorem frame_carries (hw : ∀ c ∈ w.compression, Lossless c) {data : Bytes}
    (hfits : Fits w readMaxBytes data) {flags : UInt8}
    (hflags : flags &&& 0b01 = w.prefixByte) :
    ∃ f : Frame, w.frame flags data = .ok f.bytes ∧ f.flags = flags
      ∧ exceeds f.payload.length readMaxBytes = false
      ∧ Carries (w.reader readMaxBytes) f data := by
  obtain ⟨codec, compression⟩ := w
  -- Without compression, or with the identity, the payload is the data.
  have plain : ∀ (out : Bytes), out = data →
      (EnvelopeWriter.mk codec compression).compress data = .ok out →
      (EnvelopeWriter.mk codec compression).prefixByte = 0 →
      ∃ f : Frame, (EnvelopeWriter.mk codec compression).frame flags data = .ok f.bytes
        ∧ f.flags = flags ∧ exceeds f.payload.length readMaxBytes = false
        ∧ Carries ((EnvelopeWriter.mk codec compression).reader readMaxBytes) f data := by
    rintro out rfl hout hzero
    obtain ⟨hlt, hx⟩ := hfits.2 out hout
    refine ⟨⟨flags, out, hlt⟩, ?_, rfl, hx, .plain (hflags.trans hzero)⟩
    rw [EnvelopeWriter.frame, hout]
    exact pack_ok flags hlt
  cases compression with
  | none => exact plain data rfl rfl rfl
  | some c =>
      cases c with
      | identity => exact plain data rfl rfl rfl
      | custom c =>
          obtain ⟨out, hout, hne, hback⟩ := hw (.custom c) rfl data
          have hcompress : (EnvelopeWriter.mk codec (some (.custom c))).compress data = .ok out :=
            hout
          obtain ⟨hlt, hx⟩ := hfits.2 out hcompress
          have hone : flags &&& 0b01 ≠ 0 := by
            rw [hflags]
            exact nofun
          refine ⟨⟨flags, out, hlt⟩, ?_, rfl, hx, ?_⟩
          · rw [EnvelopeWriter.frame, hcompress]
            exact pack_ok flags hlt
          · by_cases hempty : out = []
            · -- Only nothing is compressed to nothing.
              have hdata : data = [] := by
                by_contra hd
                exact hne hd hempty
              subst hdata
              exact .empty hone rfl hempty
            · exact .compressed hone rfl hempty (hback readMaxBytes hfits.1)

theorem prefixByte_cases (w : EnvelopeWriter α) : w.prefixByte = 0 ∨ w.prefixByte = 1 := by
  rw [EnvelopeWriter.prefixByte]
  split
  · exact Or.inl rfl
  · split
    · exact Or.inl rfl
    · exact Or.inr rfl

/-- Every message of a list that fits is written as a message envelope. -/
theorem messages_writeAll (hcodec : Codec.Lossless w.codec)
    (hw : ∀ c ∈ w.compression, Lossless c) (ms : List α)
    (hfits : ∀ m ∈ ms, ∀ data, w.codec.encode m = .ok data → Fits w readMaxBytes data) :
    ∃ b, w.writeAll ms = .ok b ∧ Messages (w.reader readMaxBytes) ms b := by
  induction ms with
  | nil => exact ⟨[], rfl, .nil⟩
  | cons m ms ih =>
      obtain ⟨bs, hbs, hms⟩ := ih fun m' hm' => hfits m' (List.mem_cons_of_mem _ hm')
      obtain ⟨data, hencode, hdecode⟩ := hcodec m
      have hflags : w.prefixByte &&& 0b01 = w.prefixByte := by
        rcases prefixByte_cases w with h | h <;> rw [h] <;> rfl
      obtain ⟨f, hf, hff, hx, hc⟩ :=
        frame_carries hw (hfits m (by simp) data hencode) hflags
      refine ⟨f.bytes ++ bs, ?_, .cons ⟨?_, hx, data, hc, hdecode⟩ hms⟩
      · rw [EnvelopeWriter.writeAll, EnvelopeWriter.write, hencode]
        dsimp only
        rw [hf, hbs]
      · rw [hff]
        exact prefixByte_cases w

/-- **The end of a Connect stream, written and read.** -/
theorem handleFrame_connectEnd (hw : ∀ c ∈ w.compression, Lossless c) {t : Headers p}
    {error : Option ConnectWireError} (hfits : Fits w readMaxBytes (endMessageData t error))
    (hjson : p.jsonLoads (endMessageData t error) = .ok (endMessage t error))
    (s : ReaderState p) :
    ∃ f : Frame, connectEnd w t error = .ok f.bytes
      ∧ f.flags &&& ~~~ReaderKind.connect.flagsMask = 0
      ∧ exceeds f.payload.length readMaxBytes = false
      ∧ handleFrame .connect (w.reader readMaxBytes) s f.flags f.payload =
        match error with
        | none => .ended { s with ended := true, response := withTrailers s.response t }
        | some e => .raised { s with response := withTrailers s.response t } (raised e) := by
  -- The end bit does not touch the compression bit.
  have hflags : (w.prefixByte ||| 0b10) &&& 0b01 = w.prefixByte := by
    rcases prefixByte_cases w with h | h <;> rw [h] <;> rfl
  obtain ⟨f, hf, hff, hx, hc⟩ := frame_carries hw hfits hflags
  have hend : f.flags = 2 ∨ f.flags = 3 := by
    rw [hff]
    rcases prefixByte_cases w with h | h <;> rw [h]
    · exact Or.inl rfl
    · exact Or.inr rfl
  obtain ⟨hlegal, hbit⟩ := (connectEndFlags_iff f.flags).mpr hend
  refine ⟨f, hf, hlegal, hx, ?_⟩
  have hhandle : handleEndMessage .connect s f.flags (endMessageData t error)
      = ({ s with response := withTrailers s.response t }, endResult error) :=
    handleConnectEnd_endMessage hbit hjson
  rw [handleFrame, (messageContents_iff _ f _).mpr hc]
  dsimp only
  rw [hhandle]
  cases error with
  | none => rfl
  | some e => rfl

/-- **The end of a gRPC-Web stream, written and read**, when its lines are those
    of clean items. -/
theorem handleFrame_lines (hw : ∀ c ∈ w.compression, Lossless c)
    {items : List (String × String)} (hitems : ∀ e ∈ items, CleanItem e)
    (hfits : Fits w readMaxBytes (Utf8.encode (String.join (items.map trailerLine))))
    (s : ReaderState p) :
    ∃ f : Frame, ∃ trailers, w.frame (w.prefixByte ||| 0b10000000)
          (Utf8.encode (String.join (items.map trailerLine))) = .ok f.bytes
      ∧ f.flags &&& ~~~ReaderKind.grpcWeb.flagsMask = 0
      ∧ exceeds f.payload.length readMaxBytes = false
      ∧ handleFrame .grpcWeb (w.reader readMaxBytes) s f.flags f.payload
        = .ended { s with ended := true, readMessage := true, trailers := trailers }
      ∧ p.content trailers
        = Multimap.addAll (p.content s.trailers) (items.map (readItem p)) := by
  have hflags : (w.prefixByte ||| 0b10000000) &&& 0b01 = w.prefixByte := by
    rcases prefixByte_cases w with h | h <;> rw [h] <;> rfl
  obtain ⟨f, hf, hff, hx, hc⟩ := frame_carries hw hfits hflags
  have hend : f.flags = 0x80 ∨ f.flags = 0x81 := by
    rw [hff]
    rcases prefixByte_cases w with h | h <;> rw [h]
    · exact Or.inl rfl
    · exact Or.inr rfl
  obtain ⟨hlegal, hbit⟩ := (trailerFlags_iff f.flags).mpr hend
  obtain ⟨trailers, hhandle, hcontent⟩ := handleWebEnd_lines (s := s) hbit hitems
  refine ⟨f, trailers, hf, hlegal, hx, ?_, hcontent⟩
  exact handleFrame_ended_iff.mpr ⟨_, _, hc, hhandle, rfl⟩

end Frames

/-! ## Round trips -/

/-- **Reading undoes writing.**  The messages of a stream come back in order over
    any chunks, no byte is left over, and the end of the stream is recognized, by
    raising its error when it is a Connect stream that ended with one. -/
theorem streams_round_trip (w : EnvelopeWriter α) (readMaxBytes : Option Int)
    (hcodec : Codec.Lossless w.codec) (hw : ∀ c ∈ w.compression, Lossless c) (ms : List α)
    (hms : ∀ m ∈ ms, ∀ data, w.codec.encode m = .ok data → Fits w readMaxBytes data)
    (response : Option (ResponseMetadata p)) :
    ∃ b, w.writeAll ms = .ok b
      ∧ (∀ k, k = .server ∨ k = .grpc → ∀ chunks : List Bytes, chunks.flatten = b →
        ∃ s, withBlock k (w.reader readMaxBytes) (Reader.new response) chunks
          = ⟨ms, ⟨s, []⟩, none⟩)
      ∧ (∀ (t : Headers p) (error : Option ConnectWireError),
        Fits w readMaxBytes (endMessageData t error) →
        p.jsonLoads (endMessageData t error) = .ok (endMessage t error) →
        ∃ e, connectEnd w t error = .ok e
          ∧ ∀ chunks : List Bytes, chunks.flatten = b ++ e →
            ∃ s, withBlock .connect (w.reader readMaxBytes) (Reader.new response) chunks
                = ⟨ms, ⟨s, []⟩, error.map raised⟩
              ∧ s.ended = error.isNone)
      ∧ (∀ (t : Headers p) (error : Option ConnectWireError),
        (∀ e ∈ t.allitems, CleanItem e) → Fits w readMaxBytes (trailerData t error) →
        ∃ e, webEnd w t error = .ok e
          ∧ ∀ chunks : List Bytes, chunks.flatten = b ++ e →
            ∃ s, withBlock .grpcWeb (w.reader readMaxBytes) (Reader.new response) chunks
                = ⟨ms, ⟨s, []⟩, none⟩
              ∧ s.ended = true) := by
  obtain ⟨b, hb, hmessages⟩ := messages_writeAll hcodec hw ms hms
  refine ⟨b, hb, ?_, ?_, ?_⟩
  · -- No end message: the messages are the whole body.
    intro k _ chunks hchunks
    refine ⟨afterMessages k (start response) ms, withBlock_of_drain ?_
      (Or.inr (afterMessages_nextMessageLength k ms _))⟩
    rw [hchunks]
    exact drain_start_messages hmessages response
  · -- The end of a Connect stream carries its error.
    intro t error hfits hjson
    obtain ⟨f, hf, hlegal, hx, hframe⟩ := handleFrame_connectEnd hw hfits hjson
      (afterMessages .connect (start response) ms)
    refine ⟨f.bytes, hf, ?_⟩
    intro chunks hchunks
    have hdrain := drain_start_frame hmessages hlegal hx response
    rw [hframe, ← hchunks] at hdrain
    cases error with
    | none => exact ⟨_, withBlock_of_drain hdrain (Or.inl rfl), rfl⟩
    | some e =>
        exact ⟨_, withBlock_of_drain_error hdrain,
          afterMessages_ended .connect ms (start response)⟩
  · -- The end of a gRPC-Web stream carries its trailers, the status among them.
    intro t error ht hfits
    obtain ⟨f, trailers, hf, hlegal, hx, hframe, -⟩ := handleFrame_lines hw
      (statusTrailers_clean ht error) hfits (afterMessages .grpcWeb (start response) ms)
    refine ⟨f.bytes, hf, ?_⟩
    intro chunks hchunks
    have hdrain := drain_start_frame hmessages hlegal hx response
    rw [hframe, ← hchunks] at hdrain
    exact ⟨_, withBlock_of_drain hdrain (Or.inl rfl), rfl⟩

/-- No codec and no compression between the messages and the payloads. -/
def EnvelopeWriter.raw : EnvelopeWriter Bytes := ⟨Codec.raw, none⟩

theorem fits_raw {data : Bytes} (h : data.length < 0x100000000) :
    Fits EnvelopeWriter.raw none data := by
  refine ⟨rfl, fun out hout => ?_⟩
  have heq : data = out := Except.ok.inj hout
  exact ⟨heq ▸ h, rfl⟩

/-- Two messages, one of them empty, and the end of a Connect stream. -/
theorem streams_round_trip_raw :
    ∃ b e, EnvelopeWriter.raw.writeAll [[], [7]] = .ok b
      ∧ connectEnd EnvelopeWriter.raw (Headers.empty Platform.emptyObject) none = .ok e
      ∧ ∀ chunks : List Bytes, chunks.flatten = b ++ e →
        ∃ s, withBlock .connect (EnvelopeWriter.raw.reader none)
          (Reader.new none : Reader Platform.emptyObject) chunks = ⟨[[], [7]], ⟨s, []⟩, none⟩ := by
  obtain ⟨b, hb, -, hconnect, -⟩ := streams_round_trip EnvelopeWriter.raw none
    (fun m => ⟨m, rfl, rfl⟩) nofun [[], [7]]
    (by
      intro m hm data hdata
      have heq : m = data := Except.ok.inj hdata
      subst heq
      refine fits_raw ?_
      rcases List.mem_cons.mp hm with rfl | hm
      · decide
      · obtain rfl := List.mem_singleton.mp hm
        decide)
    (none : Option (ResponseMetadata Platform.emptyObject))
  obtain ⟨e, he, hread⟩ := hconnect (Headers.empty _) none (fits_raw (by decide)) rfl
  refine ⟨b, e, hb, he, fun chunks hchunks => ?_⟩
  obtain ⟨s, hs, -⟩ := hread chunks hchunks
  exact ⟨s, hs⟩

/-- Trailer lines that cannot be added end the stream with their exception, and the
    ambient metadata stays as it was. -/
theorem withBlock_trailerLines_error {data : Bytes} (hsmall : data.length < 0x100000000)
    {e : Exc} (h : (addTrailerLines p.emptyHeaders (Utf8.splitCrLf data)).2 = some e)
    (response : Option (ResponseMetadata p)) :
    ∃ s, withBlock .grpcWeb (EnvelopeWriter.raw.reader none) (Reader.new response)
        [Frame.bytes ⟨0x80, data, hsmall⟩] = ⟨[], s, some e⟩
      ∧ s.response = response := by
  obtain ⟨t, ht⟩ : ∃ t, addTrailerLines p.emptyHeaders (Utf8.splitCrLf data) = (t, some e) :=
    ⟨_, Prod.ext rfl h⟩
  have hweb : handleEndMessage .grpcWeb (start response) 0x80 data
      = ({ start response with readMessage := true, trailers := t }, .error e) := by
    show handleWebEnd (start response) 0x80 data = _
    rw [handleWebEnd]
    dsimp only
    rw [if_neg (by decide), show (start response).trailers = p.emptyHeaders from rfl, ht]
  let f : Frame := ⟨0x80, data, hsmall⟩
  have hframe : handleFrame .grpcWeb (EnvelopeWriter.raw.reader none)
      (afterMessages .grpcWeb (start response) ([] : List Bytes)) f.flags f.payload
      = .raised { start response with readMessage := true, trailers := t } e := by
    have hplain : messageContents (EnvelopeWriter.raw.reader none) f.flags f.payload
        = .ok data := if_pos (show (0x80 : UInt8) &&& 0b01 = 0 by decide)
    rw [handleFrame, hplain]
    dsimp only
    rw [show handleEndMessage .grpcWeb (afterMessages .grpcWeb (start response) ([] : List Bytes))
      f.flags data = _ from hweb]
  have hdrain := drain_start_frame (k := .grpcWeb)
    (show Messages (EnvelopeWriter.raw.reader none) [] [] from .nil) (f := f)
    (show (0x80 : UInt8) &&& ~~~ReaderKind.grpcWeb.flagsMask = 0 by decide) rfl response
  rw [hframe] at hdrain
  have hflat : [f.bytes].flatten = [] ++ f.bytes := List.append_nil _
  rw [← hflat] at hdrain
  exact ⟨_, withBlock_of_drain_error hdrain, rfl⟩

/-- A value with a line end in it breaks the trailer frame: the rest of the value
    is a line without a colon, and the end of the stream is not recognized. -/
theorem webEnd_broken_line :
    ∃ e, webEnd EnvelopeWriter.raw (Headers.ofItems Platform.plain [("x", "a\r\nb")]) none = .ok e
      ∧ (withBlock .grpcWeb (EnvelopeWriter.raw.reader none)
          (Reader.new none : Reader Platform.plain) [e]).error
        = some (.exception .valueError "not enough values to unpack (expected 2, got 1)") := by
  have hsmall : (trailerData (Headers.ofItems Platform.plain [("x", "a\r\nb")]) none).length
      < 0x100000000 := by decide +kernel
  have hlines : Utf8.splitCrLf
      (trailerData (Headers.ofItems Platform.plain [("x", "a\r\nb")]) none)
      = [[0x78, 0x3A, 0x20, 0x61], [0x62], Utf8.encode "grpc-status: 0", []] := by decide +kernel
  have hraise : (addTrailerLines Platform.plain.emptyHeaders (Utf8.splitCrLf
      (trailerData (Headers.ofItems Platform.plain [("x", "a\r\nb")]) none))).2
      = some (.exception .valueError "not enough values to unpack (expected 2, got 1)") := by
    rw [hlines]
    rfl
  obtain ⟨s, hblock, -⟩ := withBlock_trailerLines_error hsmall hraise none
  exact ⟨_, pack_ok 0x80 hsmall, congrArg Drained.error hblock⟩

end ConnectWriter
