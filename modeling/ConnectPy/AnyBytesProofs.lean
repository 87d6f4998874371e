import ConnectPy.EnvelopeGrammarProofs

/-! # Any bytes at all — what a reader keeps, and what it raises

    A peer may send anything.  `feedAll_stops` says what becomes of it, over any
    chunks: the reader passes message envelopes and stops, because it waits, has
    seen the end, or raises.  Two results are read off the five ways to stop.

    While the end has not come a reader keeps less than one frame of the size it
    allows; behind the end it keeps all that follows, to report how much it was
    (`reader_keeps`).  And what it raises is a `ConnectError`, unless it is an end
    frame that cannot be read: those are parsed without a handler
    (`bad_bytes_iff`). -/

namespace ConnectAnyBytes

open Utf8 (Bytes)
open Framing Resumable OrderedDict
open ConnectErrors ConnectPlatform ConnectHeaders ConnectWireErrors ConnectEnvelope
open ConnectGrammar

variable {p : Platform} {α : Type}

/-! ## Chunks -/

/-- **Feeding any chunks**: message envelopes, and then the reader stops. -/
theorem feedAll_stops (k : ReaderKind) (cfg : ReaderConfig α)
    (response : Option (ResponseMetadata p)) (chunks : List Bytes) :
    ∃ ms body tail r, Messages cfg ms body ∧ chunks.flatten = body ++ tail
      ∧ Stops k cfg (afterMessages k (start response) ms) tail r
      ∧ (feedAll k cfg (Reader.new response) chunks).messages = ms ++ r.outs
      ∧ (feedAll k cfg (Reader.new response) chunks).error = r.error
      ∧ (r.error = none →
        (feedAll k cfg (Reader.new response) chunks).reader = ⟨r.state, r.rest⟩) := by
  obtain ⟨ms, body, tail, r, hms, hflatten, hstops, hdrain⟩ :=
    drain_stops k cfg chunks.flatten.length chunks.flatten (start response) (Nat.le_refl _) rfl rfl
  obtain ⟨hmessages, herror, hreader⟩ := feedAll_drain k cfg response hdrain
  exact ⟨ms, body, tail, r, hms, hflatten, hstops, hmessages, herror, hreader⟩

/-- An end frame at the front: what follows it stays in the buffer. -/
theorem feedAll_ended {k : ReaderKind} {cfg : ReaderConfig α}
    {response : Option (ResponseMetadata p)} {f : Frame} {rest : Bytes} {s' : ReaderState p}
    (hflags : f.flags &&& ~~~k.flagsMask = 0)
    (hfits : exceeds f.payload.length cfg.readMaxBytes = false)
    (hframe : handleFrame k cfg (start response) f.flags f.payload = .ended s')
    {chunks : List Bytes} (hchunks : chunks.flatten = f.bytes ++ rest) :
    (feedAll k cfg (Reader.new response) chunks).error = none
      ∧ (feedAll k cfg (Reader.new response) chunks).reader = ⟨s', rest⟩ := by
  have hdrain := drain_start_bytes (show Messages cfg [] [] from .nil) hflags hfits rest response
  rw [show afterMessages k (start response) ([] : List α) = start response from rfl, hframe,
    List.nil_append, ← hchunks] at hdrain
  obtain ⟨-, herror, hreader⟩ := feedAll_drain k cfg response hdrain
  exact ⟨herror, hreader rfl⟩

/-! ## What a reader keeps -/

/-- Two of the four readers know no end frame. -/
theorem handleFrame_ne_ended {k : ReaderKind} (hk : k = .server ∨ k = .grpc)
    {cfg : ReaderConfig α} {s s' : ReaderState p} {f : Frame} :
    handleFrame k cfg s f.flags f.payload ≠ .ended s' := by
  intro h
  obtain ⟨data, t, -, hend, -⟩ := handleFrame_ended_iff.mp h
  rcases hk with rfl | rfl
  · injection hend with _ hend
    exact nomatch hend
  · injection hend with _ hend
    exact nomatch hend

/-- **What a reader keeps** after any chunks that raised nothing: less than a frame
    that holds the limit, and behind an end frame exactly what follows it, which is
    reported when the block is left. -/
theorem reader_keeps (k : ReaderKind) (cfg : ReaderConfig α)
    (response : Option (ResponseMetadata p)) (chunks : List Bytes) {n : Int}
    (hn : cfg.readMaxBytes = some n)
    (herror : (feedAll k cfg (Reader.new response) chunks).error = none) :
    ((feedAll k cfg (Reader.new response) chunks).reader.ended = false →
      ((feedAll k cfg (Reader.new response) chunks).reader.buffer.length : Int) < max n 0 + 5)
    ∧ ((feedAll k cfg (Reader.new response) chunks).reader.ended = true →
      ∃ ms body f s', Messages cfg ms body
        ∧ handleFrame k cfg (afterMessages k (start response) ms) (Frame.flags f) f.payload
          = .ended s'
        ∧ chunks.flatten
          = body ++ (f.bytes ++ (feedAll k cfg (Reader.new response) chunks).reader.buffer))
    ∧ ((feedAll k cfg (Reader.new response) chunks).reader.ended = true →
      (feedAll k cfg (Reader.new response) chunks).reader.buffer ≠ [] →
      (withBlock k cfg (Reader.new response) chunks).error = some (.connect .internal
        s!"corrupt response: {(feedAll k cfg (Reader.new response) chunks).reader.buffer.length} extra bytes after end of stream"))
    ∧ (k = .server ∨ k = .grpc →
      (feedAll k cfg (Reader.new response) chunks).reader.ended = false) := by
  obtain ⟨ms, body, tail, r, hms, hflatten, hstops, -, herr, hreader⟩ :=
    feedAll_stops k cfg response chunks
  -- The reader stopped, and not by raising: so it waits, or it has seen the end.
  have hnone := herr.symm.trans herror
  rw [withBlock, herror]
  dsimp only
  rw [hreader hnone, checkEnded]
  have hopen : (afterMessages k (start response) ms).ended = false :=
    afterMessages_ended k ms (start response)
  have hnot : (afterMessages k (start response) ms).ended ≠ true := by
    rw [hopen]
    exact Bool.false_ne_true
  cases hstops with
  | short h5 =>
      refine ⟨fun _ => ?_, fun hended => absurd hended hnot, fun hended => absurd hended hnot,
        fun _ => hopen⟩
      dsimp only
      omega
  | cut h5 hflags hfits hlt =>
      refine ⟨fun _ => ?_, fun hended => absurd hended hnot, fun hended => absurd hended hnot,
        fun _ => hopen⟩
      -- The length that is promised has passed the limit.
      rw [hn, exceeds, decide_eq_false_iff_not] at hfits
      dsimp only
      omega
  | refused hp => cases hnone
  | raised hflags hfits hframe => cases hnone
  | @ended f rest s' hflags hfits hframe =>
      have hended : s'.ended = true := by
        obtain ⟨_, t, _, _, rfl⟩ := handleFrame_ended_iff.mp hframe
        rfl
      refine ⟨fun hfalse => ?_, fun _ => ⟨ms, body, f, s', hms, hframe, hflatten⟩,
        fun _ hne => ?_, fun hk => ?_⟩
      · rw [show _ = false from hfalse] at hended
        cases hended
      · rw [if_pos hended, if_pos hne]
      · exact absurd hframe (handleFrame_ne_ended hk)

/-- A frame without trailers. -/
def webEndFrame : Frame := ⟨0x80, [], by decide⟩

/-- A reader of gRPC-Web that allows no payload, after an end frame and five bytes. -/
theorem feedAll_webEndFrame :
    (feedAll .grpcWeb ⟨.raw, .identity, some 0⟩ (Reader.new none : Reader Platform.plain)
        [webEndFrame.bytes, [1, 2, 3, 4, 5]]).error = none
      ∧ (feedAll .grpcWeb ⟨.raw, .identity, some 0⟩ (Reader.new none : Reader Platform.plain)
        [webEndFrame.bytes, [1, 2, 3, 4, 5]]).reader
        = ⟨{ start none with readMessage := true, ended := true }, [1, 2, 3, 4, 5]⟩ :=
  feedAll_ended (f := webEndFrame) (by decide) rfl rfl rfl

theorem reader_keeps_five :
    ∃ ms body f s', Messages (⟨.raw, .identity, some 0⟩ : ReaderConfig Bytes) ms body
      ∧ handleFrame .grpcWeb ⟨.raw, .identity, some 0⟩
          (afterMessages .grpcWeb (start none : ReaderState Platform.plain) ms) (Frame.flags f)
          f.payload = .ended s'
      ∧ webEndFrame.bytes ++ [1, 2, 3, 4, 5] = body ++ (f.bytes ++ [1, 2, 3, 4, 5]) := by
  have hkeeps := (reader_keeps .grpcWeb ⟨.raw, .identity, some 0⟩ none
    [webEndFrame.bytes, [1, 2, 3, 4, 5]] rfl feedAll_webEndFrame.1).2.1
  rw [feedAll_webEndFrame.2] at hkeeps
  exact hkeeps rfl

/-- The bound does not hold behind an end frame. -/
theorem reader_keeps_more :
    ∃ chunks : List Bytes,
      (feedAll .grpcWeb ⟨.raw, .identity, some 0⟩ (Reader.new none : Reader Platform.plain)
        chunks).error = none
      ∧ ¬ (((feedAll .grpcWeb ⟨.raw, .identity, some 0⟩ (Reader.new none : Reader Platform.plain)
        chunks).reader.buffer.length : Int) < 0 + 5) := by
  refine ⟨[webEndFrame.bytes, [1, 2, 3, 4, 5]], feedAll_webEndFrame.1, ?_⟩
  rw [feedAll_webEndFrame.2]
  decide

/-! ## End frames -/

/-- The bit of the flags that marks an end frame. -/
def endFlag : ReaderKind → UInt8
  | .server => 0
  | .connect => 0b10
  | .grpc => 0
  | .grpcWeb => 0b10000000

/-- A frame that the reader takes for the end. -/
def IsEnd (k : ReaderKind) (flags : UInt8) : Prop := flags &&& endFlag k ≠ 0

/-- The message of a Connect end frame: a JSON object whose metadata and error can
    be read. -/
def ConnectEndReads (response : Option (ResponseMetadata p)) (data : Bytes) : Prop :=
  ∃ entries, p.jsonLoads data = .ok (.obj entries)
    ∧ MetadataReads response ((Json.field "metadata" entries).getD .null)
    ∧ (((Json.field "error" entries).getD .null).truthy = true →
      ErrorReads ((Json.field "error" entries).getD .null))

/-- Lines with a colon, of UTF-8, that name headers the container takes. -/
inductive LinesRead : p.HTTPHeaders → List Bytes → Prop where
  | nil {t : p.HTTPHeaders} : LinesRead t []
  | empty {t : p.HTTPHeaders} {lines : List Bytes} : LinesRead t lines → LinesRead t ([] :: lines)
  | line {t t' : p.HTTPHeaders} {line key value : Bytes} {name text : String}
      {lines : List Bytes} : line ≠ [] → Utf8.splitFirst 0x3A line = some (key, value) →
      Utf8.decode key = some name → Utf8.decode value = some text →
      p.addHeader t (Utf8.strip name) (Utf8.strip text) = .ok t' → LinesRead t' lines →
      LinesRead t (line :: lines)

/-- An end frame that can be read, by its contents. -/
def EndReads (k : ReaderKind) (trailers : p.HTTPHeaders) (response : Option (ResponseMetadata p))
    (data : Bytes) : Prop :=
  match k with
  | .server => True
  | .connect => ConnectEndReads response data
  | .grpc => True
  | .grpcWeb => LinesRead trailers (Utf8.splitCrLf data)

/-- What `json` and the header container raise is their own. -/
structure RaisesOwn (p : Platform) : Prop where
  json   : ∀ data e, p.jsonLoads data = .error e → e.isConnectError = false
  header : ∀ t name value e, p.addHeader t name value = .error e → e.isConnectError = false

theorem builtin_isConnectError {e : Exc} (h : Builtin e) : e.isConnectError = false := by
  obtain ⟨cls, text, rfl, -⟩ := h
  rfl

/-- What reading an end frame raises: nothing but `ConnectError`, or something else
    because it cannot be read. -/
def Raised (reads : Prop) (outcome : Except Exc Bool) : Prop :=
  (reads ∧ ∀ e, outcome = .error e → e.isConnectError = true)
    ∨ ¬ reads ∧ ∃ e, outcome = .error e ∧ e.isConnectError = false

theorem connectEndReads_obj {response : Option (ResponseMetadata p)} {data : Bytes}
    {entries : List (String × Json)} (hjson : p.jsonLoads data = .ok (.obj entries)) :
    ConnectEndReads response data
      ↔ MetadataReads response ((Json.field "metadata" entries).getD .null)
        ∧ (((Json.field "error" entries).getD .null).truthy = true →
          ErrorReads ((Json.field "error" entries).getD .null)) := by
  constructor
  · rintro ⟨entries', hjson', hreads⟩
    rw [hjson] at hjson'
    injection hjson' with hobj
    injection hobj with hentries
    exact hentries ▸ hreads
  · intro hreads
    exact ⟨entries, hjson, hreads⟩

/-- What is no JSON object cannot be read. -/
theorem not_connectEndReads {response : Option (ResponseMetadata p)} {data : Bytes}
    (hjson : ∀ entries, p.jsonLoads data ≠ .ok (.obj entries)) :
    ¬ ConnectEndReads response data := by
  rintro ⟨entries, heq, -⟩
  exact hjson entries heq

theorem handleConnectEnd_raised (hp : RaisesOwn p) {s : ReaderState p} {flags : UInt8}
    (hend : flags &&& 0b10 ≠ 0) (data : Bytes) :
    Raised (ConnectEndReads s.response data) (handleConnectEnd s flags data).2 := by
  rw [handleConnectEnd, if_neg hend]
  cases hjson : p.jsonLoads data with
  | error e =>
      exact Or.inr ⟨not_connectEndReads (by rw [hjson]; rintro entries ⟨⟩), e, rfl, hp.json data e hjson⟩
  | ok j =>
      cases j with
      | obj entries =>
          rw [Raised, connectEndReads_obj hjson]
          dsimp only
          -- The metadata are handled before the error is looked at.
          rcases metadata_handled s.response ((Json.field "metadata" entries).getD .null) with
            ⟨hmetadata, hnone⟩ | ⟨hmetadata, e, he, hbuiltin⟩
          · rw [hnone]
            dsimp only
            by_cases htruthy : ((Json.field "error" entries).getD .null).truthy = true
            · rw [if_pos htruthy]
              rcases fromDict_cases (p := p) ((Json.field "error" entries).getD .null) 500
                  .unknown with ⟨herror, w, hw⟩ | ⟨herror, e, he, hbuiltin⟩
              · rw [hw]
                refine Or.inl ⟨⟨hmetadata, fun _ => herror⟩, ?_⟩
                rintro e ⟨⟩
                rfl
              · rw [he]
                exact Or.inr ⟨fun h => herror (h.2 htruthy), e, rfl,
                  builtin_isConnectError hbuiltin⟩
            · rw [if_neg htruthy]
              exact Or.inl ⟨⟨hmetadata, fun h => absurd h htruthy⟩, by rintro e ⟨⟩⟩
          · rw [he]
            exact Or.inr ⟨fun h => hmetadata h.1, e, rfl, builtin_isConnectError hbuiltin⟩
      -- JSON that is no object has no `get`.
      | null => exact Or.inr ⟨not_connectEndReads (by rw [hjson]; rintro entries ⟨⟩), _, rfl, rfl⟩
      | bool b => exact Or.inr ⟨not_connectEndReads (by rw [hjson]; rintro entries ⟨⟩), _, rfl, rfl⟩
      | int n => exact Or.inr ⟨not_connectEndReads (by rw [hjson]; rintro entries ⟨⟩), _, rfl, rfl⟩
      | float bits => exact Or.inr ⟨not_connectEndReads (by rw [hjson]; rintro entries ⟨⟩), _, rfl, rfl⟩
      | str t => exact Or.inr ⟨not_connectEndReads (by rw [hjson]; rintro entries ⟨⟩), _, rfl, rfl⟩
      | arr items => exact Or.inr ⟨not_connectEndReads (by rw [hjson]; rintro entries ⟨⟩), _, rfl, rfl⟩

/-- When a line can be added: it has a colon, is UTF-8 and names a header that the
    container takes. -/
theorem addTrailerLine_eq_ok_iff {t t' : p.HTTPHeaders} {line : Bytes} :
    addTrailerLine t line = .ok t' ↔ ∃ key value name text,
      Utf8.splitFirst 0x3A line = some (key, value) ∧ Utf8.decode key = some name
        ∧ Utf8.decode value = some text
        ∧ p.addHeader t (Utf8.strip name) (Utf8.strip text) = .ok t' := by
  constructor
  · intro h
    rw [addTrailerLine] at h
    cases hsplit : Utf8.splitFirst 0x3A line with
    | none =>
        rw [hsplit] at h
        exact nomatch h
    | some parts =>
        obtain ⟨key, value⟩ := parts
        rw [hsplit] at h
        dsimp only at h
        cases hkey : Utf8.decode key with
        | none =>
            rw [hkey] at h
            exact nomatch h
        | some name =>
            cases hvalue : Utf8.decode value with
            | none =>
                rw [hkey, hvalue] at h
                exact nomatch h
            | some text =>
                rw [hkey, hvalue] at h
                exact ⟨key, value, name, text, rfl, hkey, hvalue, h⟩
  · rintro ⟨key, value, name, text, hsplit, hkey, hvalue, hadd⟩
    rw [addTrailerLine, hsplit]
    dsimp only
    rw [hkey, hvalue]
    exact hadd

/-- A line that cannot be added raises something else than a `ConnectError`. -/
theorem addTrailerLine_raised (hp : RaisesOwn p) {t : p.HTTPHeaders} {line : Bytes} {e : Exc}
    (h : addTrailerLine t line = .error e) : e.isConnectError = false := by
  rw [addTrailerLine] at h
  split at h
  · injection h with h
    exact h ▸ rfl
  · split at h
    · exact hp.header _ _ _ e h
    · injection h with h
      exact h ▸ rfl

theorem linesRead_cons {t : p.HTTPHeaders} {line : Bytes} {lines : List Bytes} (hne : line ≠ []) :
    LinesRead t (line :: lines) ↔ ∃ t', addTrailerLine t line = .ok t' ∧ LinesRead t' lines := by
  constructor
  · intro h
    cases h with
    | empty h => exact absurd rfl hne
    | line _ hsplit hkey hvalue hadd hlines =>
        exact ⟨_, addTrailerLine_eq_ok_iff.mpr ⟨_, _, _, _, hsplit, hkey, hvalue, hadd⟩, hlines⟩
  · rintro ⟨t', hline, hlines⟩
    obtain ⟨key, value, name, text, hsplit, hkey, hvalue, hadd⟩ :=
      addTrailerLine_eq_ok_iff.mp hline
    exact .line hne hsplit hkey hvalue hadd hlines

theorem linesRead_empty {t : p.HTTPHeaders} {lines : List Bytes} :
    LinesRead t ([] :: lines) ↔ LinesRead t lines := by
  constructor
  · intro h
    cases h with
    | empty h => exact h
    | line hne => exact absurd rfl hne
  · exact .empty

/-- The lines are added, or the first that cannot be read raises. -/
theorem addTrailerLines_raised (hp : RaisesOwn p) (lines : List Bytes) :
    ∀ t : p.HTTPHeaders, (LinesRead t lines ∧ (addTrailerLines t lines).2 = none)
      ∨ ¬ LinesRead t lines
        ∧ ∃ e, (addTrailerLines t lines).2 = some e ∧ e.isConnectError = false := by
  induction lines with
  | nil => exact fun t => Or.inl ⟨.nil, rfl⟩
  | cons line lines ih =>
      intro t
      rw [addTrailerLines]
      by_cases hempty : line = []
      · subst hempty
        rw [if_pos rfl, linesRead_empty]
        exact ih t
      · rw [if_neg hempty, linesRead_cons hempty]
        cases hline : addTrailerLine t line with
        | error e =>
            refine Or.inr ⟨?_, e, rfl, addTrailerLine_raised hp hline⟩
            rintro ⟨t', hok, -⟩
            exact nomatch hok
        | ok t' =>
            dsimp only
            rcases ih t' with ⟨hreads, hnone⟩ | ⟨hreads, he⟩
            · exact Or.inl ⟨⟨t', rfl, hreads⟩, hnone⟩
            · refine Or.inr ⟨?_, he⟩
              rintro ⟨t'', hok, hreads'⟩
              exact hreads (Except.ok.inj hok ▸ hreads')

/-- **Reading an end frame**, of every reader. -/
theorem handleEndMessage_raised (hp : RaisesOwn p) {k : ReaderKind} (s : ReaderState p)
    {flags : UInt8} (hend : IsEnd k flags) (data : Bytes) :
    Raised (EndReads k s.trailers s.response data) (handleEndMessage k s flags data).2 := by
  cases k with
  | server => exact absurd (UInt8.and_zero) hend
  | grpc => exact absurd (UInt8.and_zero) hend
  | connect => exact handleConnectEnd_raised hp hend data
  | grpcWeb =>
      have hflag : flags &&& 0b10000000 ≠ 0 := hend
      rw [handleEndMessage, handleWebEnd, if_neg hflag]
      dsimp only
      rcases addTrailerLines_raised hp (Utf8.splitCrLf data) s.trailers with
        ⟨hreads, hnone⟩ | ⟨hreads, e, he, hfalse⟩
      · rw [hnone]
        exact Or.inl ⟨hreads, by rintro e ⟨⟩⟩
      · rw [he]
        exact Or.inr ⟨hreads, e, rfl, hfalse⟩

/-- A frame that is no end frame is left to the decoder. -/
theorem handleEndMessage_ok {k : ReaderKind} {s : ReaderState p} {flags : UInt8}
    (hend : ¬ IsEnd k flags) (data : Bytes) :
    (handleEndMessage k s flags data).2 = .ok false := by
  cases k with
  | server => rfl
  | grpc => rfl
  | connect =>
      have hflag : flags &&& 0b10 = 0 := not_not.mp hend
      rw [handleEndMessage, handleConnectEnd, if_pos hflag]
  | grpcWeb =>
      have hflag : flags &&& 0b10000000 = 0 := not_not.mp hend
      rw [handleEndMessage, handleWebEnd, if_pos hflag]

/-! ## What a reader raises -/

/-- The codec and the compression raise exceptions only, whatever the data. -/
structure OnlyExceptions (cfg : ReaderConfig α) : Prop where
  codec       : ∀ data e, cfg.codec.decode data = .error e → e.isException = true
  compression : ∀ data limit e, cfg.compression.decompress data limit = .error e →
    e.isException = true

/-- Bytes that are messages, then an end frame that cannot be read. -/
def MalformedEnd (k : ReaderKind) (cfg : ReaderConfig α) (response : Option (ResponseMetadata p))
    (b : Bytes) : Prop :=
  ∃ ms body f rest data, Messages cfg ms body ∧ b = body ++ (Frame.bytes f ++ rest)
    ∧ f.flags &&& ~~~k.flagsMask = 0 ∧ exceeds f.payload.length cfg.readMaxBytes = false
    ∧ IsEnd k f.flags ∧ messageContents cfg f.flags f.payload = .ok data
    ∧ ¬ EndReads k p.emptyHeaders response data

theorem messageContents_connectError {cfg : ReaderConfig α} (hcfg : OnlyExceptions cfg)
    {flags : UInt8} {payload : Bytes} {e : Exc}
    (h : messageContents cfg flags payload = .error e) : e.isConnectError = true := by
  rw [messageContents] at h
  split at h
  · cases h
  · split at h
    · injection h with h
      exact h ▸ rfl
    · split at h
      · cases h
      · exact decompress_connectError hcfg.compression h

/-- A prefix is refused for its flags or for its length. -/
theorem readPrefix_raised {k : ReaderKind} {cfg : ReaderConfig α} {s s' : ReaderState p}
    {b : Bytes} {e : Exc} (h : readPrefix k cfg s b = .raised s' e) :
    5 ≤ b.length
      ∧ ((flagOf b &&& ~~~k.flagsMask ≠ 0
          ∧ e = .connect k.protocolErrorCode "protocol error: invalid envelope flags")
        ∨ flagOf b &&& ~~~k.flagsMask = 0 ∧ ∃ limit, cfg.readMaxBytes = some limit
          ∧ exceeds (lengthOf b) (some limit) = true ∧ e = messageTooLargeError limit) := by
  rw [readPrefix] at h
  split at h
  · cases h
  · next h5 =>
      refine ⟨Nat.le_of_not_lt h5, ?_⟩
      split at h
      · next hflags =>
          injection h with _ h
          exact Or.inl ⟨hflags, h.symm⟩
      · next hflags =>
          dsimp only at h
          split at h
          · cases h
          · next limit hlimit =>
              split at h
              · next hexceeds =>
                  injection h with _ h
                  exact Or.inr ⟨not_not.mp hflags, limit, hlimit, hexceeds, h.symm⟩
              · cases h

theorem readPrefix_connectError {k : ReaderKind} {cfg : ReaderConfig α} {s s' : ReaderState p}
    {b : Bytes} {e : Exc} (h : readPrefix k cfg s b = .raised s' e) : e.isConnectError = true := by
  obtain ⟨-, ⟨-, rfl⟩ | ⟨-, limit, -, -, rfl⟩⟩ := readPrefix_raised h
  · rfl
  · rfl

theorem checkEnded_connectError {k : ReaderKind} {r : Reader p} {e : Exc}
    (h : checkEnded k r = some e) : e.isConnectError = true := by
  rw [checkEnded] at h
  split at h
  · split at h
    · exact Option.some.inj h ▸ rfl
    · cases h
  · split at h
    · exact Option.some.inj h ▸ rfl
    · split at h
      · exact Option.some.inj h ▸ rfl
      · cases h

/-- **What a frame raises** is a `ConnectError`, or it is an end frame that cannot be
    read. -/
theorem handleFrame_raised (hp : RaisesOwn p) {k : ReaderKind} {cfg : ReaderConfig α}
    (hcfg : OnlyExceptions cfg) {s s' : ReaderState p} {flags : UInt8} {payload : Bytes} {e : Exc}
    (h : handleFrame k cfg s flags payload = .raised s' e) :
    e.isConnectError = true ∨ IsEnd k flags ∧ ∃ data, messageContents cfg flags payload = .ok data
      ∧ ¬ EndReads k s.trailers s.response data := by
  rcases handleFrame_cases k cfg s flags payload with
    ⟨e', hc, hr⟩ | ⟨data, t, hc, ⟨e', ht, hr⟩ | ⟨_, hr⟩ | ⟨_, ⟨e', hd, hr⟩ | ⟨m, _, hr⟩⟩⟩
  · rw [hr] at h
    injection h with _ h
    exact Or.inl (h ▸ messageContents_connectError hcfg hc)
  · rw [hr] at h
    injection h with _ h
    subst h
    by_cases hend : IsEnd k flags
    · rcases handleEndMessage_raised hp s hend data with ⟨-, honly⟩ | ⟨hnot, -⟩
      · exact Or.inl (honly e' (congrArg Prod.snd ht))
      · exact Or.inr ⟨hend, data, hc, hnot⟩
    · have hok := handleEndMessage_ok (s := s) hend data
      rw [ht] at hok
      exact nomatch hok
  · rw [hr] at h
    exact nomatch h
  · rw [hr] at h
    injection h with _ h
    exact Or.inl (h ▸ decodeMessage_connectError hcfg.codec hd)
  · rw [hr] at h
    exact nomatch h

/-- An end frame that cannot be read raises something else. -/
theorem handleFrame_malformed (hp : RaisesOwn p) {k : ReaderKind} {cfg : ReaderConfig α}
    {s : ReaderState p} {flags : UInt8} {payload data : Bytes} (hend : IsEnd k flags)
    (hdata : messageContents cfg flags payload = .ok data)
    (hnot : ¬ EndReads k s.trailers s.response data) :
    ∃ s' e, handleFrame k cfg s flags payload = .raised s' e ∧ e.isConnectError = false := by
  rcases handleEndMessage_raised hp s hend data with ⟨hreads, -⟩ | ⟨-, e, he, hfalse⟩
  · exact absurd hreads hnot
  · refine ⟨(handleEndMessage k s flags data).1, e, ?_, hfalse⟩
    rw [handleFrame, hdata]
    dsimp only
    rw [show handleEndMessage k s flags data = (_, .error e) from Prod.ext rfl he]

/-- What a block around a reader raises, as it should be: a `ConnectError`, and the
    reader's own code for an end frame that cannot be read. -/
structure Reported (k : ReaderKind) (cfg : ReaderConfig α)
    (response : Option (ResponseMetadata p)) (chunks : List Bytes) : Prop where
  connect  : ∀ e, (withBlock k cfg (Reader.new response) chunks).error = some e →
    e.isConnectError = true
  malformed : MalformedEnd k cfg response chunks.flatten →
    ∃ error, (withBlock k cfg (Reader.new response) chunks).error = some (.connectError error)
      ∧ error.code = k.protocolErrorCode

/-- **Bad bytes** become a `ConnectError`, over any chunks, exactly when they are not
    an end frame that cannot be read; and so it is when an end frame is handled by
    itself. -/
theorem bad_bytes_iff (hp : RaisesOwn p) (k : ReaderKind) {cfg : ReaderConfig α}
    (hcfg : OnlyExceptions cfg) (response : Option (ResponseMetadata p)) :
    (∀ chunks, Reported k cfg response chunks ↔ ¬ MalformedEnd k cfg response chunks.flatten)
      ∧ ∀ (s : ReaderState p) (flags : UInt8) (data : Bytes), IsEnd k flags →
        ((∀ e, (handleEndMessage k s flags data).2 = .error e → e.isConnectError = true)
          ↔ EndReads k s.trailers s.response data) := by
  constructor
  · intro chunks
    constructor
    · rintro hreported ⟨ms, body, f, rest, data, hms, hflatten, hlegal, hfits, hend, hdata, hnot⟩
      -- An end frame that cannot be read raises what is no `ConnectError`.
      obtain ⟨s', e, hframe, hfalse⟩ := handleFrame_malformed
        (s := afterMessages k (start response) ms) hp hend hdata
        (by rw [afterMessages_trailers, afterMessages_response]; exact hnot)
      have hdrain := drain_start_bytes hms hlegal hfits rest response
      rw [hframe, ← hflatten] at hdrain
      obtain ⟨-, herror, -⟩ := feedAll_drain k cfg response hdrain
      have htrue := hreported.connect e (by rw [withBlock, herror]; exact herror)
      rw [hfalse] at htrue
      cases htrue
    · intro hnot
      refine ⟨fun e he => ?_, fun h => absurd h hnot⟩
      -- Wherever the reader stops, what it raises there is one, or there is such a frame.
      obtain ⟨ms, body, tail, r, hms, hflatten, hstops, -, herror, -⟩ :=
        feedAll_stops k cfg response chunks
      rw [withBlock, herror] at he
      cases hstops with
      | short h5 => exact checkEnded_connectError he
      | cut h5 hflags hfits hlt => exact checkEnded_connectError he
      | refused hprefix =>
          rw [show e = _ from (Option.some.inj (herror.symm.trans he)).symm]
          exact readPrefix_connectError hprefix
      | ended hlegal hfits hframe => exact checkEnded_connectError he
      | @raised f rest s' e' hlegal hfits hframe =>
          rcases handleFrame_raised hp hcfg hframe with htrue | ⟨hend, data, hdata, hreads⟩
          · rw [show e = _ from (Option.some.inj (herror.symm.trans he)).symm]
            exact htrue
          · rw [afterMessages_trailers, afterMessages_response] at hreads
            exact absurd ⟨ms, body, f, rest, data, hms, hflatten, hlegal, hfits, hend, hdata,
              hreads⟩ hnot
  · intro s flags data hend
    rcases handleEndMessage_raised hp s hend data with ⟨hreads, honly⟩ | ⟨hnot, e, he, hfalse⟩
    · exact iff_of_true honly hreads
    · refine iff_of_false (fun honly => ?_) hnot
      rw [honly e he] at hfalse
      cases hfalse

/-- Bytes as messages, uncompressed and of any length. -/
def rawConfig : ReaderConfig Bytes := ⟨.raw, .identity, none⟩

theorem rawConfig_onlyExceptions : OnlyExceptions rawConfig where
  codec := nofun
  compression := by
    intro data limit e h
    cases limit with
    | none => exact nomatch h
    | some limit =>
        rw [rawConfig, Compression.decompress] at h
        split at h
        · injection h with h
          exact h ▸ rfl
        · exact nomatch h

theorem plain_raisesOwn : RaisesOwn Platform.plain where
  json := by
    rintro data e ⟨⟩
    rfl
  header := by
    intro t name value e h
    by_cases hclean : (isToken name && isFieldValue value) = true
    · exact nomatch (if_pos hclean).symm.trans h
    · have hinvalid := (if_neg hclean).symm.trans h
      injection hinvalid with hinvalid
      exact hinvalid ▸ rfl

/-- A trailer frame whose line has no colon. -/
def noColonFrame : Frame := ⟨0x80, [0x78], by decide⟩

theorem malformedEnd_noColon :
    MalformedEnd .grpcWeb rawConfig (none : Option (ResponseMetadata Platform.plain))
      [noColonFrame.bytes].flatten := by
  have hend : IsEnd .grpcWeb noColonFrame.flags := by
    rw [IsEnd]
    decide
  refine ⟨[], [], noColonFrame, [], [0x78], .nil, rfl, by decide, rfl, hend, rfl, fun h => ?_⟩
  have hlines : Utf8.splitCrLf [0x78] = [[0x78]] := rfl
  rw [EndReads, hlines] at h
  cases h with
  | line hne hsplit => exact nomatch hsplit

theorem bad_bytes_noColon :
    ¬ Reported .grpcWeb rawConfig (none : Option (ResponseMetadata Platform.plain))
      [noColonFrame.bytes] :=
  fun h => ((bad_bytes_iff plain_raisesOwn .grpcWeb rawConfig_onlyExceptions none).1
    [noColonFrame.bytes]).mp h malformedEnd_noColon

/-- Such a frame lets the `ValueError` of the assignment out. -/
theorem noColon_raises_value_error :
    (withBlock .grpcWeb rawConfig (Reader.new none : Reader Platform.plain)
        [noColonFrame.bytes]).error
      = some (.exception .valueError "not enough values to unpack (expected 2, got 1)") := by
  have hdrain := drain_start_frame (k := .grpcWeb) (p := Platform.plain) (f := noColonFrame)
    (show Messages rawConfig [] [] from .nil) (by decide) rfl none
  have hchunks : ([] : Bytes) ++ noColonFrame.bytes = [noColonFrame.bytes].flatten := rfl
  rw [hchunks] at hdrain
  exact congrArg Drained.error (withBlock_of_drain_error hdrain)

end ConnectAnyBytes
