import ConnectPy.EnvelopeGrammarProofs

/-! # End messages — what is written at the end of a stream, and how it is read

    A Connect stream ends with a JSON object that holds the response trailers,
    grouped by key, and the error.  A gRPC stream ends with HTTP trailers; in
    gRPC-Web the same trailers are lines of text.

    For each form the reader's handler is evaluated on what the writer produces:
    `handleConnectEnd_endMessage` and `handleWebEnd_trailerData`.  The trailer
    lines are read back for names that are HTTP tokens and values without control
    characters (`CleanItem`); the server's own names and values are of that kind. -/

namespace ConnectEndMessage

open Utf8 (Bytes)
open OrderedDict
open ConnectErrors ConnectPlatform ConnectHeaders ConnectWireErrors ConnectGrpcStatus
open ConnectEnvelope ConnectGrammar

variable {p : Platform}

/-! ## Writing -/

/-- `metadata.setdefault(key, []).append(value)` over all pairs. -/
def metadataEntries (userTrailers : Headers p) : List (String × Json) :=
  (Multimap.ofItems userTrailers.allitems).entries.map fun g =>
    (g.1, .arr ((g.2.1 :: g.2.2).map .str))

/-- The end message of a Connect stream. -/
def endMessage (userTrailers : Headers p) (error : Option ConnectWireError) : Json :=
  .obj ((if userTrailers.nonempty then [("metadata", .obj (metadataEntries userTrailers))] else [])
    ++ match error with
      | some e => [("error", .obj e.toDict)]
      | none => [])

/-- The data of the end message, before compression.  The texts are Unicode: a Python
    `str` with a lone surrogate, on which `encode` raises, is no `String`. -/
def endMessageData (userTrailers : Headers p) (error : Option ConnectWireError) : Bytes :=
  Utf8.encode (p.jsonDumps (endMessage userTrailers error))

/-- `GRPCEnvelopeWriter.end`. -/
def grpcEnd (userTrailers : Headers p) (error : Option ConnectWireError) : Headers p :=
  statusTrailers userTrailers error

/-- One line of a trailer frame. -/
def trailerLine (item : String × String) : String := item.1 ++ ": " ++ item.2 ++ "\r\n"

/-- The data of a trailer frame, before compression. -/
def trailerData (userTrailers : Headers p) (error : Option ConnectWireError) : Bytes :=
  Utf8.encode (String.join ((grpcEnd userTrailers error).allitems.map trailerLine))

/-! ## Reading the metadata of an end message -/

theorem entriesPairs_groups (gs : List (String × String × List String)) :
    entriesPairs p (gs.map fun g => (g.1, .arr ((g.2.1 :: g.2.2).map .str)))
      = ⟨gs.flatMap Multimap.groupItems, none⟩ := by
  induction gs with
  | nil => rfl
  | cons g gs ih =>
      obtain ⟨k, v, vs⟩ := g
      have hfirst : entryPairs p k (.arr ((v :: vs).map .str))
          = ⟨Multimap.groupItems (k, v, vs), none⟩ := by
        rw [entryPairs, List.map_map]
        rfl
      rw [List.map_cons, entriesPairs, ih]
      dsimp only
      rw [hfirst]
      rfl

/-- **The metadata of an end message are its trailers**, in their order. -/
theorem metadataPairs_entries (t : Headers p) :
    metadataPairs p (.obj (metadataEntries t)) = ⟨t.allitems, none⟩ := by
  rw [metadataPairs, metadataEntries, entriesPairs_groups]
  show (⟨Multimap.allitems (Multimap.ofItems t.allitems), none⟩ : Pairs) = _
  rw [t.allitems_eq, Multimap.ofItems_allitems]

theorem handleResponseTrailers_ok (current : Option (ResponseMetadata p))
    (added : List (String × String)) :
    (handleResponseTrailers current ⟨added, none⟩).2 = none := by
  cases current with
  | none => rfl
  | some response =>
      obtain ⟨r, hr, -⟩ := getTrailers_handleResponseTrailers response added
      rw [hr]

/-- The ambient metadata after some trailers were handed over, if any. -/
def withTrailers (current : Option (ResponseMetadata p)) (t : Headers p) :
    Option (ResponseMetadata p) :=
  if t.nonempty then (handleResponseTrailers current ⟨t.allitems, none⟩).1 else current

theorem metadataEntries_truthy {t : Headers p} (ht : t.nonempty = true) :
    (Json.obj (metadataEntries t)).truthy = true := by
  have hne : Multimap.ofItems t.allitems ≠ Dict.empty := by
    rw [t.allitems_eq, Multimap.ofItems_allitems]
    intro h
    rw [(t.nonempty_eq_false_iff).mpr h] at ht
    exact nomatch ht
  rw [Json.truthy, metadataEntries, Bool.not_eq_true', List.isEmpty_eq_false_iff]
  intro h
  exact hne (Dict.ext (List.map_eq_nil_iff.mp h))

theorem endMessage_fields (t : Headers p) (error : Option ConnectWireError) :
    ∃ entries, endMessage t error = .obj entries
      ∧ Json.field "metadata" entries
        = (if t.nonempty then some (.obj (metadataEntries t)) else none)
      ∧ Json.field "error" entries = error.map fun e => .obj e.toDict := by
  refine ⟨_, rfl, ?_, ?_⟩
  · cases t.nonempty with
    | true => exact Json.field_cons_self _ _ _
    | false =>
        cases error with
        | none => rfl
        | some e => exact Json.field_cons_ne (by decide) _ _
  · cases t.nonempty with
    | true =>
        refine (Json.field_cons_ne (by decide) _ _).trans ?_
        cases error with
        | none => rfl
        | some e => exact Json.field_cons_self _ _ _
    | false =>
        cases error with
        | none => rfl
        | some e => exact Json.field_cons_self _ _ _

/-- An error as a client raises it. -/
def raised (e : ConnectWireError) : Exc :=
  .connectError ⟨e.code, e.message, e.details.map received⟩

/-- What the end of a Connect stream comes to: it is recognized, or its error is
    raised. -/
def endResult : Option ConnectWireError → Except Exc Bool
  | none => .ok true
  | some e => .error (raised e)

/-- **Reading the end of a Connect stream.**  The trailers go to the ambient
    metadata, and the error is raised. -/
theorem handleConnectEnd_endMessage {s : ReaderState p} {b : UInt8} (hb : b &&& 0b10 ≠ 0)
    {t : Headers p} {error : Option ConnectWireError} {data : Bytes}
    (hjson : p.jsonLoads data = .ok (endMessage t error)) :
    handleConnectEnd s b data
      = ({ s with response := withTrailers s.response t }, endResult error) := by
  obtain ⟨entries, hend, hmetadata, herror⟩ := endMessage_fields t error
  have hhandled : (if ((Json.field "metadata" entries).getD .null).truthy = true then
      handleResponseTrailers s.response
        (metadataPairs p ((Json.field "metadata" entries).getD .null))
      else (s.response, none)) = (withTrailers s.response t, none) := by
    rw [hmetadata, withTrailers]
    cases ht : t.nonempty with
    | true =>
        rw [if_pos rfl, if_pos rfl, Option.getD_some, metadataEntries_truthy ht, if_pos rfl,
          metadataPairs_entries]
        exact Prod.ext rfl (handleResponseTrailers_ok _ _)
    | false => rfl
  rw [handleConnectEnd, if_neg hb, hjson, hend]
  dsimp only
  rw [hhandled, herror]
  dsimp only
  cases error with
  | none => rfl
  | some e =>
      rw [Option.map_some, Option.getD_some, toDict_truthy, if_pos rfl, fromDict_toDict]
      rfl

/-! ## Reading the lines of a trailer frame -/

/-- A name that is an HTTP token and a value that an HTTP field can have. -/
def CleanItem (item : String × String) : Prop :=
  isToken item.1 = true ∧ isFieldValue item.2 = true

/-- The bytes of one line, without its end. -/
def lineBytes (item : String × String) : Bytes :=
  Utf8.encode item.1 ++ 0x3A :: 0x20 :: Utf8.encode item.2

theorem lineBytes_ne_nil (item : String × String) : lineBytes item ≠ [] := by
  rw [lineBytes]
  simp

/-- The text of a trailer frame, line by line. -/
theorem encode_trailerLines (items : List (String × String)) :
    Utf8.encode (String.join (items.map trailerLine))
      = (items.map lineBytes).flatMap fun line => line ++ [13, 10] := by
  induction items with
  | nil => rfl
  | cons item items ih =>
      have hline : Utf8.encode (trailerLine item) = lineBytes item ++ [13, 10] := by
        simp only [trailerLine, Utf8.encode_append, lineBytes]
        rw [show Utf8.encode ": " = [0x3A, 0x20] by decide,
          show Utf8.encode "\r\n" = [13, 10] by decide]
        simp
      rw [List.map_cons, String.join_cons, Utf8.encode_append, hline, ih]
      rfl

/-- A token is made of visible ASCII characters other than the colon. -/
theorem isTokenChar_visible {c : Char} (h : isTokenChar c = true) :
    0x21 ≤ c.toNat ∧ c.toNat ≤ 0x7E ∧ c.toNat ≠ 0x3A := by
  simp only [isTokenChar, Bool.or_eq_true, Bool.and_eq_true, decide_eq_true_eq] at h
  rcases h with ((h | h) | h) | h
  · omega
  · omega
  · omega
  · simp only [List.mem_cons, List.not_mem_nil, or_false] at h
    rcases h with rfl | rfl | rfl | rfl | rfl | rfl | rfl | rfl | rfl | rfl | rfl | rfl | rfl
      | rfl | rfl <;> decide

theorem isToken_visible {s : String} (h : isToken s = true) :
    ∀ c ∈ s.toList, 0x21 ≤ c.toNat ∧ c.toNat ≤ 0x7E ∧ c.toNat ≠ 0x3A := by
  rw [isToken, Bool.and_eq_true, List.all_eq_true] at h
  exact fun c hc => isTokenChar_visible (h.2 c hc)

theorem isSpace_visible {c : Char} (h : 0x21 ≤ c.toNat ∧ c.toNat ≤ 0x7E) :
    Utf8.isSpace c = false := by
  rw [Utf8.isSpace, decide_eq_false_iff_not]
  intro hm
  simp only [List.mem_cons, List.not_mem_nil, or_false] at hm
  omega

theorem stripped_token {s : String} (h : isToken s = true) : Utf8.Stripped s := by
  have hv := isToken_visible h
  constructor
  · intro c hc
    obtain ⟨h1, h2, _⟩ := hv c (List.mem_of_mem_head? hc)
    exact isSpace_visible ⟨h1, h2⟩
  · intro c hc
    obtain ⟨h1, h2, _⟩ := hv c (List.mem_of_mem_getLast? hc)
    exact isSpace_visible ⟨h1, h2⟩

theorem isFieldValue_iff (s : String) :
    isFieldValue s = true ↔ ∀ c ∈ s.toList, isControl c = false := by
  rw [isFieldValue, List.all_eq_true]
  constructor
  · intro h c hc
    simpa using h c hc
  · intro h c hc
    simpa using h c hc

/-- In particular such a value cannot end a line. -/
theorem ne_cr_of_not_control {c : Char} (h : isControl c = false) : c.toNat ≠ 13 := by
  intro hc
  rw [isControl, hc] at h
  cases h

/-- What is added for one item: its value behind the separator, stripped. -/
def readItem (p : Platform) (item : String × String) : String × String :=
  (p.lower item.1, Utf8.strip (" " ++ item.2))

theorem isFieldValue_read {v : String} (h : isFieldValue v = true) :
    isFieldValue (Utf8.strip (" " ++ v)) = true := by
  rw [isFieldValue_iff] at h ⊢
  intro c hc
  have hmem := Utf8.mem_strip hc
  rw [String.toList_append, List.mem_append] at hmem
  rcases hmem with hsp | hv
  · have hc' : c = ' ' := by simpa using hsp
    subst hc'
    decide
  · exact h c hv

/-- A line of a clean item is split at the separator the writer put there. -/
theorem addTrailerLine_clean {item : String × String} (h : CleanItem item)
    (trailers : p.HTTPHeaders) :
    ∃ trailers', addTrailerLine trailers (lineBytes item) = .ok trailers'
      ∧ p.content trailers'
        = Multimap.add (p.content trailers) (readItem p item).1 (readItem p item).2 := by
  obtain ⟨key, value⟩ := item
  have hcolon : (0x3A : UInt8) ∉ Utf8.encode key :=
    Utf8.ascii_notMem_encode (by decide) fun c hc => (isToken_visible h.1 c hc).2.2
  have hsp : Utf8.decode (0x20 :: Utf8.encode value) = some (" " ++ value) := by
    rw [← Utf8.decode_encode (" " ++ value), Utf8.encode_append]
    rfl
  obtain ⟨trailers', hadd⟩ := p.addHeader_token trailers key (Utf8.strip (" " ++ value)) h.1
    (isFieldValue_read h.2)
  refine ⟨trailers', ?_, p.content_add hadd⟩
  rw [addTrailerLine, lineBytes, Utf8.splitFirst_append _ _ hcolon]
  dsimp only
  rw [Utf8.decode_encode, hsp]
  dsimp only
  rw [Utf8.strip_of_stripped (stripped_token h.1), hadd]

/-- **Reading trailer lines.**  Clean items are all added, in their order. -/
theorem addTrailerLines_clean {items : List (String × String)}
    (h : ∀ item ∈ items, CleanItem item) :
    ∀ trailers : p.HTTPHeaders, ∃ trailers',
      addTrailerLines trailers (items.map lineBytes ++ [[]]) = (trailers', none)
        ∧ p.content trailers' = Multimap.addAll (p.content trailers) (items.map (readItem p)) := by
  induction items with
  | nil => exact fun trailers => ⟨trailers, rfl, rfl⟩
  | cons item items ih =>
      intro trailers
      obtain ⟨t1, hline, hcontent1⟩ := addTrailerLine_clean (p := p) (h item (by simp)) trailers
      obtain ⟨t2, hlines, hcontent2⟩ := ih (fun i hi => h i (List.mem_cons_of_mem _ hi)) t1
      refine ⟨t2, ?_, ?_⟩
      · rw [List.map_cons, List.cons_append, addTrailerLines, if_neg (lineBytes_ne_nil item),
          hline]
        exact hlines
      · rw [hcontent2, hcontent1]
        rfl

/-- A clean item has no CR in its line. -/
theorem lineBytes_noCr {item : String × String} (h : CleanItem item) : 13 ∉ lineBytes item := by
  have hkey : (13 : UInt8) ∉ Utf8.encode item.1 :=
    Utf8.ascii_notMem_encode (by decide) fun c hc he => by
      have hv := isToken_visible h.1 c hc
      rw [he] at hv
      exact absurd hv.1 (by decide)
  have hvalue : (13 : UInt8) ∉ Utf8.encode item.2 :=
    Utf8.ascii_notMem_encode (by decide) fun c hc =>
      ne_cr_of_not_control ((isFieldValue_iff _).mp h.2 c hc)
  rw [lineBytes, List.mem_append, List.mem_cons, List.mem_cons]
  rintro (hk | he | he | hv)
  · exact hkey hk
  · exact absurd he (by decide)
  · exact absurd he (by decide)
  · exact hvalue hv

/-- The data of clean items, read as a trailer frame. -/
theorem addTrailerLines_data {items : List (String × String)}
    (h : ∀ item ∈ items, CleanItem item) (trailers : p.HTTPHeaders) :
    ∃ trailers', addTrailerLines trailers
        (Utf8.splitCrLf (Utf8.encode (String.join (items.map trailerLine)))) = (trailers', none)
      ∧ p.content trailers' = Multimap.addAll (p.content trailers) (items.map (readItem p)) := by
  have hlines : Utf8.splitCrLf (Utf8.encode (String.join (items.map trailerLine)))
      = items.map lineBytes ++ [[]] := by
    rw [encode_trailerLines]
    refine Utf8.splitCrLf_lines _ ?_
    intro line hline
    obtain ⟨item, hitem, rfl⟩ := List.mem_map.mp hline
    exact lineBytes_noCr (h item hitem)
  rw [hlines]
  exact addTrailerLines_clean h trailers

/-! ## The server's own trailers -/

theorem isFieldValue_quote (s : String) : isFieldValue (Utf8.quote s) = true := by
  have hbyte : ∀ b : UInt8, (Utf8.quoteByte b).all (fun c => !isControl c) = true := by
    refine forall_byte ?_
    decide +kernel
  rw [isFieldValue_iff, Utf8.quote, String.toList_ofList]
  intro c hc
  obtain ⟨b, _, hb⟩ := List.mem_flatMap.mp hc
  simpa using List.all_eq_true.mp (hbyte b) c hb

theorem isFieldValue_base64 (data : Bytes) :
    isFieldValue (Base64.rstripPad (Base64.encode data)) = true := by
  have halphabet : ∀ n < 64, isControl (Base64.alphabet n) = false := by decide
  rw [isFieldValue_iff, Base64.rstripPad_encode, String.toList_ofList]
  intro c hc
  obtain ⟨n, hn, rfl⟩ := Base64.encodeData_alphabet data c hc
  exact halphabet n hn

theorem statusAssignments_clean {error : Option ConnectWireError} {a : String × String}
    (ha : a ∈ statusAssignments p error) : CleanItem a := by
  have hcode : ∀ c : Code, isFieldValue (connectStatusToGrpc c) = true := by
    intro c
    cases c <;> decide
  refine ⟨?_, ?_⟩
  · rcases statusAssignments_name ha with h | h | h <;> rw [h] <;> decide
  · cases error with
    | none =>
        obtain rfl := List.mem_singleton.mp ha
        decide
    | some e =>
        rw [statusAssignments, List.mem_append, List.mem_append] at ha
        rcases ha with (ha | ha) | ha
        · obtain rfl := List.mem_singleton.mp ha
          exact hcode e.code
        · split at ha
          · obtain rfl := List.mem_singleton.mp ha
            exact isFieldValue_quote e.message
          · cases ha
        · split at ha
          · cases ha
          · obtain rfl := List.mem_singleton.mp ha
            exact isFieldValue_base64 _

/-- **The status does not spoil clean trailers.** -/
theorem statusTrailers_clean {t : Headers p} (h : ∀ e ∈ t.allitems, CleanItem e)
    (error : Option ConnectWireError) :
    ∀ e ∈ (statusTrailers t error).allitems, CleanItem e := by
  intro e he
  rw [Headers.allitems_eq, groups_statusTrailers] at he
  rcases Multimap.mem_allitems_setAll he with hold | hnew
  · rw [← Headers.allitems_eq] at hold
    exact h e hold
  · exact statusAssignments_clean hnew

/-- **Reading the end of a gRPC-Web stream** whose lines are those of clean items. -/
theorem handleWebEnd_lines {s : ReaderState p} {b : UInt8} (hb : b &&& 0b10000000 ≠ 0)
    {items : List (String × String)} (h : ∀ e ∈ items, CleanItem e) :
    ∃ trailers, handleWebEnd s b (Utf8.encode (String.join (items.map trailerLine)))
        = ({ s with readMessage := true, trailers := trailers }, .ok true)
      ∧ p.content trailers = Multimap.addAll (p.content s.trailers) (items.map (readItem p)) := by
  obtain ⟨trailers, hadd, hcontent⟩ := addTrailerLines_data h s.trailers
  exact ⟨trailers, (handleWebEnd_iff hb _).mpr ⟨trailers, hadd, rfl⟩, hcontent⟩

end ConnectEndMessage
