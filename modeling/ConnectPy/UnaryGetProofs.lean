import ConnectPy.CompressionAgreementProofs

/-! # Unary calls by GET

    A call without side effects may go out as a GET request: the message is put
    into the query in base64, and the name of its compression moves from a header
    to a parameter.  `unaryRequest` is the request of a client.

    Both requests are read alike by both servers and come to the message that was
    sent (`get_means_post`), as long as compressing does not make something into
    nothing: a server does not decompress an empty body.  And the compression has a
    name, since the empty one is read as identity. -/

namespace ConnectUnaryGet

open Utf8 (Bytes)
open OrderedDict
open ConnectErrors ConnectPlatform ConnectHeaders ConnectWireErrors ConnectWriter
open ConnectUnaryRequest ConnectClientRequest ConnectNegotiation ConnectCompression

variable {p : Platform} {α : Type}

/-! ## The client -/

/-- What a unary call sends. -/
inductive HttpRequest where
  | get (params : List (String × String)) (headers : Multimap String String)
  | post (headers : Multimap String String) (content : Bytes)

/-- The request of `_send_request_unary` for the Connect protocol. -/
def unaryRequest (codec : Codec α) (sendCompression : Compression) (useGet : Bool)
    (requestHeaders : Headers p) (request : α) : Except Exc HttpRequest :=
  match codec.encode request with
  | .error e => .error e
  | .ok requestData =>
      match sendCompression.compress requestData with
      | .error e => .error e
      | .ok requestData =>
          let headers := Multimap.ofItems requestHeaders.allitems
          if useGet then
            let prepared := prepareGetParams codec.name requestData headers
            .ok (.get prepared.1 (prepared.2.erase "content-type"))
          else .ok (.post headers requestData)

section Sent

variable {codec : Codec α} {m : α} {data out : Bytes} {c : Compression}

theorem unaryRequest_get (hencode : codec.encode m = .ok data) (hcompress : c.compress data = .ok out)
    (headers : Headers p) :
    unaryRequest codec c true headers m
      = .ok (.get (prepareGetParams codec.name out (Multimap.ofItems headers.allitems)).1
          ((prepareGetParams codec.name out (Multimap.ofItems headers.allitems)).2.erase
            "content-type")) := by
  rw [unaryRequest, hencode]
  dsimp only
  rw [hcompress]
  rfl

theorem unaryRequest_post (hencode : codec.encode m = .ok data)
    (hcompress : c.compress data = .ok out) (headers : Headers p) :
    unaryRequest codec c false headers m
      = .ok (.post (Multimap.ofItems headers.allitems) out) := by
  rw [unaryRequest, hencode]
  dsimp only
  rw [hcompress]
  rfl

end Sent

/-! ## The query -/

section Query

variable (codecName : String) (requestData : Bytes) (headers : Multimap String String)

/-- **The message** comes out of the query as it went in, whatever its length. -/
theorem messageParameter_prepareGetParams :
    messageParameter (Multimap.ofItems (prepareGetParams codecName requestData headers).1)
      (Base64.urlsafeEncode requestData) = .ok requestData := by
  have hdecode : urlsafeDecodePadded (Base64.urlsafeEncode requestData) = .ok requestData := by
    rw [urlsafeDecodePadded, Base64.map_urlsafeEncode, decodePadded, Base64.decode_encode_pads]
  rw [messageParameter, if_pos (first?_prepareGetParams codecName requestData headers).1, hdecode]

/-- What a server goes on with: the bytes, and the name that was in the header. -/
theorem readGetRequest_prepareGetParams (server : Server α) {headers : Multimap String String}
    {name : String} (hname : Multimap.first? headers "content-encoding" = some name) :
    readGetRequest server (Multimap.ofItems (prepareGetParams codecName requestData headers).1)
      = server.decodeBody (orIdentity (some name)) requestData := by
  obtain ⟨-, -, hmessage, hcompression⟩ :=
    first?_prepareGetParams codecName requestData headers
  rw [readGetRequest, hmessage]
  dsimp only
  rw [messageParameter_prepareGetParams, hcompression, hname]

end Query

/-! ## The message -/

/-- Decompressing and decoding undo encoding and compressing. -/
theorem decodeWith_compressed {codec : Codec α} {m : α} {data out : Bytes}
    {readMaxBytes : Option Int} {c : Compression} (hdecode : codec.decode data = .ok m)
    (hout : data ≠ [] → out ≠ []) (hback : c.decompress out readMaxBytes = .ok data) :
    decodeWith codec readMaxBytes out c = .ok m := by
  rw [decodeWith]
  by_cases hempty : out = []
  · -- Nothing is not decompressed, and it was nothing before.
    have hdata : data = [] := by
      by_contra hne
      exact hout hne hempty
    rw [if_pos hempty, hempty, ← hdata]
    exact decodeMessage_ok hdecode
  · rw [if_neg hempty, decompress_ok hback]
    exact decodeMessage_ok hdecode

/-- A value is within the limit for both forms of the check. -/
theorem tooLarge_of_exceeds {n : Nat} {limit : Option Int} (h : exceeds n limit = false) :
    tooLarge n limit = none := by
  cases limit with
  | none => rfl
  | some limit => exact if_neg (of_decide_eq_false h)

/-- **GET means the same as POST.**  For every message that its codec and the send
    compression give back, with that compression registered on the server: what the
    servers read from the query is what they read from the body, and it is the
    message; also where the message is encoded as nothing. -/
theorem get_means_post {codec : Codec α} {m : α} {data out : Bytes} {c : Compression}
    {compressions : Compressions} {readMaxBytes : Option Int}
    (hencode : codec.encode m = .ok data) (hdecode : codec.decode data = .ok m)
    (hcompress : c.compress data = .ok out) (hback : c.decompress out readMaxBytes = .ok data)
    (hout : data ≠ [] → out ≠ []) (hlimit : exceeds out.length readMaxBytes = false)
    (hregistered : compressions.get? c.name = some c) (hname : c.name ≠ "")
    (userAgent : String) (call : Call p) (hstream : call.stream = false)
    (hsend : call.sendCompression = some c) :
    (∃ params headers,
      unaryRequest codec c true (requestHeaders .connect userAgent call) m
          = .ok (.get params headers)
        ∧ Multimap.first? (Multimap.ofItems params) "encoding" = some codec.name
        ∧ Multimap.first? headers "content-encoding" = none
        ∧ readGetRequest ⟨codec, compressions, readMaxBytes⟩ (Multimap.ofItems params) = .ok m
        ∧ handleGetRequest ⟨codec, compressions, readMaxBytes⟩ (Multimap.ofItems params) = .ok m)
    ∧ ∃ headers,
      unaryRequest codec c false (requestHeaders .connect userAgent call) m
          = .ok (.post headers out)
        ∧ Multimap.first? headers "content-encoding" = some c.name
        ∧ ∀ server : Headers p, server.get? "content-encoding" = some c.name →
          (∀ events, Splits events out →
            readPostRequest ⟨codec, compressions, readMaxBytes⟩ events server = some (.ok m))
          ∧ ∀ environ : Environ, environ.wsgiInput.data = out →
            Truthful environ.contentLength out →
            environ.httpContentEncoding = server.get? "content-encoding" →
            handlePostRequest ⟨codec, compressions, readMaxBytes⟩ environ = .ok m := by
  have hheader := first?_requestHeaders userAgent hstream hsend
  -- Both ways come to this: the bytes of the query are those of the body.
  have hmessage : withNamed compressions c.name (decodeWith codec readMaxBytes out) = .ok m := by
    rw [withNamed, hregistered]
    exact decodeWith_compressed hdecode hout hback
  have hsmall := tooLarge_of_exceeds hlimit
  constructor
  · obtain ⟨-, hencoding, -, -⟩ := first?_prepareGetParams codec.name out
      (Multimap.ofItems (requestHeaders .connect userAgent call).allitems)
    have hread : readGetRequest ⟨codec, compressions, readMaxBytes⟩ (Multimap.ofItems
        (prepareGetParams codec.name out
          (Multimap.ofItems (requestHeaders .connect userAgent call).allitems)).1) = .ok m := by
      rw [readGetRequest_prepareGetParams codec.name out _ hheader, orIdentity_some hname,
        decodeBody_named, hmessage]
    refine ⟨_, _, unaryRequest_get hencode hcompress _, hencoding, ?_, hread, ?_⟩
    · show (Dict.get? _ _).map Prod.fst = none
      rw [Dict.get?_erase_ne _ (by decide), prepareGetParams, Dict.get?_erase_self]
      rfl
    · rw [handleGetRequest, hread]
      rfl
  · refine ⟨_, unaryRequest_post hencode hcompress _, hheader, ?_⟩
    intro server hserver
    refine ⟨?_, ?_⟩
    · intro events hbody
      rw [readPostRequest_named hbody hsmall hname hserver, hmessage]
    · rintro environ rfl htruth hencoding
      rw [handlePostRequest_named htruth hsmall hname (hencoding.trans hserver), hmessage]
      rfl

/-- A compression that turns the bytes around. -/
def backwards (name : String) : Compression :=
  .custom ⟨name, fun data => .ok data.reverse, fun data _ => .ok data.reverse⟩

/-- A server of bytes with one more compression, and a limit of two bytes. -/
def serverWith (c : Compression) : Server Bytes :=
  ⟨Codec.raw, resolveCompressions plainGzip (some [c]), some 2⟩

/-- A call with this compression, of a client that accepts nothing. -/
def rawCall (c : Compression) : Call Platform.plain where
  userHeaders := .none
  timeoutMs := none
  codecName := "raw"
  stream := false
  acceptCompression := "identity"
  sendCompression := some c

/-- The headers of a POST request in it. -/
def encodedIn (c : Compression) : Headers Platform.plain :=
  (Headers.empty Platform.plain).setItem "content-encoding" c.name

/-- Two bytes go out turned around, and are the message again by GET as by POST, in two
    events or in reads of one byte. -/
theorem get_means_post_backwards :
    (∃ params headers,
      unaryRequest Codec.raw (backwards "backwards") true
          (requestHeaders .connect "connectrpc" (rawCall (backwards "backwards"))) [1, 2]
          = .ok (.get params headers)
        ∧ Multimap.first? headers "content-encoding" = none
        ∧ readGetRequest (serverWith (backwards "backwards")) (Multimap.ofItems params)
            = .ok [1, 2]
        ∧ handleGetRequest (serverWith (backwards "backwards")) (Multimap.ofItems params)
            = .ok [1, 2])
    ∧ ∃ headers,
      unaryRequest Codec.raw (backwards "backwards") false
          (requestHeaders .connect "connectrpc" (rawCall (backwards "backwards"))) [1, 2]
          = .ok (.post headers [2, 1])
        ∧ Multimap.first? headers "content-encoding" = some "backwards"
        ∧ readPostRequest (serverWith (backwards "backwards"))
            [.request (some [2]) (some true), .request (some [1]) none]
            (encodedIn (backwards "backwards")) = some (.ok [1, 2])
        ∧ handlePostRequest (serverWith (backwards "backwards"))
            ⟨some "2", some "backwards", [2, 1], fun _ => 0⟩ = .ok [1, 2] := by
  have hback : (backwards "backwards").decompress [2, 1] (some 2) = .ok [1, 2] := rfl
  have hregistered : (resolveCompressions plainGzip (some [backwards "backwards"])).get?
      (backwards "backwards").name = some (backwards "backwards") := rfl
  have hheader : (encodedIn (backwards "backwards")).get? "content-encoding"
      = some (backwards "backwards").name := Headers.get?_setItem_self _ _ _
  obtain ⟨⟨params, headers, hget, -, hnone, hread, hhandle⟩, headers', hpost, hname, hserver⟩ :=
    get_means_post (rfl : Codec.raw.encode [1, 2] = .ok [1, 2]) rfl rfl hback (by simp) rfl
      hregistered (by decide) "connectrpc" (rawCall (backwards "backwards")) rfl rfl
  obtain ⟨hevents, henviron⟩ := hserver _ hheader
  have hsplits : Splits [.request (some [2]) (some true), .request (some [1]) none] [2, 1] :=
    .more (.last rfl [])
  have htruth : Truthful (some "2") [2, 1] := by
    rintro s ⟨⟩
    exact Or.inr (by decide)
  refine ⟨⟨params, headers, hget, hnone, hread, hhandle⟩, headers', hpost, hname, ?_, ?_⟩
  · exact hevents _ hsplits
  · exact henviron ⟨some "2", some "backwards", [2, 1], fun _ => 0⟩ rfl htruth hheader.symm

/-- Exchange the empty text and the byte 7. -/
def exchange (data : Bytes) : Bytes := if data = [] then [7] else if data = [7] then [] else data

theorem exchange_exchange (data : Bytes) : exchange (exchange data) = data := by
  by_cases hempty : data = []
  · subst hempty
    rfl
  · by_cases hseven : data = [7]
    · subst hseven
      rfl
    · have hsame : exchange data = data := by
        rw [exchange, if_neg hempty, if_neg hseven]
      rw [hsame, hsame]

/-- A compression that is its own inverse, and makes something into nothing. -/
def swap : Compression :=
  .custom ⟨"swap", fun data => .ok (exchange data), fun data _ => .ok (exchange data)⟩

/-- A compression that gives back what it was given, registered under its name, is not
    always undone.  The message 7 is compressed to nothing, which no server decompresses,
    and is read as the empty message.  The empty name is read as identity, and the message
    stays turned around.  Both by GET as by POST. -/
theorem compressed_to_nothing :
    ((∀ data limit, ∃ out, swap.compress data = .ok out ∧ swap.decompress out limit = .ok data)
      ∧ (serverWith swap).compressions.get? swap.name = some swap
      ∧ (∃ params headers,
        unaryRequest Codec.raw swap true
            (requestHeaders .connect "connectrpc" (rawCall swap)) [7] = .ok (.get params headers)
          ∧ readGetRequest (serverWith swap) (Multimap.ofItems params) = .ok []
          ∧ handleGetRequest (serverWith swap) (Multimap.ofItems params) = .ok [])
      ∧ swap.compress [7] = .ok []
      ∧ readPostRequest (serverWith swap) [.request none none] (encodedIn swap) = some (.ok [])
      ∧ handlePostRequest (serverWith swap) ⟨none, some "swap", [], fun _ => 0⟩ = .ok [])
    ∧ (∀ data limit, ∃ out, (backwards "").compress data = .ok out
        ∧ (backwards "").decompress out limit = .ok data)
      ∧ (serverWith (backwards "")).compressions.get? "" = some (backwards "")
      ∧ (∃ params headers,
        unaryRequest Codec.raw (backwards "") true
            (requestHeaders .connect "connectrpc" (rawCall (backwards ""))) [1, 2]
            = .ok (.get params headers)
          ∧ readGetRequest (serverWith (backwards "")) (Multimap.ofItems params) = .ok [2, 1]
          ∧ handleGetRequest (serverWith (backwards "")) (Multimap.ofItems params) = .ok [2, 1])
      ∧ (backwards "").compress [1, 2] = .ok [2, 1]
      ∧ readPostRequest (serverWith (backwards "")) [.request (some [2, 1]) none]
          (encodedIn (backwards "")) = some (.ok [2, 1])
      ∧ handlePostRequest (serverWith (backwards "")) ⟨some "2", some "", [2, 1], fun _ => 0⟩
          = .ok [2, 1] := by
  have hheader (c : Compression) : Multimap.first? (Multimap.ofItems
      (requestHeaders .connect "connectrpc" (rawCall c)).allitems) "content-encoding"
      = some c.name := first?_requestHeaders "connectrpc" rfl rfl
  constructor
  · refine ⟨?_, rfl, ?_, rfl, ?_, ?_⟩
    · intro data limit
      exact ⟨exchange data, rfl, congrArg Except.ok (exchange_exchange data)⟩
    · have hread := readGetRequest_prepareGetParams "raw" [] (serverWith swap) (hheader swap)
      exact ⟨_, _, unaryRequest_get rfl rfl _, hread, congrArg orInternal hread⟩
    · rw [readPostRequest, encodedIn, Headers.get?_setItem_self]
      rfl
    · have htruth : Truthful none [] := by
        rintro s ⟨⟩
      rw [handlePostRequest, readPostBody_spec htruth (fun _ => rfl)]
      rfl
  · refine ⟨?_, rfl, ?_, rfl, ?_, ?_⟩
    · intro data limit
      exact ⟨data.reverse, rfl, congrArg Except.ok data.reverse_reverse⟩
    · have hread := readGetRequest_prepareGetParams "raw" [2, 1] (serverWith (backwards ""))
        (hheader (backwards ""))
      exact ⟨_, _, unaryRequest_get rfl rfl _, hread, congrArg orInternal hread⟩
    · rw [readPostRequest, encodedIn, Headers.get?_setItem_self]
      rfl
    · have htruth : Truthful (some "2") [2, 1] := by
        rintro s ⟨⟩
        exact Or.inr (by decide)
      rw [handlePostRequest, readPostBody_spec htruth (by rintro ⟨⟩)]
      rfl

/-! ## Which texts are messages

    Behind `base64=1` the message is to be base64 for URLs.  The decoder skips what is
    not in the alphabet and stops at a complete pad, so it refuses little of what is
    not (`Refused`). -/

/-- Both servers go on with these bytes. -/
def ReadAs (params : Multimap String String) (message : Bytes) : Prop :=
  ∀ (α : Type) (server : Server α),
    readGetRequest server params
        = server.decodeBody (orIdentity (Multimap.first? params "compression")) message
      ∧ handleGetRequest server params = orInternal
        (server.decodeBody (orIdentity (Multimap.first? params "compression")) message)

/-- Both servers answer with `INVALID_ARGUMENT`. -/
def AnsweredInvalid (params : Multimap String String) : Prop :=
  ∃ text, ∀ (α : Type) (server : Server α),
    readGetRequest server params = .error (.connect .invalidArgument text)
      ∧ handleGetRequest server params = .error (.connect .invalidArgument text)

/-- Base64 for URLs is read as its bytes, any other text is answered as invalid. -/
structure ExactlyBase64 (params : Multimap String String) (s : String) : Prop where
  valid   : ∀ b, Base64.IsUrlsafe s b → ReadAs params b
  invalid : (∀ b, ¬ Base64.IsUrlsafe s b) → AnsweredInvalid params

/-- A text beyond ASCII, or one that ends in a group of one data character with no
    group before it that a pad completes; the standard alphabet is data too. -/
def Refused (s : String) : Prop :=
  s.toList.all Utf8.isAscii = false
    ∨ ¬ Base64.Completes (s.toList.map Base64.fromUrlsafe)
      ∧ Base64.groupData (s.toList.map Base64.fromUrlsafe) = 1

section Message

variable {params : Multimap String String} {s : String}

theorem urlsafeDecodePadded_ok {b : Bytes}
    (h : Base64.decode (String.ofList (s.toList.map Base64.fromUrlsafe) ++ "===") = .ok b) :
    urlsafeDecodePadded s = .ok b := by
  have heq : urlsafeDecodePadded s
      = decodePadded (String.ofList (s.toList.map Base64.fromUrlsafe)) := rfl
  rw [heq, decodePadded, h]

/-- What the decoder refuses. -/
theorem refused_iff :
    Refused s ↔ ∃ e,
      Base64.decode (String.ofList (s.toList.map Base64.fromUrlsafe) ++ "===") = .error e := by
  have hascii : (s.toList.map Base64.fromUrlsafe).all Utf8.isAscii
      = s.toList.all Utf8.isAscii := by
    rw [List.all_map]
    exact List.all_congr rfl fun c => Base64.isAscii_fromUrlsafe c
  rw [Base64.decode_error_iff, String.toList_ofList, hascii]
  exact Iff.rfl

theorem urlsafeDecodePadded_error (h : Refused s) : ∃ e, urlsafeDecodePadded s = .error e := by
  obtain ⟨e, he⟩ := refused_iff.mp h
  have heq : urlsafeDecodePadded s
      = decodePadded (String.ofList (s.toList.map Base64.fromUrlsafe)) := rfl
  rw [heq, decodePadded, he]
  cases e with
  | notAscii => exact ⟨_, rfl⟩
  | dataCharacters count => exact ⟨_, rfl⟩
  | padding => exact ⟨_, rfl⟩

variable (hmessage : Multimap.first? params "message" = some s)
  (hbase64 : Multimap.first? params "base64" = some "1")

include hmessage hbase64

theorem readAs_of_decoded {b : Bytes} (h : urlsafeDecodePadded s = .ok b) : ReadAs params b := by
  intro α server
  have hread : readGetRequest server params
      = server.decodeBody (orIdentity (Multimap.first? params "compression")) b := by
    rw [readGetRequest, hmessage]
    dsimp only
    rw [messageParameter, if_pos hbase64, h]
  exact ⟨hread, congrArg orInternal hread⟩

theorem answeredInvalid_of_refused (h : Refused s) : AnsweredInvalid params := by
  obtain ⟨e, he⟩ := urlsafeDecodePadded_error h
  refine ⟨s!"Invalid base64 encoding: {e.text}", fun α server => ?_⟩
  have hread : readGetRequest server params
      = .error (.connect .invalidArgument s!"Invalid base64 encoding: {e.text}") := by
    rw [readGetRequest, hmessage]
    dsimp only
    rw [messageParameter, if_pos hbase64, he]
    dsimp only
    rw [if_pos (decodePadded_exception he)]
  exact ⟨hread, congrArg orInternal hread⟩

omit hmessage hbase64 in
/-- A server whose messages are bytes comes through with the bytes that are read. -/
theorem ReadAs.not_answeredInvalid {b : Bytes} (h : ReadAs params b) :
    ¬ AnsweredInvalid params := by
  rintro ⟨text, hinvalid⟩
  let name := orIdentity (Multimap.first? params "compression")
  let server : Server Bytes := ⟨Codec.raw, Dict.empty.insert name .identity, none⟩
  have hbody : server.decodeBody name b = .ok b := by
    rw [Server.decodeBody, Dict.get?_insert_self]
    dsimp only
    by_cases hb : b = []
    · rw [if_pos hb]
      rfl
    · rw [if_neg hb]
      rfl
  have hread := (h Bytes server).1.symm.trans (hinvalid Bytes server).1
  rw [hbody] at hread
  cases hread

/-- **The message parameter is exactly base64 for URLs** where the text is that, or is
    refused by the decoder. -/
theorem exactly_base64_iff :
    ExactlyBase64 params s ↔ (∃ b, Base64.IsUrlsafe s b) ∨ Refused s := by
  constructor
  · intro h
    by_cases hvalid : ∃ b, Base64.IsUrlsafe s b
    · exact Or.inl hvalid
    · refine Or.inr (refused_iff.mpr ?_)
      cases hdecode : Base64.decode (String.ofList (s.toList.map Base64.fromUrlsafe) ++ "===") with
      | error e => exact ⟨e, rfl⟩
      | ok b =>
          have hread := readAs_of_decoded hmessage hbase64 (urlsafeDecodePadded_ok hdecode)
          exact absurd (h.invalid fun b hb => hvalid ⟨b, hb⟩) hread.not_answeredInvalid
  · rintro (⟨b, hb⟩ | hrefused)
    · refine ⟨fun b' hb' => ?_, fun hnot => absurd hb (hnot b)⟩
      exact readAs_of_decoded hmessage hbase64 (urlsafeDecodePadded_ok hb'.decode)
    · refine ⟨fun b hb => ?_, fun _ => answeredInvalid_of_refused hmessage hbase64 hrefused⟩
      obtain ⟨e, he⟩ := refused_iff.mp hrefused
      exact nomatch hb.decode.symm.trans he

end Message

/-- A query with a message in base64. -/
def base64Query (message : String) : Multimap String String :=
  Multimap.ofItems [("message", message), ("base64", "1")]

/-- One byte without padding, and a single data character. -/
theorem exactly_base64_iff_short :
    (ExactlyBase64 (base64Query "Zg") "Zg"
        ↔ (∃ b, Base64.IsUrlsafe "Zg" b) ∨ Refused "Zg")
      ∧ (ExactlyBase64 (base64Query "a") "a" ↔ (∃ b, Base64.IsUrlsafe "a" b) ∨ Refused "a")
      ∧ Base64.IsUrlsafe "Zg" [102] :=
  ⟨exactly_base64_iff rfl rfl, exactly_base64_iff rfl rfl,
    ⟨[25, 32], 0, by decide, rfl, by decide, Or.inl rfl⟩⟩

/-- A character outside the alphabet is skipped, and the message is read as the byte
    around it. -/
theorem exactly_base64_foreign :
    ¬ ExactlyBase64 (base64Query "Z!g") "Z!g" ∧ (∀ b, ¬ Base64.IsUrlsafe "Z!g" b)
      ∧ ReadAs (base64Query "Z!g") [102] := by
  have hnot : ∀ b, ¬ Base64.IsUrlsafe "Z!g" b := by
    rintro b ⟨ns, k, hns, -, hs, -⟩
    have hmem : '!' ∈ ns.map Base64.urlsafeAlphabet ++ List.replicate k '=' := by
      rw [← hs]
      decide
    rcases List.mem_append.mp hmem with hdata | hpad
    · obtain ⟨n, hn, heq⟩ := List.mem_map.mp hdata
      have hall : ∀ n < 64, Base64.urlsafeAlphabet n ≠ '!' := by decide
      exact hall n (hns n hn) heq
    · exact absurd (List.eq_of_mem_replicate hpad) (by decide)
  have hread : ReadAs (base64Query "Z!g") [102] :=
    readAs_of_decoded rfl rfl (urlsafeDecodePadded_ok (by decide +kernel))
  exact ⟨fun h => hread.not_answeredInvalid (h.invalid hnot), hnot, hread⟩

end ConnectUnaryGet
