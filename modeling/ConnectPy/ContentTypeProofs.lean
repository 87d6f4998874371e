import Mathlib.Data.List.TakeWhile
import ConnectPy.ClientRequestProofs
import ConnectPy.TrailersWireProofs

/-! # Content types — the protocol and the codec of a call

    A content type says both which protocol a request speaks and which codec its
    messages are in.  The client writes the name of the codec as it is; the server
    of the Connect protocol reads the content type in lowercase and looks the codec
    up under what it read, and so does the client for a unary response.

    For gRPC and gRPC-Web both sides agree for every name; for the Connect protocol
    they agree exactly for lowercase names (`codec_agreed_iff`). -/

namespace ConnectContentType

open OrderedDict ConnectErrors ConnectPlatform ConnectHeaders ConnectWireErrors
open ConnectEndMessage ConnectTrailersWire ConnectClientRequest

variable {p : Platform} {α : Type}

/-! ## Reading a content type -/

/-- `text.startswith(start)`. -/
def startsWith (start text : String) : Bool := start.toList.isPrefixOf text.toList

/-- `text.partition(sep)[0]`. -/
def before (sep : Char) (text : String) : String :=
  String.ofList (text.toList.takeWhile fun c => c ≠ sep)

/-- `_normalize_content_type`. -/
def normalizeContentType (p : Platform) (contentType : String) : String :=
  p.lower (Utf8.strip (before ';' contentType))

/-- `codec_name_from_content_type` of the Connect protocol. -/
def codecNameFromContentType (p : Platform) (contentType : String) (stream : Bool) : String :=
  removePrefix (if stream then "application/connect+" else "application/")
    (normalizeContentType p contentType)

/-- What follows a prefix, `proto` where it is missing. -/
def codecNameOrProto (start contentType : String) : String :=
  if startsWith start contentType then removePrefix start contentType else "proto"

/-- `codec_name_from_content_type`. -/
def serverCodecName (p : Platform) (contentType : String) (stream : Bool) :
    ServerProtocol → String
  | .connect => codecNameFromContentType p contentType stream
  | .grpc => codecNameOrProto "application/grpc+" contentType
  | .grpcWeb => codecNameOrProto "application/grpc-web+" contentType

/-- `negotiate_server_protocol`. -/
def negotiateServerProtocol (contentType : String) : ServerProtocol :=
  if contentType = "application/grpc" || startsWith "application/grpc+" contentType then .grpc
  else if contentType = "application/grpc-web" || startsWith "application/grpc-web+" contentType
  then .grpcWeb
  else .connect

/-- `self._codecs`: the codecs by name. -/
def codecsByName (codecs : List (Codec α)) : Dict String (Codec α) :=
  Dict.byKey Codec.name codecs

/-! ## Checking a response -/

/-- `invalid content-type: ...`. -/
def invalidContentType (code : Code) (contentType expected : String) : Exc :=
  .connect code s!"invalid content-type: '{contentType}'; expecting '{expected}'"

/-- `ConnectClientProtocol.validate_response`. -/
def validateResponse (p : Platform) (requestCodecName : String) (statusCode : Nat)
    (responseContentType : String) : Except Exc Unit :=
  let responseContentType := normalizeContentType p responseContentType
  if statusCode ≠ 200 then
    if responseContentType = "application/json" then .ok ()
    else .error (ConnectWireError.fromHttpStatus statusCode).toException
  else if !startsWith "application/" responseContentType then
    .error (invalidContentType .unknown responseContentType ("application/" ++ requestCodecName))
  else if codecNameFromContentType p responseContentType false = requestCodecName then .ok ()
  else .error (invalidContentType .internal responseContentType ("application/" ++ requestCodecName))

/-- `_content_type`, the content type of gRPC without a codec. -/
def ClientProtocol.defaultContentType : ClientProtocol → Option String
  | .connect => none
  | .grpc => some "application/grpc"
  | .grpcWeb => some "application/grpc-web"

/-- `validate_stream_response`. -/
def validateStreamResponse (protocol : ClientProtocol) (requestCodecName : String)
    (responseContentType : String) : Except Exc Unit :=
  let start := protocol.contentTypePrefix true
  if !(startsWith start responseContentType
      || ClientProtocol.defaultContentType protocol = some responseContentType) then
    .error (invalidContentType .unknown responseContentType (start ++ requestCodecName))
  else if codecNameOrProto start responseContentType = requestCodecName then .ok ()
  else .error (invalidContentType .internal responseContentType (start ++ requestCodecName))

/-! ## Prefixes -/

theorem startsWith_append (start rest : String) : startsWith start (start ++ rest) = true := by
  rw [startsWith, String.toList_append]
  exact List.isPrefixOf_iff_prefix.mpr (List.prefix_append _ _)

theorem startsWith_self (start : String) : startsWith start start = true :=
  List.isPrefixOf_iff_prefix.mpr List.prefix_rfl

theorem codecNameOrProto_append (start name : String) :
    codecNameOrProto start (start ++ name) = name := by
  rw [codecNameOrProto, startsWith_append, if_pos rfl, removePrefix_append]

/-- A common beginning decides nothing. -/
theorem startsWith_append_append (common start rest : String) :
    startsWith (common ++ start) (common ++ rest) = startsWith start rest := by
  rw [startsWith, startsWith, String.toList_append, String.toList_append]
  induction common.toList with
  | nil => rfl
  | cons c cs ih => rw [List.cons_append, List.cons_append, List.isPrefixOf_cons_cons, ih]; simp

/-- What does not begin with the shorter text does not begin with the longer one. -/
theorem startsWith_mono {start more text : String} (h : startsWith start text = false) :
    startsWith (start ++ more) text = false := by
  rw [Bool.eq_false_iff] at h ⊢
  intro hs
  refine h ?_
  rw [startsWith, String.toList_append] at hs
  exact List.isPrefixOf_iff_prefix.mpr
    ((List.prefix_append _ _).trans (List.isPrefixOf_iff_prefix.mp hs))

/-! ## What is normalized -/

/-- The characters between an exclamation mark and a tilde, without the semicolon. -/
def Plain (text : String) : Prop :=
  ∀ c ∈ text.toList, 0x21 ≤ c.toNat ∧ c.toNat ≤ 0x7E ∧ c ≠ ';'

theorem plain_token {name : String} (h : isToken name = true) : Plain name := by
  intro c hc
  obtain ⟨hlow, hhigh, -⟩ := isToken_visible h c hc
  refine ⟨hlow, hhigh, ?_⟩
  rintro rfl
  rw [isToken, Bool.and_eq_true, List.all_eq_true] at h
  exact absurd (h.2 ';' hc) (by decide)

theorem plain_of_all {text : String}
    (h : text.toList.all (fun c => 0x21 ≤ c.toNat && c.toNat ≤ 0x7E && c != ';') = true) :
    Plain text := by
  intro c hc
  have hall := List.all_eq_true.mp h c hc
  simp only [Bool.and_eq_true, decide_eq_true_eq, bne_iff_ne] at hall
  exact ⟨hall.1.1, hall.1.2, hall.2⟩

theorem Plain.append {s t : String} (hs : Plain s) (ht : Plain t) : Plain (s ++ t) := by
  intro c hc
  rw [String.toList_append, List.mem_append] at hc
  exact hc.elim (hs c) (ht c)

/-- Capital letters become letters. -/
theorem Plain.asciiLower {text : String} (h : Plain text) : Plain (asciiLower text) := by
  intro c hc
  rw [ConnectPlatform.asciiLower, String.toList_ofList, List.mem_map] at hc
  obtain ⟨d, hd, rfl⟩ := hc
  by_cases hcapital : 0x41 ≤ d.toNat ∧ d.toNat ≤ 0x5A
  · have hto : (Char.ofNat (d.toNat + 0x20)).toNat = d.toNat + 0x20 := by
      rw [Char.ofNat, dif_pos (Or.inl (by omega))]
      rfl
    rw [if_pos hcapital]
    refine ⟨by omega, by omega, ?_⟩
    intro heq
    have hsemi := congrArg Char.toNat heq
    rw [hto, show (';' : Char).toNat = 0x3B from rfl] at hsemi
    omega
  · rw [if_neg hcapital]
    exact h d hd

/-- A plain text is only made lowercase. -/
theorem normalizeContentType_plain {text : String} (h : Plain text) :
    normalizeContentType p text = asciiLower text := by
  have hbefore : before ';' text = text := by
    rw [before, List.takeWhile_eq_self_iff.mpr, String.ofList_toList]
    intro c hc
    simpa using (h c hc).2.2
  have hspace : ∀ c ∈ text.toList, Utf8.isSpace c = false :=
    fun c hc => isSpace_visible ⟨(h c hc).1, (h c hc).2.1⟩
  have hstrip : Utf8.strip text = text :=
    Utf8.strip_of_stripped ⟨fun c hc => hspace c (List.mem_of_mem_head? hc),
      fun c hc => hspace c (List.mem_of_mem_getLast? hc)⟩
  have hascii : text.toList.all Utf8.isAscii = true := by
    rw [List.all_eq_true]
    intro c hc
    have hhigh := (h c hc).2.1
    rw [Utf8.isAscii, decide_eq_true_eq]
    omega
  rw [normalizeContentType, hbefore, hstrip, p.lower_ascii text hascii]

/-! ## The protocol -/

theorem startsWith_application {rest : String} (h : startsWith "grpc" rest = false)
    (more : String) : startsWith ("application/" ++ ("grpc" ++ more)) ("application/" ++ rest)
      = false := by
  rw [startsWith_append_append]
  exact startsWith_mono h

/-- What does not name gRPC is a Connect request. -/
theorem negotiateServerProtocol_connect {rest : String} (h : startsWith "grpc" rest = false) :
    negotiateServerProtocol ("application/" ++ rest) = .connect := by
  have hstart := startsWith_application h
  have hne : ∀ more, "application/" ++ rest ≠ "application/" ++ ("grpc" ++ more) := by
    intro more heq
    have hmore := hstart more
    rw [heq, startsWith_self] at hmore
    exact nomatch hmore
  have hgrpc : ("application/" ++ rest = "application/grpc"
      || startsWith "application/grpc+" ("application/" ++ rest)) = false := by
    rw [Bool.or_eq_false_iff, decide_eq_false_iff_not]
    exact ⟨hne "", hstart "+"⟩
  have hweb : ("application/" ++ rest = "application/grpc-web"
      || startsWith "application/grpc-web+" ("application/" ++ rest)) = false := by
    rw [Bool.or_eq_false_iff, decide_eq_false_iff_not]
    exact ⟨hne "-web", hstart "-web+"⟩
  rw [negotiateServerProtocol, hgrpc, hweb]
  rfl

theorem negotiateServerProtocol_grpc (name : String) :
    negotiateServerProtocol ("application/grpc+" ++ name) = .grpc := by
  rw [negotiateServerProtocol, startsWith_append, Bool.or_true]
  rfl

theorem negotiateServerProtocol_grpcWeb (name : String) :
    negotiateServerProtocol ("application/grpc-web+" ++ name) = .grpcWeb := by
  have hrest : startsWith "+" ("-web+" ++ name) = false := by
    rw [startsWith, String.toList_append]
    rfl
  have hassoc : "application/grpc-web+" ++ name = "application/grpc" ++ ("-web+" ++ name) := by
    rw [← String.append_assoc]
    rfl
  have hstart : startsWith "application/grpc+" ("application/grpc-web+" ++ name) = false := by
    rw [hassoc]
    exact (startsWith_append_append "application/grpc" "+" ("-web+" ++ name)).trans hrest
  have hne : "application/grpc-web+" ++ name ≠ "application/grpc" := by
    intro heq
    have hlength := congrArg (fun s => s.toList.length) heq
    rw [String.toList_append, List.length_append] at hlength
    have hlong : "application/grpc-web+".toList.length = 21 := rfl
    have hshort : "application/grpc".toList.length = 16 := rfl
    omega
  rw [negotiateServerProtocol, hstart, Bool.or_false, if_neg (by simpa using hne),
    startsWith_append, Bool.or_true]
  rfl

/-- The server's side of a protocol. -/
def serverProtocol : ClientProtocol → ServerProtocol
  | .connect => .connect
  | .grpc => .grpc
  | .grpcWeb => .grpcWeb

/-- **The protocol** that the client speaks is the one the server picks. -/
theorem negotiateServerProtocol_request (protocol : ClientProtocol) (stream : Bool) {name : String}
    (h : startsWith "grpc" name = false) :
    negotiateServerProtocol (protocol.contentTypePrefix stream ++ name)
      = serverProtocol protocol := by
  cases protocol with
  | connect =>
      cases stream with
      | false => exact negotiateServerProtocol_connect h
      | true =>
          have hrest : startsWith "grpc" ("connect+" ++ name) = false := by
            rw [startsWith, String.toList_append]
            rfl
          have heq := negotiateServerProtocol_connect hrest
          rw [← String.append_assoc] at heq
          exact heq
  | grpc => exact negotiateServerProtocol_grpc name
  | grpcWeb => exact negotiateServerProtocol_grpcWeb name

/-! ## The codec -/

theorem plain_start (stream : Bool) :
    Plain (if stream then "application/connect+" else "application/") := by
  cases stream with
  | false => exact plain_of_all (by decide)
  | true => exact plain_of_all (by decide)

theorem asciiLower_prefix (stream : Bool) :
    asciiLower (if stream then "application/connect+" else "application/")
      = if stream then "application/connect+" else "application/" := by
  cases stream <;> decide

/-- The Connect server reads the name in lowercase. -/
theorem codecNameFromContentType_token {name : String} (h : isToken name = true)
    (stream : Bool) :
    codecNameFromContentType p
        ((if stream then "application/connect+" else "application/") ++ name) stream
      = asciiLower name := by
  rw [codecNameFromContentType,
    normalizeContentType_plain ((plain_start stream).append (plain_token h)),
    asciiLower_append, asciiLower_prefix, removePrefix_append]

/-- **The codec name** the server reads: the one that was written, in lowercase for
    the Connect protocol. -/
theorem serverCodecName_request (protocol : ClientProtocol) {stream serverStream : Bool}
    (hstream : protocol = .connect → serverStream = stream) {name : String}
    (h : isToken name = true) :
    serverCodecName p (protocol.contentTypePrefix stream ++ name) serverStream
        (serverProtocol protocol)
      = if protocol = .connect then asciiLower name else name := by
  cases protocol with
  | connect =>
      rw [hstream rfl]
      exact codecNameFromContentType_token h stream
  | grpc => exact codecNameOrProto_append _ _
  | grpcWeb => exact codecNameOrProto_append _ _

/-! ## The answer -/

/-- A unary answer passes exactly for a lowercase name. -/
theorem validateResponse_iff {name : String} (h : isToken name = true) :
    validateResponse p name 200 ("application/" ++ name) = .ok () ↔ asciiLower name = name := by
  have hplain : Plain ("application/" ++ name) := (plain_start false).append (plain_token h)
  have hlower : asciiLower ("application/" ++ name) = "application/" ++ asciiLower name := by
    rw [asciiLower_append]
    rfl
  have hagain : codecNameFromContentType p ("application/" ++ asciiLower name) false
      = asciiLower name := by
    rw [codecNameFromContentType, ← hlower, normalizeContentType_plain hplain.asciiLower,
      asciiLower_idem, hlower]
    exact removePrefix_append "application/" (asciiLower name)
  rw [validateResponse, normalizeContentType_plain hplain, hlower, if_neg (by decide),
    startsWith_append, Bool.not_true,
    if_neg Bool.false_ne_true, hagain]
  by_cases hname : asciiLower name = name
  · rw [if_pos hname]
    exact ⟨fun _ => hname, fun _ => rfl⟩
  · rw [if_neg hname]
    exact ⟨nofun, fun heq => absurd heq hname⟩

/-- A stream's answer passes for every name. -/
theorem validateStreamResponse_contentType (protocol : ClientProtocol) (name : String) :
    validateStreamResponse protocol name ((serverProtocol protocol).contentType name)
      = .ok () := by
  have hstart : (serverProtocol protocol).contentType name
      = protocol.contentTypePrefix true ++ name := by
    cases protocol <;> rfl
  rw [hstart, validateStreamResponse, startsWith_append, codecNameOrProto_append]
  exact if_pos rfl

/-- The content type stands first among the headers of an answer. -/
theorem lookup_unaryHeaders (codecName compressionName : String)
    (responseHeaders responseTrailers : Headers p) :
    lookup (p.lower "content-type") (onWire p (unaryHeaders codecName compressionName
      responseHeaders responseTrailers)) = some ("application/" ++ codecName) :=
  lookup_cons_self _ _ _

theorem lookup_streamHeaders (protocol : ServerProtocol) (codecName compressionName : String)
    (responseHeaders : Headers p) :
    lookup (p.lower "content-type") (onWire p (streamHeaders protocol codecName compressionName
      responseHeaders)) = some (protocol.contentType codecName) :=
  lookup_cons_self _ _ _

/-- Client and server agree on the protocol and on the codec of a call: the server
    picks the client's protocol and finds the codec, and the content type of every
    answer passes the client's check. -/
structure CodecAgreed (protocol : ClientProtocol) (stream : Bool) (codecs : List (Codec α))
    (codec : Codec α) (request : Headers p) : Prop where
  negotiated : negotiateServerProtocol ((request.get? "content-type").getD "")
    = serverProtocol protocol
  found : ∀ serverStream, (protocol = .connect → serverStream = stream) →
    (codecsByName codecs).get? (serverCodecName p ((request.get? "content-type").getD "")
      serverStream (serverProtocol protocol)) = some codec
  unaryAnswer : protocol = .connect → stream = false →
    ∀ (compressionName : String) (responseHeaders responseTrailers : Headers p)
      (h : p.HTTPHeaders), p.Delivers (onWire p (unaryHeaders codec.name compressionName
        responseHeaders responseTrailers)) h →
      validateResponse p codec.name 200 ((p.getHeader h "content-type").getD "") = .ok ()
  streamAnswer : (protocol = .connect → stream = true) →
    ∀ (compressionName : String) (responseHeaders : Headers p) (h : p.HTTPHeaders),
      p.Delivers (onWire p (streamHeaders (serverProtocol protocol) codec.name compressionName
        responseHeaders)) h →
      validateStreamResponse protocol codec.name ((p.getHeader h "content-type").getD "") = .ok ()

/-- **Exactly lowercase names work over the Connect protocol**, and every name over
    gRPC and gRPC-Web: for every codec whose name is a token that does not begin
    with `grpc`, registered with the server among any others, every call to it, and
    whatever else is in the headers. -/
theorem codec_agreed_iff (protocol : ClientProtocol) (userAgent : String) (call : Call p)
    (codecs : List (Codec α)) (codec : Codec α) (hname : call.codecName = codec.name)
    (htoken : isToken codec.name = true) (hgrpc : startsWith "grpc" codec.name = false)
    (hregistered : (codecsByName codecs).get? codec.name = some codec) (request : Headers p)
    (harrives : Arrives protocol call.stream (requestHeaders protocol userAgent call) request) :
    CodecAgreed protocol call.stream codecs codec request
      ↔ (protocol = .connect → asciiLower codec.name = codec.name) := by
  have hcontent : (request.get? "content-type").getD ""
      = protocol.contentTypePrefix call.stream ++ codec.name := by
    rw [harrives.contentType, hname]
    rfl
  have hread := fun (serverStream : Bool) (hs : protocol = .connect → serverStream = call.stream) =>
    serverCodecName_request (p := p) protocol hs htoken
  constructor
  · rintro h rfl
    have hcodec := h.found call.stream fun _ => rfl
    rw [hcontent, hread call.stream fun _ => rfl, if_pos rfl] at hcodec
    exact (Dict.key_of_get?_byKey codecs hcodec).symm
  · intro hlower
    refine ⟨?_, ?_, ?_, ?_⟩
    · rw [hcontent]
      exact negotiateServerProtocol_request protocol call.stream hgrpc
    · intro serverStream hs
      have hsame : (if protocol = .connect then asciiLower codec.name else codec.name)
          = codec.name := by
        by_cases hp : protocol = .connect
        · rw [if_pos hp, hlower hp]
        · rw [if_neg hp]
      rw [hcontent, hread serverStream hs, hsame, hregistered]
    · intro hp _ compressionName responseHeaders responseTrailers h hdelivers
      rw [p.getHeader_of_delivers hdelivers, lookup_unaryHeaders]
      exact (validateResponse_iff htoken).mpr (hlower hp)
    · intro _ compressionName responseHeaders h hdelivers
      rw [p.getHeader_of_delivers hdelivers, lookup_streamHeaders]
      exact validateStreamResponse_contentType protocol codec.name

/-- A call without headers of its own. -/
def plainCall (codecName : String) (stream : Bool) : Call Platform.plain :=
  ⟨.none, none, codecName, stream, "gzip,identity", some .identity⟩

/-- The codec whose messages are bytes, under a lowercase name. -/
theorem codec_agreed_raw :
    CodecAgreed .connect false [Codec.raw] Codec.raw
      (requestHeaders .connect "connectrpc" (plainCall "raw" false)) :=
  (codec_agreed_iff .connect "connectrpc" (plainCall "raw" false) [Codec.raw] Codec.raw rfl
    (by decide) (by decide) rfl _ (fun _ _ => rfl)).mpr (fun _ => by decide)

/-- The same codec under the name `Raw`: the server looks for `raw`. -/
theorem capital_name_disagrees :
    isToken "Raw" = true ∧ startsWith "grpc" "Raw" = false ∧ startsWith "connect+" "Raw" = false
      ∧ (codecsByName [(⟨"Raw", .ok, .ok⟩ : Codec Utf8.Bytes)]).get? "Raw"
        = some ⟨"Raw", .ok, .ok⟩
      ∧ ¬ CodecAgreed .connect false [(⟨"Raw", .ok, .ok⟩ : Codec Utf8.Bytes)] ⟨"Raw", .ok, .ok⟩
          (requestHeaders .connect "connectrpc" (plainCall "Raw" false)) := by
  refine ⟨by decide, by decide, by decide, rfl, ?_⟩
  intro h
  have hfound := h.found false fun _ => rfl
  rw [requestHeaders_contentType] at hfound
  have hname : serverCodecName Platform.plain "application/Raw" false .connect = "raw" := by
    decide
  have hnone : (codecsByName [(⟨"Raw", .ok, .ok⟩ : Codec Utf8.Bytes)]).get? "raw" = none := rfl
  exact nomatch hnone.symm.trans ((congrArg _ hname).symm.trans hfound)

end ConnectContentType
