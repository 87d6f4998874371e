import ConnectPy.ErrorsProofs
import ConnectPy.OrderedDictProofs

/-! # What the library calls but does not contain

    `Platform` collects the code outside the repository that its functions use:
    `str.lower`, the header container of the HTTP client, `json`, and the
    protobuf codec of `google.rpc.Status`.  The laws a result may use are fields;
    they say what that code documents and nothing about this repository.

    `Codec` and `Compression` are the two extension points an application fills
    in, so they are arbitrary functions: encoding, compressing, decompressing
    and decoding may each raise anything. -/

namespace ConnectPlatform

open Utf8 (Bytes)
open OrderedDict ConnectErrors

/-! ## The platform -/

/-- `google.rpc.Status`. -/
structure Status where
  code    : Int
  message : String
  details : List AnyMessage
  deriving DecidableEq, Repr

/-- Lowercase ASCII letters, everything else kept. -/
def asciiLower (s : String) : String :=
  String.ofList (s.toList.map fun c =>
    if 0x41 ≤ c.toNat ∧ c.toNat ≤ 0x5A then Char.ofNat (c.toNat + 0x20) else c)

/-- The characters of an HTTP token. -/
def isTokenChar (c : Char) : Bool :=
  (0x41 ≤ c.toNat && c.toNat ≤ 0x5A) || (0x61 ≤ c.toNat && c.toNat ≤ 0x7A)
    || (0x30 ≤ c.toNat && c.toNat ≤ 0x39)
    || c ∈ ['!', '#', '$', '%', '&', Char.ofNat 0x27, '*', '+', '-', '.', '^', '_', Char.ofNat 0x60, '|', '~']

/-- An HTTP field name. -/
def isToken (s : String) : Bool := !s.toList.isEmpty && s.toList.all isTokenChar

/-- A control character other than the tab. -/
def isControl (c : Char) : Bool := (c.toNat < 0x20 && c.toNat != 0x09) || c.toNat == 0x7F

/-- A text that an HTTP field can have as its value. -/
def isFieldValue (s : String) : Bool := s.toList.all fun c => !isControl c

/-- The code outside the repository. -/
structure Platform where
  /-- `str.lower`. -/
  lower : String → String
  lower_idem : ∀ s, lower (lower s) = lower s
  lower_ascii : ∀ s, s.toList.all Utf8.isAscii = true → lower s = asciiLower s
  /-- `pyqwest.Headers`: a multimap with case-insensitive names. -/
  HTTPHeaders : Type
  content : HTTPHeaders → Multimap String String
  emptyHeaders : HTTPHeaders
  addHeader : HTTPHeaders → String → String → Except Exc HTTPHeaders
  getHeader : HTTPHeaders → String → Option String
  headerItems : HTTPHeaders → List (String × String)
  content_empty : content emptyHeaders = Dict.empty
  getHeader_eq : ∀ h name, getHeader h name = Multimap.first? (content h) (lower name)
  headerItems_eq : ∀ h, headerItems h = Multimap.allitems (content h)
  content_add : ∀ {h name value h'}, addHeader h name value = .ok h' →
    content h' = Multimap.add (content h) (lower name) value
  addHeader_token : ∀ h name value, isToken name = true → isFieldValue value = true →
    ∃ h', addHeader h name value = .ok h'
  /-- `json.loads` of bytes. -/
  jsonLoads : Bytes → Except Exc Json
  /-- `json.dumps(value, ensure_ascii=False)`. -/
  jsonDumps : Json → String
  /-- `str` of a JSON value that stands where the protocol has a string. -/
  jsonStr : Json → String
  /-- `Status.to_binary`. -/
  statusToBinary : Status → Bytes
  /-- `Status.from_binary`. -/
  statusFromBinary : Bytes → Except Exc Status

namespace Platform

variable (p : Platform)

/-- The HTTP layer delivers a list of header pairs unchanged and in order. -/
def Delivers (items : List (String × String)) (h : p.HTTPHeaders) : Prop :=
  p.content h = Multimap.ofItems items

/-- Headers that were delivered hold the first value of each name. -/
theorem getHeader_of_delivers {items : List (String × String)} {h : p.HTTPHeaders}
    (hd : p.Delivers items h) (name : String) :
    p.getHeader h name = lookup (p.lower name) items := by
  rw [p.getHeader_eq, hd, Multimap.first?_ofItems]

/-- No headers hold no value. -/
theorem getHeader_empty (name : String) : p.getHeader p.emptyHeaders name = none := by
  rw [p.getHeader_eq, p.content_empty]
  rfl

/-- A lowercase ASCII name is its own lowercase form. -/
theorem lower_of_ascii {s : String} (hs : s.toList.all Utf8.isAscii = true)
    (hl : asciiLower s = s) : p.lower s = s := (p.lower_ascii s hs).trans hl

end Platform

/-! ## A platform for ASCII names

    `str.lower` agrees with `asciiLower` on ASCII texts, so on names in ASCII this
    platform behaves as the real one; `json` and the status codec stay open. -/

/-- A name in lower case stays as it is. -/
theorem asciiLower_idem (s : String) : asciiLower (asciiLower s) = asciiLower s := by
  have hchar : ∀ c : Char,
      (fun c : Char => if 0x41 ≤ c.toNat ∧ c.toNat ≤ 0x5A then Char.ofNat (c.toNat + 0x20) else c)
        (if 0x41 ≤ c.toNat ∧ c.toNat ≤ 0x5A then Char.ofNat (c.toNat + 0x20) else c)
      = if 0x41 ≤ c.toNat ∧ c.toNat ≤ 0x5A then Char.ofNat (c.toNat + 0x20) else c := by
    intro c
    by_cases hc : 0x41 ≤ c.toNat ∧ c.toNat ≤ 0x5A
    · have hto : (Char.ofNat (c.toNat + 0x20)).toNat = c.toNat + 0x20 := by
        rw [Char.ofNat, dif_pos (Or.inl (by omega))]
        rfl
      rw [if_pos hc]
      refine if_neg ?_
      rw [hto]
      omega
    · rw [if_neg hc]
      exact if_neg hc
  rw [asciiLower, asciiLower, String.toList_ofList, List.map_map]
  exact congrArg String.ofList (List.map_congr_left fun c _ => hchar c)

/-- Headers under lowercase ASCII names, with the given `json` and status codec. -/
def Platform.ascii (jsonLoads : Bytes → Except Exc Json) (jsonDumps : Json → String)
    (statusToBinary : Status → Bytes) (statusFromBinary : Bytes → Except Exc Status) :
    Platform where
  lower := asciiLower
  lower_idem := asciiLower_idem
  lower_ascii := fun _ _ => rfl
  HTTPHeaders := Multimap String String
  content := id
  emptyHeaders := Dict.empty
  addHeader := fun h name value =>
    if isToken name && isFieldValue value then .ok (Multimap.add h (asciiLower name) value)
    else .error (.exception .valueError "invalid header")
  getHeader := fun h name => Multimap.first? h (asciiLower name)
  headerItems := Multimap.allitems
  content_empty := rfl
  getHeader_eq := fun _ _ => rfl
  headerItems_eq := fun _ => rfl
  content_add := by
    intro h name value h' hadd
    split at hadd
    · injection hadd with hadd
      exact hadd.symm
    · exact nomatch hadd
  addHeader_token := by
    intro h name value hn hv
    exact ⟨_, if_pos (by rw [hn, hv]; rfl)⟩
  jsonLoads := jsonLoads
  jsonDumps := jsonDumps
  jsonStr := Json.typeName
  statusToBinary := statusToBinary
  statusFromBinary := statusFromBinary

/-- Headers only: no JSON and no status is ever read. -/
def Platform.plain : Platform :=
  .ascii (fun _ => .error (.exception .valueError "no json")) (fun _ => "")
    (fun _ => []) (fun _ => .error (.exception .valueError "no status"))

/-- The plain platform delivers what it is given. -/
theorem Platform.plain_delivers (items : List (String × String)) :
    Platform.plain.Delivers items (Multimap.ofItems items) := rfl

/-- Headers, and the JSON text of the empty object. -/
def Platform.emptyObject : Platform :=
  .ascii (fun b => if b = Utf8.encode "\x7b\x7d" then .ok (.obj []) else
      .error (.exception .valueError "no json")) (fun _ => "\x7b\x7d")
    (fun _ => []) (fun _ => .error (.exception .valueError "no status"))

/-- A protobuf varint of at most `fuel` bytes. -/
def varint : Nat → Nat → Bytes
  | 0, _ => []
  | fuel + 1, n =>
      if n < 0x80 then [UInt8.ofNat n] else UInt8.ofNat (n % 0x80 + 0x80) :: varint fuel (n / 0x80)

/-- A length-delimited field under a tag byte. -/
def delimited (tag : UInt8) (b : Bytes) : Bytes := tag :: varint 10 b.length ++ b

/-- The protobuf encoding of a status whose code is not negative. -/
def protoStatus (s : Status) : Bytes :=
  (if s.code = 0 then [] else 0x08 :: varint 10 s.code.toNat)
    ++ (if s.message = "" then [] else delimited 0x12 (Utf8.encode s.message))
    ++ s.details.flatMap fun d => delimited 0x1A
      ((if d.typeUrl = "" then [] else delimited 0x0A (Utf8.encode d.typeUrl))
        ++ if d.value = [] then [] else delimited 0x12 d.value)

/-- Headers, and the encoding of one status. -/
def Platform.ofStatus (s : Status) : Platform :=
  .ascii (fun _ => .error (.exception .valueError "no json")) (fun _ => "") protoStatus
    fun b => if b = protoStatus s then .ok s else .error (.exception .valueError "no status")

/-- A status is read back on the platform that knows only it. -/
theorem Platform.ofStatus_lossless (s : Status) : (Platform.ofStatus s).statusFromBinary
    ((Platform.ofStatus s).statusToBinary s) = .ok s := by
  show (if protoStatus s = protoStatus s then (.ok s : Except Exc Status) else _) = .ok s
  exact if_pos rfl

/-! ## Codecs -/

/-- `connectrpc.codec.Codec` for one message class. -/
structure Codec (α : Type) where
  name   : String
  encode : α → Except Exc Bytes
  decode : Bytes → Except Exc α

/-- The codec whose messages are the bytes themselves. -/
def Codec.raw : Codec Bytes := ⟨"raw", .ok, .ok⟩

/-! ## Compressions -/

/-- A compression an application provides. -/
structure CustomCompression where
  name       : String
  compress   : Bytes → Except Exc Bytes
  decompress : Bytes → Option Int → Except Exc Bytes

/-- `connectrpc.compression.Compression`, told apart from `IdentityCompression`. -/
inductive Compression where
  | identity
  | custom (c : CustomCompression)

/-- A value is larger than the limit, if there is one. -/
def exceeds (n : Nat) : Option Int → Bool
  | none => false
  | some limit => limit < (n : Int)

/-- `message_too_large_error`. -/
def messageTooLargeError (readMaxBytes : Int) : Exc :=
  .connect .resourceExhausted s!"message is larger than configured max {readMaxBytes}"

/-- `Compression.name`. -/
def Compression.name : Compression → String
  | .identity => "identity"
  | .custom c => c.name

/-- `isinstance(compression, IdentityCompression)`. -/
def Compression.isIdentity : Compression → Bool
  | .identity => true
  | .custom _ => false

/-- `Compression.compress`. -/
def Compression.compress : Compression → Bytes → Except Exc Bytes
  | .identity, data => .ok data
  | .custom c, data => c.compress data

/-- `Compression.decompress`. -/
def Compression.decompress : Compression → Bytes → Option Int → Except Exc Bytes
  | .identity, data, none => .ok data
  | .identity, data, some limit =>
      if limit < (data.length : Int) then .error (messageTooLargeError limit) else .ok data
  | .custom c, data, limit => c.decompress data limit

/-- `_shared.decompress`: malformed data is reported as an invalid argument. -/
def decompress (compression : Compression) (data : Bytes) (readMaxBytes : Option Int) :
    Except Exc Bytes :=
  match compression.decompress data readMaxBytes with
  | .ok out => .ok out
  | .error e =>
      if e.isConnectError then .error e
      else if e.isException then .error (.connect .invalidArgument s!"decompress: {e.text}")
      else .error e

/-- `_shared.decode_message`: malformed data is reported as an invalid argument. -/
def decodeMessage {α : Type} (codec : Codec α) (data : Bytes) : Except Exc α :=
  match codec.decode data with
  | .ok m => .ok m
  | .error e =>
      if e.isConnectError then .error e
      else if e.isException then
        .error (.connect .invalidArgument s!"unmarshal message: {e.text}")
      else .error e

/-- Data that decompress are passed on. -/
theorem decompress_ok {compression : Compression} {data out : Bytes} {limit : Option Int}
    (h : compression.decompress data limit = .ok out) :
    decompress compression data limit = .ok out := by
  rw [decompress, h]

/-- A message that decodes is passed on. -/
theorem decodeMessage_ok {α : Type} {codec : Codec α} {data : Bytes} {m : α}
    (h : codec.decode data = .ok m) : decodeMessage codec data = .ok m := by
  rw [decodeMessage, h]

/-- What can leave the wrapper of a codec or compression that raises only
    exceptions is a `ConnectError`. -/
theorem decodeMessage_connectError {α : Type} {codec : Codec α} {data : Bytes} {e : Exc}
    (hcodec : ∀ d e', codec.decode d = .error e' → e'.isException = true)
    (h : decodeMessage codec data = .error e) : e.isConnectError = true := by
  rw [decodeMessage] at h
  cases hd : codec.decode data with
  | ok m => rw [hd] at h; exact nomatch h
  | error e' =>
      rw [hd] at h
      simp only [hcodec data e' hd, if_true] at h
      by_cases hc : e'.isConnectError = true
      · rw [if_pos hc] at h
        injection h with h
        exact h ▸ hc
      · rw [if_neg hc] at h
        injection h with h
        exact h ▸ rfl

/-- Whatever a compression raises becomes a `ConnectError`. -/
theorem decompress_connectError {compression : Compression} {data : Bytes}
    {limit : Option Int} {e : Exc}
    (hcomp : ∀ d l e', compression.decompress d l = .error e' → e'.isException = true)
    (h : decompress compression data limit = .error e) : e.isConnectError = true := by
  rw [decompress] at h
  cases hd : compression.decompress data limit with
  | ok m => rw [hd] at h; exact nomatch h
  | error e' =>
      rw [hd] at h
      simp only [hcomp data limit e' hd, if_true] at h
      by_cases hc : e'.isConnectError = true
      · rw [if_pos hc] at h
        injection h with h
        exact h ▸ hc
      · rw [if_neg hc] at h
        injection h with h
        exact h ▸ rfl

end ConnectPlatform
