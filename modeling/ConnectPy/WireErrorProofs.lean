import ConnectPy.Base64Proofs
import ConnectPy.HeadersProofs

/-! # Errors on the wire and response metadata

    `ConnectWireError` is the protocol form of an error; the Connect protocol
    writes it as a JSON object and reads it back with `fromDict`.  What `fromDict`
    meets is whatever the peer sent, so every branch in which Python would raise
    on a value of an unexpected type is a branch here.

    `ResponseMetadata` is the ambient record of a client call; the two
    `handle_response_*` functions fill it.  Reading an error back is
    `fromDict_toDict`: code and message return as they were, and every detail
    with its type name and its bytes. -/

namespace ConnectWireErrors

open Utf8 (Bytes)
open ConnectErrors ConnectPlatform ConnectHeaders

/-! ## `ConnectWireError` -/

/-- `connectrpc._protocol.ConnectWireError`. -/
structure ConnectWireError where
  code    : Code
  message : String
  details : List ErrorDetail

/-- `_http_status_code_to_error`. -/
def httpStatusCodeToError : Nat → Option Code
  | 400 => some .internal
  | 401 => some .unauthenticated
  | 403 => some .permissionDenied
  | 404 => some .unimplemented
  | 429 => some .unavailable
  | 502 => some .unavailable
  | 503 => some .unavailable
  | 504 => some .unavailable
  | _ => none

/-- `from_exception`. -/
def ConnectWireError.fromException : Exc → ConnectWireError
  | .connectError e => ⟨e.code, e.message, e.details⟩
  | e => ⟨.unknown, e.text, []⟩

/-- `to_exception`. -/
def ConnectWireError.toException (e : ConnectWireError) : Exc :=
  .connectError ⟨e.code, e.message, e.details⟩

/-- The entries of one detail in `to_dict`. -/
def detailEntries (d : ErrorDetail) : List (String × Json) :=
  [("type", .str d.typeName),
    ("value", .str (Base64.rstripPad (Base64.encode d.messageBytes)))]
    ++ d.debug.toList.map fun v => ("debug", v)

/-- The entries of `to_dict`. -/
def ConnectWireError.toDict (e : ConnectWireError) : List (String × Json) :=
  [("code", .str e.code.value), ("message", .str e.message)]
    ++ if e.details.isEmpty then []
      else [("details", .arr (e.details.map fun d => .obj (detailEntries d)))]

/-! ## Reading an error back -/

/-- `Code(code_str)` with the fallback of `from_dict`; a value that is no string
    is no code either. -/
def codeOf (value : Json) (unexpectedCode : Code) : Code :=
  match value with
  | .str s => (Code.ofValue? s).getD unexpectedCode
  | _ => unexpectedCode

/-- `left + right` where one of the two may not be a string. -/
def concatError (j : Json) : Exc :=
  match j with
  | .arr _ => .exception .typeError "can only concatenate list (not \"str\") to list"
  | j => .exception .typeError s!"unsupported operand type(s) for +: '{j.typeName}' and 'str'"

/-- `b64decode(s + "===")`. -/
def decodePadded (s : String) : Except Exc Bytes :=
  match Base64.decode (s ++ "===") with
  | .ok b => .ok b
  | .error .notAscii =>
      .error (.exception .valueError "string argument should contain only ASCII characters")
  | .error (.dataCharacters count) =>
      .error (.exception .valueError (s!"Invalid base64-encoded string: number of data characters "
        ++ s!"({count}) cannot be 1 more than a multiple of 4"))
  | .error .padding => .error (.exception .valueError "Incorrect padding")

/-- One round of the loop over `details_json`: none for a malformed detail,
    which is ignored. -/
def detailOf (detail : Json) : Except Exc (Option ErrorDetail) :=
  match detail with
  | .obj entries =>
      match Json.field "type" entries, Json.field "value" entries with
      | none, _ => .ok none
      | some .null, _ => .ok none
      | _, none => .ok none
      | _, some .null => .ok none
      | some (.str detailType), some (.str detailValue) =>
          match decodePadded detailValue with
          | .ok value => .ok (some (.ofAny ⟨typeUrlPrefix ++ detailType, value⟩))
          | .error e => .error e
      | some (.str _), some detailValue => .error (concatError detailValue)
      | some detailType, some _ =>
          .error (.exception .typeError
            s!"can only concatenate str (not \"{detailType.typeName}\") to str")
  | detail => .error (.noAttribute detail "get")

/-- The loop over a list of details. -/
def detailsOf : List Json → Except Exc (List ErrorDetail)
  | [] => .ok []
  | detail :: rest =>
      match detailOf detail with
      | .error e => .error e
      | .ok d =>
          match detailsOf rest with
          | .error e => .error e
          | .ok ds => .ok (d.toList ++ ds)

/-- `for detail in details_json` over whatever the peer sent there: iterating an
    object or a text gives strings, which have no `get`. -/
def detailsOfJson (details : Json) : Except Exc (List ErrorDetail) :=
  if details.truthy then
    match details with
    | .arr items => detailsOf items
    | .obj _ => .error (.noAttribute (.str "") "get")
    | .str _ => .error (.noAttribute (.str "") "get")
    | j => .error (.exception .typeError s!"'{j.typeName}' object is not iterable")
  else .ok []

/-- `from_dict`. -/
def ConnectWireError.fromDict (p : Platform) (data : Json) (httpStatus : Nat)
    (unexpectedCode : Code) : Except Exc ConnectWireError :=
  match data with
  | .obj entries =>
      let codeStr := (Json.field "code" entries).getD .null
      let code :=
        if codeStr.truthy then codeOf codeStr unexpectedCode
        else (httpStatusCodeToError httpStatus).getD .unknown
      let message :=
        match Json.field "message" entries with
        | none => ""
        | some (.str s) => s
        | some j => p.jsonStr j
      match detailsOfJson ((Json.field "details" entries).getD .null) with
      | .ok details => .ok ⟨code, message, details⟩
      | .error e => .error e
  | data => .error (.noAttribute data "get")

/-- `HTTPStatus(status_code).phrase`, none where it raises `ValueError`.  The phrases are
    those of Python 3.13: 3.11 and 3.12 have the older names of 413, 414, 416 and 422. -/
def httpStatusPhrase : Nat → Option String
  | 100 => some "Continue"
  | 101 => some "Switching Protocols"
  | 102 => some "Processing"
  | 103 => some "Early Hints"
  | 200 => some "OK"
  | 201 => some "Created"
  | 202 => some "Accepted"
  | 203 => some "Non-Authoritative Information"
  | 204 => some "No Content"
  | 205 => some "Reset Content"
  | 206 => some "Partial Content"
  | 207 => some "Multi-Status"
  | 208 => some "Already Reported"
  | 226 => some "IM Used"
  | 300 => some "Multiple Choices"
  | 301 => some "Moved Permanently"
  | 302 => some "Found"
  | 303 => some "See Other"
  | 304 => some "Not Modified"
  | 305 => some "Use Proxy"
  | 307 => some "Temporary Redirect"
  | 308 => some "Permanent Redirect"
  | 400 => some "Bad Request"
  | 401 => some "Unauthorized"
  | 402 => some "Payment Required"
  | 403 => some "Forbidden"
  | 404 => some "Not Found"
  | 405 => some "Method Not Allowed"
  | 406 => some "Not Acceptable"
  | 407 => some "Proxy Authentication Required"
  | 408 => some "Request Timeout"
  | 409 => some "Conflict"
  | 410 => some "Gone"
  | 411 => some "Length Required"
  | 412 => some "Precondition Failed"
  | 413 => some "Content Too Large"
  | 414 => some "URI Too Long"
  | 415 => some "Unsupported Media Type"
  | 416 => some "Range Not Satisfiable"
  | 417 => some "Expectation Failed"
  | 418 => some "I'm a Teapot"
  | 421 => some "Misdirected Request"
  | 422 => some "Unprocessable Content"
  | 423 => some "Locked"
  | 424 => some "Failed Dependency"
  | 425 => some "Too Early"
  | 426 => some "Upgrade Required"
  | 428 => some "Precondition Required"
  | 429 => some "Too Many Requests"
  | 431 => some "Request Header Fields Too Large"
  | 451 => some "Unavailable For Legal Reasons"
  | 500 => some "Internal Server Error"
  | 501 => some "Not Implemented"
  | 502 => some "Bad Gateway"
  | 503 => some "Service Unavailable"
  | 504 => some "Gateway Timeout"
  | 505 => some "HTTP Version Not Supported"
  | 506 => some "Variant Also Negotiates"
  | 507 => some "Insufficient Storage"
  | 508 => some "Loop Detected"
  | 510 => some "Not Extended"
  | 511 => some "Network Authentication Required"
  | _ => none

/-- `from_http_status`. -/
def ConnectWireError.fromHttpStatus (statusCode : Nat) : ConnectWireError :=
  ⟨(httpStatusCodeToError statusCode).getD .unknown,
    (httpStatusPhrase statusCode).getD
      (if statusCode = 499 then "Client Closed Request" else ""), []⟩

/-- A detail as the peer reads it: the same message without its debug value. -/
def received (d : ErrorDetail) : ErrorDetail := .ofAny ⟨typeUrlPrefix ++ d.typeName, d.any.value⟩

/-- A detail that is read has the name it was sent with. -/
@[simp] theorem received_typeName (d : ErrorDetail) : (received d).typeName = d.typeName :=
  removePrefix_append typeUrlPrefix d.typeName

/-- And the bytes. -/
@[simp] theorem received_messageBytes (d : ErrorDetail) :
    (received d).messageBytes = d.messageBytes := rfl

/-- Base64 without its padding is decoded all the same. -/
theorem decodePadded_encode (b : Bytes) :
    decodePadded (Base64.rstripPad (Base64.encode b)) = .ok b := by
  rw [decodePadded, Base64.decode_strip_encode]

/-- A detail is read back from its object. -/
theorem detailOf_entries (d : ErrorDetail) :
    detailOf (.obj (detailEntries d)) = .ok (some (received d)) := by
  have htype : Json.field "type" (detailEntries d) = some (.str d.typeName) := rfl
  have hvalue : Json.field "value" (detailEntries d)
      = some (.str (Base64.rstripPad (Base64.encode d.messageBytes))) := by
    exact (Json.field_cons_ne (by decide) _ _).trans (Json.field_cons_self _ _ _)
  rw [detailOf, htype, hvalue]
  simp only [decodePadded_encode]
  rfl

/-- And so are all of them, in their order. -/
theorem detailsOf_map (ds : List ErrorDetail) :
    detailsOf (ds.map fun d => .obj (detailEntries d)) = .ok (ds.map received) := by
  induction ds with
  | nil => rfl
  | cons d ds ih =>
      rw [List.map_cons, detailsOf, detailOf_entries, ih]
      rfl

/-- **The JSON form of an error is read back**, up to the debug values. -/
theorem fromDict_toDict (p : Platform) (e : ConnectWireError) (httpStatus : Nat)
    (unexpectedCode : Code) :
    ConnectWireError.fromDict p (.obj e.toDict) httpStatus unexpectedCode
      = .ok ⟨e.code, e.message, e.details.map received⟩ := by
  have hcode : Json.field "code" e.toDict = some (.str e.code.value) := rfl
  have hmessage : Json.field "message" e.toDict = some (.str e.message) := by
    exact (Json.field_cons_ne (by decide) _ _).trans (Json.field_cons_self _ _ _)
  have htruthy : (Json.str e.code.value).truthy = true := by
    rw [Json.truthy, bne_iff_ne]
    exact e.code.value_ne_empty
  have hdetails : detailsOfJson ((Json.field "details" e.toDict).getD .null)
      = .ok (e.details.map received) := by
    rw [ConnectWireError.toDict, List.cons_append, List.cons_append,
      Json.field_cons_ne (by decide), Json.field_cons_ne (by decide)]
    cases hd : e.details with
    | nil => rfl
    | cons d ds =>
        rw [if_neg (by simp), List.nil_append, Json.field_cons_self, Option.getD_some,
          detailsOfJson, if_pos (by rfl)]
        exact detailsOf_map (d :: ds)
  rw [ConnectWireError.fromDict, hcode, hmessage, hdetails, Option.getD_some, if_pos htruthy,
    codeOf, Code.ofValue?_value, Option.getD_some]

/-- The object of an error has a code, so it is not taken for none. -/
theorem toDict_truthy (e : ConnectWireError) : (Json.obj e.toDict).truthy = true := rfl

/-! ## Response metadata -/

/-- `ResponseMetadata`. -/
structure ResponseMetadata (p : Platform) where
  httpStatus : Option Nat
  headers    : Option (Headers p)
  trailers   : Option (Headers p)

variable {p : Platform}

/-- `ResponseMetadata()`. -/
def ResponseMetadata.fresh (p : Platform) : ResponseMetadata p := ⟨none, none, none⟩

/-- The property `headers`. -/
def ResponseMetadata.getHeaders (r : ResponseMetadata p) : Headers p :=
  r.headers.getD (.empty p)

/-- The property `trailers`. -/
def ResponseMetadata.getTrailers (r : ResponseMetadata p) : Headers p :=
  r.trailers.getD (.empty p)

/-- `key.startswith("trailer-")`. -/
def isTrailerKey (key : String) : Bool := "trailer-".toList.isPrefixOf key.toList

/-- The loop of `handle_response_headers`: the headers and the trailers. -/
def splitHeaders (items : List (String × String)) : Headers p × Headers p :=
  items.foldl (fun acc e =>
    if isTrailerKey e.1 then (acc.1, acc.2.add (removePrefix "trailer-" e.1) e.2)
    else (acc.1.add e.1 e.2, acc.2)) (.empty p, .empty p)

/-- `handle_response_headers`, on the ambient response metadata if there is one. -/
def handleResponseHeaders (current : Option (ResponseMetadata p)) (status : Nat)
    (headers : p.HTTPHeaders) : Option (ResponseMetadata p) :=
  current.map fun response =>
    let split := splitHeaders (p := p) (p.headerItems headers)
    { httpStatus := some status
      headers := if split.1.nonempty then some split.1 else response.headers
      trailers := if split.2.nonempty then some split.2 else response.trailers }

/-- The pairs an iteration over `metadata.items()` adds, up to the exception
    that stops it, if any. -/
structure Pairs where
  added : List (String × String)
  error : Option Exc

/-- The pairs of one entry: a text as it is, the elements of a list, or the keys
    of an object. -/
def entryPairs (p : Platform) (key : String) : Json → Pairs
  | .str s => ⟨[(key, s)], none⟩
  | .arr items => ⟨items.map fun v => (key, match v with
      | .str s => s
      | j => p.jsonStr j), none⟩
  | .obj entries => ⟨entries.map fun e => (key, e.1), none⟩
  | j => ⟨[], some (.exception .typeError s!"'{j.typeName}' object is not iterable")⟩

def entriesPairs (p : Platform) : List (String × Json) → Pairs
  | [] => ⟨[], none⟩
  | (key, value) :: rest =>
      let first := entryPairs p key value
      match first.error with
      | some e => ⟨first.added, some e⟩
      | none =>
          let more := entriesPairs p rest
          ⟨first.added ++ more.added, more.error⟩

/-- The pairs of the metadata of an end-of-stream message. -/
def metadataPairs (p : Platform) : Json → Pairs
  | .obj entries => entriesPairs p entries
  | j => ⟨[], some (.noAttribute j "items")⟩

/-- `handle_response_trailers`.  Trailers that were there are extended in place,
    so they keep what was added before an exception; new ones are stored at the
    end, unless they are empty. -/
def handleResponseTrailers (current : Option (ResponseMetadata p)) (pairs : Pairs) :
    Option (ResponseMetadata p) × Option Exc :=
  match current with
  | none => (none, none)
  | some response =>
      match response.trailers with
      | some trailers =>
          (some { response with trailers := some (trailers.addAll pairs.added) }, pairs.error)
      | none =>
          let trailers := (Headers.empty p).addAll pairs.added
          if pairs.error.isNone && trailers.nonempty then
            (some { response with trailers := some trailers }, none)
          else (some response, pairs.error)

/-- The pairs of an HTTP header container; each value is a text. -/
def httpPairs (trailers : p.HTTPHeaders) : Pairs := ⟨p.headerItems trailers, none⟩

/-- Without an ambient response nothing is read and nothing can fail. -/
@[simp] theorem handleResponseTrailers_none (pairs : Pairs) :
    handleResponseTrailers (none : Option (ResponseMetadata p)) pairs = (none, none) := rfl

/-- Pairs that are all added end up behind the trailers that were there. -/
theorem getTrailers_handleResponseTrailers (response : ResponseMetadata p)
    (added : List (String × String)) :
    ∃ r, handleResponseTrailers (some response) ⟨added, none⟩ = (some r, none)
      ∧ r.getTrailers.groups = (response.getTrailers.addAll added).groups
      ∧ r.headers = response.headers ∧ r.httpStatus = response.httpStatus := by
  rw [handleResponseTrailers]
  cases ht : response.trailers with
  | some trailers =>
      refine ⟨_, rfl, ?_, rfl, rfl⟩
      rw [ResponseMetadata.getTrailers, ResponseMetadata.getTrailers, ht]
      rfl
  | none =>
      by_cases hn : ((Headers.empty p).addAll added).nonempty = true
      · refine ⟨_, if_pos (by rw [hn]; rfl), ?_, rfl, rfl⟩
        rw [ResponseMetadata.getTrailers, ResponseMetadata.getTrailers, ht]
        rfl
      · refine ⟨response, if_neg (by rw [Bool.and_eq_true]; exact fun h => hn h.2), ?_, rfl, rfl⟩
        have hempty := (Headers.nonempty_eq_false_iff _).mp (Bool.eq_false_iff.mpr hn)
        rw [ResponseMetadata.getTrailers, ht, Option.getD_none, hempty]
        rfl

/-! ## What malformed JSON raises -/

/-- An exception of Python's own, which is no error of this library and no timeout. -/
def Builtin (e : Exc) : Prop := ∃ cls text, e = .exception cls text ∧ cls ≠ .timeoutError

/-- An `AttributeError` is no `ConnectError`. -/
theorem builtin_noAttribute (j : Json) (name : String) : Builtin (.noAttribute j name) :=
  ⟨_, _, rfl, nofun⟩

/-- Nor is what the decoder raises. -/
theorem decodePadded_error {s : String} {e : Exc} (h : decodePadded s = .error e) : Builtin e := by
  rw [decodePadded] at h
  split at h
  · exact nomatch h
  · injection h with h
    exact ⟨_, _, h.symm, nofun⟩
  · injection h with h
    exact ⟨_, _, h.symm, nofun⟩
  · injection h with h
    exact ⟨_, _, h.symm, nofun⟩

/-- Nor is what concatenation with a text raises. -/
theorem concatError_builtin (j : Json) : Builtin (concatError j) := by
  cases j <;> exact ⟨_, _, rfl, nofun⟩

/-- A detail that cannot be read fails with a built-in exception. -/
theorem detailOf_error {detail : Json} {e : Exc} (h : detailOf detail = .error e) : Builtin e := by
  rw [detailOf.eq_def] at h
  split at h
  · split at h
    · exact nomatch h
    · exact nomatch h
    · exact nomatch h
    · exact nomatch h
    · split at h
      · exact nomatch h
      · next hdecode =>
          injection h with h
          exact h ▸ decodePadded_error hdecode
    · injection h with h
      exact h ▸ concatError_builtin _
    · injection h with h
      exact ⟨_, _, h.symm, nofun⟩
  · injection h with h
    exact h ▸ builtin_noAttribute _ _

/-- And so does a list with such a detail. -/
theorem detailsOf_error {items : List Json} {e : Exc} (h : detailsOf items = .error e) :
    Builtin e := by
  induction items with
  | nil => exact nomatch h
  | cons detail rest ih =>
      rw [detailsOf] at h
      split at h
      · next hdetail =>
          injection h with h
          exact h ▸ detailOf_error hdetail
      · split at h
        · next hrest =>
            injection h with h
            subst h
            exact ih hrest
        · exact nomatch h

/-- And so do details of any other shape. -/
theorem detailsOfJson_error {details : Json} {e : Exc} (h : detailsOfJson details = .error e) :
    Builtin e := by
  rw [detailsOfJson.eq_def] at h
  split at h
  · split at h
    · exact detailsOf_error h
    · injection h with h
      exact h ▸ builtin_noAttribute _ _
    · injection h with h
      exact h ▸ builtin_noAttribute _ _
    · injection h with h
      exact ⟨_, _, h.symm, nofun⟩
  · exact nomatch h

/-- A key that is missing or null. -/
def Missing (key : String) (entries : List (String × Json)) : Prop :=
  Json.field key entries = none ∨ Json.field key entries = some .null

/-- An object without a type or without a value. -/
def Skipped (detail : Json) : Prop :=
  ∃ entries, detail = .obj entries ∧ (Missing "type" entries ∨ Missing "value" entries)

/-- The loop skips an element exactly when its type or its value is missing. -/
theorem detailOf_none_iff (detail : Json) : detailOf detail = .ok none ↔ Skipped detail := by
  constructor
  · intro h
    rw [detailOf.eq_def] at h
    split at h
    · next entries =>
        refine ⟨entries, rfl, ?_⟩
        split at h
        · next htype => exact Or.inl (Or.inl htype)
        · next htype => exact Or.inl (Or.inr htype)
        · exact Or.inr (Or.inl (by assumption))
        · exact Or.inr (Or.inr (by assumption))
        · split at h
          · injection h with h
            exact nomatch h
          · exact nomatch h
        · exact nomatch h
        · exact nomatch h
    · exact nomatch h
  · rintro ⟨entries, rfl, hmissing⟩
    rw [detailOf]
    rcases hmissing with (htype | htype) | (hvalue | hvalue)
    · rw [htype]
    · rw [htype]
    · rw [hvalue]
      cases Json.field "type" entries with
      | none => rfl
      | some j => cases j <;> rfl
    · rw [hvalue]
      cases Json.field "type" entries with
      | none => rfl
      | some j => cases j <;> rfl

/-- An object whose type is a text and whose value is base64. -/
def Decodes (detail : Json) : Prop :=
  ∃ entries detailType detailValue b, detail = .obj entries
    ∧ Json.field "type" entries = some (.str detailType)
    ∧ Json.field "value" entries = some (.str detailValue) ∧ decodePadded detailValue = .ok b

/-- A detail that does not fail is skipped or decoded. -/
theorem detailOf_ok_iff (detail : Json) :
    (∃ d, detailOf detail = .ok d) ↔ Skipped detail ∨ Decodes detail := by
  constructor
  · rintro ⟨d, hd⟩
    cases d with
    | none => exact Or.inl ((detailOf_none_iff detail).mp hd)
    | some d =>
        rw [detailOf.eq_def] at hd
        split at hd
        · next entries =>
            split at hd
            · exact nomatch hd
            · exact nomatch hd
            · exact nomatch hd
            · exact nomatch hd
            · next htype hvalue =>
                split at hd
                · next b hb => exact Or.inr ⟨entries, _, _, b, rfl, htype, hvalue, hb⟩
                · exact nomatch hd
            · exact nomatch hd
            · exact nomatch hd
        · exact nomatch hd
  · rintro (hskipped | ⟨entries, detailType, detailValue, b, rfl, htype, hvalue, hb⟩)
    · exact ⟨none, (detailOf_none_iff detail).mpr hskipped⟩
    · refine ⟨some (.ofAny ⟨typeUrlPrefix ++ detailType, b⟩), ?_⟩
      rw [detailOf, htype, hvalue]
      dsimp only
      rw [hb]

/-- All details are read exactly if none of them fails. -/
theorem detailsOf_ok_iff (items : List Json) :
    (∃ ds, detailsOf items = .ok ds) ↔ ∀ detail ∈ items, Skipped detail ∨ Decodes detail := by
  induction items with
  | nil => exact ⟨fun _ => nofun, fun _ => ⟨[], rfl⟩⟩
  | cons detail rest ih =>
      rw [List.forall_mem_cons, ← ih, ← detailOf_ok_iff, detailsOf]
      cases detailOf detail with
      | error e => exact ⟨fun ⟨_, h⟩ => (nomatch h), fun ⟨⟨_, h⟩, _⟩ => (nomatch h)⟩
      | ok d =>
          dsimp only
          cases detailsOf rest with
          | error e => exact ⟨fun ⟨_, h⟩ => (nomatch h), fun ⟨_, _, h⟩ => (nomatch h)⟩
          | ok ds => exact ⟨fun _ => ⟨⟨d, rfl⟩, ds, rfl⟩, fun _ => ⟨_, rfl⟩⟩

/-- Details that `from_dict` can read. -/
def DetailsDecode (details : Json) : Prop :=
  details.truthy = false
    ∨ ∃ items, details = .arr items ∧ ∀ detail ∈ items, Skipped detail ∨ Decodes detail

/-- And details of any shape are read exactly if they decode. -/
theorem detailsOfJson_ok_iff (details : Json) :
    (∃ ds, detailsOfJson details = .ok ds) ↔ DetailsDecode details := by
  rw [detailsOfJson.eq_def]
  by_cases htruthy : details.truthy = true
  · rw [if_pos htruthy]
    have hlist : DetailsDecode details
        ↔ ∃ items, details = .arr items ∧ ∀ detail ∈ items, Skipped detail ∨ Decodes detail := by
      rw [DetailsDecode, htruthy]
      exact ⟨fun h => h.resolve_left nofun, Or.inr⟩
    rw [hlist]
    cases details with
    | arr items =>
        refine (detailsOf_ok_iff items).trans ⟨fun h => ⟨items, rfl, h⟩, ?_⟩
        rintro ⟨items', heq, h⟩
        injection heq with heq
        exact heq ▸ h
    | null => exact nomatch htruthy
    | bool b => exact iff_of_false (fun ⟨_, h⟩ => (nomatch h)) fun ⟨_, h, _⟩ => (nomatch h)
    | int n => exact iff_of_false (fun ⟨_, h⟩ => (nomatch h)) fun ⟨_, h, _⟩ => (nomatch h)
    | float bits => exact iff_of_false (fun ⟨_, h⟩ => (nomatch h)) fun ⟨_, h, _⟩ => (nomatch h)
    | str s => exact iff_of_false (fun ⟨_, h⟩ => (nomatch h)) fun ⟨_, h, _⟩ => (nomatch h)
    | obj entries => exact iff_of_false (fun ⟨_, h⟩ => (nomatch h)) fun ⟨_, h, _⟩ => (nomatch h)
  · rw [if_neg htruthy]
    exact ⟨fun _ => Or.inl (Bool.eq_false_iff.mpr htruthy), fun _ => ⟨[], rfl⟩⟩

/-- What an error of a peer has to be for `from_dict` to read it. -/
def ErrorReads (data : Json) : Prop :=
  ∃ entries, data = .obj entries ∧ DetailsDecode ((Json.field "details" entries).getD .null)

/-- **Reading an error**: it is readable, or an exception of Python's own is raised. -/
theorem fromDict_cases (data : Json) (httpStatus : Nat) (unexpectedCode : Code) :
    (ErrorReads data
        ∧ ∃ w, ConnectWireError.fromDict p data httpStatus unexpectedCode = .ok w)
      ∨ ¬ ErrorReads data
        ∧ ∃ e, ConnectWireError.fromDict p data httpStatus unexpectedCode = .error e
          ∧ Builtin e := by
  have hnot : (∀ entries, data ≠ .obj entries) → ¬ ErrorReads data :=
    fun hne ⟨entries, heq, _⟩ => hne entries heq
  cases data with
  | obj entries =>
      rw [ConnectWireError.fromDict]
      cases hdetails : detailsOfJson ((Json.field "details" entries).getD .null) with
      | ok ds =>
          exact Or.inl ⟨⟨entries, rfl, (detailsOfJson_ok_iff _).mp ⟨ds, hdetails⟩⟩, _, rfl⟩
      | error e =>
          refine Or.inr ⟨?_, e, rfl, detailsOfJson_error hdetails⟩
          rintro ⟨entries', heq, hdecode⟩
          injection heq with heq
          subst heq
          obtain ⟨ds, hds⟩ := (detailsOfJson_ok_iff _).mpr hdecode
          rw [hdetails] at hds
          exact nomatch hds
  | null => exact Or.inr ⟨hnot nofun, _, rfl, builtin_noAttribute _ _⟩
  | bool b => exact Or.inr ⟨hnot nofun, _, rfl, builtin_noAttribute _ _⟩
  | int n => exact Or.inr ⟨hnot nofun, _, rfl, builtin_noAttribute _ _⟩
  | float bits => exact Or.inr ⟨hnot nofun, _, rfl, builtin_noAttribute _ _⟩
  | str s => exact Or.inr ⟨hnot nofun, _, rfl, builtin_noAttribute _ _⟩
  | arr items => exact Or.inr ⟨hnot nofun, _, rfl, builtin_noAttribute _ _⟩

/-- The value can be iterated. -/
def iterable : Json → Bool
  | .str _ => true
  | .arr _ => true
  | .obj _ => true
  | _ => false

/-- Metadata that can be read: an object of texts and lists, or anything at all
    where nobody reads it. -/
def MetadataReads (current : Option (ResponseMetadata p)) (metadata : Json) : Prop :=
  metadata.truthy = true → current.isSome = true →
    ∃ entries, metadata = .obj entries ∧ ∀ e ∈ entries, iterable e.2 = true

/-- The values of one key fail exactly if they cannot be iterated over. -/
theorem entryPairs_error (key : String) (value : Json) :
    ((entryPairs p key value).error = none ∧ iterable value = true)
      ∨ ∃ e, (entryPairs p key value).error = some e ∧ Builtin e ∧ iterable value = false := by
  cases value with
  | str s => exact Or.inl ⟨rfl, rfl⟩
  | arr items => exact Or.inl ⟨rfl, rfl⟩
  | obj entries => exact Or.inl ⟨rfl, rfl⟩
  | null => exact Or.inr ⟨_, rfl, ⟨_, _, rfl, nofun⟩, rfl⟩
  | bool b => exact Or.inr ⟨_, rfl, ⟨_, _, rfl, nofun⟩, rfl⟩
  | int n => exact Or.inr ⟨_, rfl, ⟨_, _, rfl, nofun⟩, rfl⟩
  | float bits => exact Or.inr ⟨_, rfl, ⟨_, _, rfl, nofun⟩, rfl⟩

/-- The metadata fail exactly if the values of some key do. -/
theorem entriesPairs_error (entries : List (String × Json)) :
    ((entriesPairs p entries).error = none ∧ ∀ e ∈ entries, iterable e.2 = true)
      ∨ ∃ e, (entriesPairs p entries).error = some e ∧ Builtin e
        ∧ ¬ ∀ e ∈ entries, iterable e.2 = true := by
  induction entries with
  | nil => exact Or.inl ⟨rfl, nofun⟩
  | cons entry rest ih =>
      obtain ⟨key, value⟩ := entry
      rw [entriesPairs]
      dsimp only
      rcases entryPairs_error (p := p) key value with ⟨hnone, hit⟩ | ⟨e, he, hbuiltin, hit⟩
      · rw [hnone]
        dsimp only
        rcases ih with ⟨hrest, hall⟩ | ⟨e, he, hbuiltin, hall⟩
        · refine Or.inl ⟨hrest, fun x hx => ?_⟩
          rcases List.mem_cons.mp hx with rfl | hx
          · exact hit
          · exact hall x hx
        · exact Or.inr ⟨e, he, hbuiltin, fun h => hall fun x hx => h x (List.mem_cons_of_mem _ hx)⟩
      · rw [he]
        refine Or.inr ⟨e, rfl, hbuiltin, fun h => ?_⟩
        rw [h (key, value) List.mem_cons_self] at hit
        exact nomatch hit

/-- **Handing over metadata** of a response: it is readable, or an exception of
    Python's own is raised. -/
theorem metadata_handled (current : Option (ResponseMetadata p)) (metadata : Json) :
    (MetadataReads current metadata
        ∧ (if metadata.truthy then handleResponseTrailers current (metadataPairs p metadata)
          else (current, none)).2 = none)
      ∨ ¬ MetadataReads current metadata
        ∧ ∃ e, (if metadata.truthy then
            handleResponseTrailers current (metadataPairs p metadata)
          else (current, none)).2 = some e ∧ Builtin e := by
  by_cases htruthy : metadata.truthy = true
  · rw [if_pos htruthy]
    cases current with
    | none => exact Or.inl ⟨fun _ h => (nomatch h), rfl⟩
    | some response =>
        -- Whatever was there before, the pairs decide.
        have hpairs : ∀ pairs : Pairs,
            (handleResponseTrailers (some response) pairs).2 = pairs.error := by
          intro pairs
          rw [handleResponseTrailers]
          cases response.trailers with
          | some trailers => rfl
          | none =>
              dsimp only
              split
              · next h =>
                  rw [Bool.and_eq_true, Option.isNone_iff_eq_none] at h
                  exact h.1.symm
              · rfl
        rw [hpairs]
        have hnot : (∀ entries, metadata ≠ .obj entries) →
            ¬ MetadataReads (some response) metadata := by
          intro hne h
          obtain ⟨entries, heq, -⟩ := h htruthy rfl
          exact hne entries heq
        cases metadata with
        | obj entries =>
            rcases entriesPairs_error (p := p) entries with ⟨hnone, hall⟩ | ⟨e, he, hbuiltin, hall⟩
            · exact Or.inl ⟨fun _ _ => ⟨entries, rfl, hall⟩, hnone⟩
            · refine Or.inr ⟨fun h => ?_, e, he, hbuiltin⟩
              obtain ⟨entries', heq, hall'⟩ := h htruthy rfl
              injection heq with heq
              exact hall (heq ▸ hall')
        | null => exact nomatch htruthy
        | bool b => exact Or.inr ⟨hnot nofun, _, rfl, builtin_noAttribute _ _⟩
        | int n => exact Or.inr ⟨hnot nofun, _, rfl, builtin_noAttribute _ _⟩
        | float bits => exact Or.inr ⟨hnot nofun, _, rfl, builtin_noAttribute _ _⟩
        | str s => exact Or.inr ⟨hnot nofun, _, rfl, builtin_noAttribute _ _⟩
        | arr items => exact Or.inr ⟨hnot nofun, _, rfl, builtin_noAttribute _ _⟩
  · rw [if_neg htruthy]
    exact Or.inl ⟨fun h => absurd h htruthy, rfl⟩

end ConnectWireErrors
