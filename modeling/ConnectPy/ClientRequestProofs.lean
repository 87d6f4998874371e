import ConnectPy.Base64Proofs
import ConnectPy.HeadersProofs

/-! # The request headers of a client

    `create_request_context` of the three client protocols: the headers of the
    caller, then those of the protocol, which name the codec, the compression of
    the request and the compressions accepted in the response.

    The headers of the caller may say anything; those of the protocol are assigned
    after them and win (`requestHeaders_contentType`, `requestHeaders_compression`,
    `requestHeaders_accept`).  With a GET request the name of the compression moves
    into the query (`first?_compression`). -/

namespace ConnectClientRequest

open Utf8 (Bytes)
open OrderedDict ConnectPlatform ConnectHeaders

variable {p : Platform}

/-- `ConnectClientProtocol`, `GRPCClientProtocol`, `GRPCWebClientProtocol`. -/
inductive ClientProtocol where
  | connect | grpc | grpcWeb
  deriving DecidableEq, Repr

/-- What stands before the name of the codec in the content type. -/
def ClientProtocol.contentTypePrefix (stream : Bool) : ClientProtocol → String
  | .connect => if stream then "application/connect+" else "application/"
  | .grpc => "application/grpc+"
  | .grpcWeb => "application/grpc-web+"

/-- The header that names the compression of the messages. -/
def ClientProtocol.compressionHeader (stream : Bool) : ClientProtocol → String
  | .connect => if stream then "connect-content-encoding" else "content-encoding"
  | .grpc => "grpc-encoding"
  | .grpcWeb => "grpc-encoding"

/-- The header that lists the compressions accepted. -/
def ClientProtocol.acceptCompressionHeader (stream : Bool) : ClientProtocol → String
  | .connect => if stream then "connect-accept-encoding" else "accept-encoding"
  | .grpc => "grpc-accept-encoding"
  | .grpcWeb => "grpc-accept-encoding"

/-- The headers a caller passes. -/
inductive UserHeaders (p : Platform) where
  | headers (h : Headers p)
  | none
  | mapping (items : Dict String String)

/-- `match user_headers`: a copy of them. -/
def UserHeaders.copy : UserHeaders p → Headers p
  | .headers h => .ofItems p h.allitems
  | .none => .empty p
  | .mapping items => (Headers.empty p).setAll items.entries

/-- `_serialize_timeout`. -/
def serializeTimeout (timeoutMs : Int) : String :=
  if timeoutMs ≤ 0 then "0n"
  else if timeoutMs < 100000000 then s!"{timeoutMs}m"
  else if timeoutMs < 100000000 * 1000 then s!"{timeoutMs / 1000}S"
  else if timeoutMs < 100000000 * 60 * 1000 then s!"{timeoutMs / (60 * 1000)}M"
  else s!"{timeoutMs / (60 * 60 * 1000)}H"

/-- The arguments of `create_request_context` that its headers depend on. -/
structure Call (p : Platform) where
  userHeaders       : UserHeaders p
  timeoutMs         : Option Int
  codecName         : String
  stream            : Bool
  acceptCompression : String
  sendCompression   : Option Compression

/-- `if "user-agent" not in headers: ...`. -/
def defaultUserAgent (userAgent : String) (headers : Headers p) : Headers p :=
  if (headers.get? "user-agent").isSome then headers else headers.setItem "user-agent" userAgent

/-- The headers of a protocol before those of the call. -/
def ClientProtocol.ownHeaders (userAgent : String) (headers : Headers p) :
    ClientProtocol → Headers p
  | .connect => (defaultUserAgent userAgent headers).setItem "connect-protocol-version" "1"
  | .grpc => defaultUserAgent userAgent (headers.setItem "te" "trailers")
  | .grpcWeb => defaultUserAgent userAgent (headers.setItem "te" "trailers")

/-- The request's compression, or no word of any. -/
def setCompression (name : String) (headers : Headers p) : Option Compression → Headers p
  | some compression => headers.setItem name compression.name
  | none => headers.delItem name

/-- The timeout as the protocol writes it. -/
def ClientProtocol.setTimeout (timeoutMs : Option Int) (headers : Headers p)
    (protocol : ClientProtocol) : Headers p :=
  match timeoutMs, protocol with
  | none, _ => headers
  | some timeoutMs, .connect => headers.setItem "connect-timeout-ms" (toString timeoutMs)
  | some timeoutMs, _ => headers.setItem "grpc-timeout" (serializeTimeout timeoutMs)

/-- `create_request_context`, its `request_headers`. -/
def requestHeaders (protocol : ClientProtocol) (userAgent : String) (call : Call p) : Headers p :=
  let headers := protocol.ownHeaders userAgent call.userHeaders.copy
  let headers :=
    headers.setItem (protocol.acceptCompressionHeader call.stream) call.acceptCompression
  let headers := setCompression (protocol.compressionHeader call.stream) headers call.sendCompression
  let headers :=
    headers.setItem "content-type" (protocol.contentTypePrefix call.stream ++ call.codecName)
  protocol.setTimeout call.timeoutMs headers

/-! ## What the protocol says in the end -/

/-- A name that no step of the protocol after it assigns keeps its value. -/
theorem get?_setTimeout (protocol : ClientProtocol) (timeoutMs : Option Int) (headers : Headers p)
    {name : String} (hconnect : p.lower "connect-timeout-ms" ≠ p.lower name)
    (hgrpc : p.lower "grpc-timeout" ≠ p.lower name) :
    (protocol.setTimeout timeoutMs headers).get? name = headers.get? name := by
  cases timeoutMs with
  | none => rfl
  | some timeoutMs =>
      cases protocol with
      | connect => exact Headers.get?_setItem_ne headers hconnect _
      | grpc => exact Headers.get?_setItem_ne headers hgrpc _
      | grpcWeb => exact Headers.get?_setItem_ne headers hgrpc _

theorem get?_setCompression_self (name : String) (headers : Headers p)
    (compression : Option Compression) :
    (setCompression name headers compression).get? name = compression.map Compression.name := by
  cases compression with
  | none => exact Headers.get?_delItem_self headers name
  | some compression => exact Headers.get?_setItem_self headers name _

theorem get?_setCompression_ne {name other : String} (hne : p.lower name ≠ p.lower other)
    (headers : Headers p) (compression : Option Compression) :
    (setCompression name headers compression).get? other = headers.get? other := by
  cases compression with
  | none => exact Headers.get?_delItem_ne headers hne
  | some compression => exact Headers.get?_setItem_ne headers hne _

/-- Two lowercase ASCII names that differ are different headers. -/
theorem lower_ne {a b : String} (ha : a.toList.all Utf8.isAscii = true ∧ asciiLower a = a)
    (hb : b.toList.all Utf8.isAscii = true ∧ asciiLower b = b) (hne : a ≠ b) :
    p.lower a ≠ p.lower b := by
  rw [p.lower_of_ascii ha.1 ha.2, p.lower_of_ascii hb.1 hb.2]
  exact hne

/-- **The content type** names the codec. -/
theorem requestHeaders_contentType (protocol : ClientProtocol) (userAgent : String)
    (call : Call p) : (requestHeaders protocol userAgent call).get? "content-type"
      = some (protocol.contentTypePrefix call.stream ++ call.codecName) := by
  rw [requestHeaders, get?_setTimeout protocol _ _ (lower_ne (by decide) (by decide) (by decide))
    (lower_ne (by decide) (by decide) (by decide))]
  exact Headers.get?_setItem_self _ _ _

/-- **The compression header** names the compression of the request. -/
theorem requestHeaders_compression (protocol : ClientProtocol) (userAgent : String)
    (call : Call p) :
    (requestHeaders protocol userAgent call).get? (protocol.compressionHeader call.stream)
      = call.sendCompression.map Compression.name := by
  have hascii : (protocol.compressionHeader call.stream).toList.all Utf8.isAscii = true
      ∧ asciiLower (protocol.compressionHeader call.stream)
        = protocol.compressionHeader call.stream := by
    cases protocol <;> cases call.stream <;> decide
  have hne : ∀ name ∈ ["connect-timeout-ms", "grpc-timeout", "content-type"],
      name ≠ protocol.compressionHeader call.stream := by
    cases protocol <;> cases call.stream <;> decide
  rw [requestHeaders, get?_setTimeout protocol _ _ (lower_ne (by decide) hascii (hne _ (by simp)))
    (lower_ne (by decide) hascii (hne _ (by simp))),
    Headers.get?_setItem_ne _ (lower_ne (by decide) hascii (hne _ (by simp)))]
  exact get?_setCompression_self _ _ _

/-- **The accept header** lists what the client accepts. -/
theorem requestHeaders_accept (protocol : ClientProtocol) (userAgent : String)
    (call : Call p) :
    (requestHeaders protocol userAgent call).get? (protocol.acceptCompressionHeader call.stream)
      = some call.acceptCompression := by
  have hascii : (protocol.acceptCompressionHeader call.stream).toList.all Utf8.isAscii = true
      ∧ asciiLower (protocol.acceptCompressionHeader call.stream)
        = protocol.acceptCompressionHeader call.stream := by
    cases protocol <;> cases call.stream <;> decide
  have hcompression : (protocol.compressionHeader call.stream).toList.all Utf8.isAscii = true
      ∧ asciiLower (protocol.compressionHeader call.stream)
        = protocol.compressionHeader call.stream := by
    cases protocol <;> cases call.stream <;> decide
  have hne : ∀ name ∈ ["connect-timeout-ms", "grpc-timeout", "content-type",
      protocol.compressionHeader call.stream], name ≠ protocol.acceptCompressionHeader call.stream := by
    cases protocol <;> cases call.stream <;> decide
  rw [requestHeaders, get?_setTimeout protocol _ _ (lower_ne (by decide) hascii (hne _ (by simp)))
    (lower_ne (by decide) hascii (hne _ (by simp))),
    Headers.get?_setItem_ne _ (lower_ne (by decide) hascii (hne _ (by simp))),
    get?_setCompression_ne (lower_ne hcompression hascii (hne _ (by simp)))]
  exact Headers.get?_setItem_self _ _ _

/-- **The timeout** of a Connect request is printed as it is. -/
theorem requestHeaders_timeout (userAgent : String) {call : Call p} {timeoutMs : Int}
    (h : call.timeoutMs = some timeoutMs) :
    (requestHeaders .connect userAgent call).get? "connect-timeout-ms"
      = some (toString timeoutMs) := by
  rw [requestHeaders, h]
  exact Headers.get?_setItem_self _ _ _

/-- **The protocol version** of a Connect request. -/
theorem requestHeaders_version (userAgent : String) (call : Call p) :
    (requestHeaders .connect userAgent call).get? "connect-protocol-version" = some "1" := by
  have hname : ∀ name ∈ ["connect-timeout-ms", "grpc-timeout", "content-type",
      ClientProtocol.compressionHeader call.stream .connect,
      ClientProtocol.acceptCompressionHeader call.stream .connect],
      p.lower name ≠ p.lower "connect-protocol-version" := by
    intro name hmem
    refine lower_ne ?_ (by decide) ?_
    · cases hs : call.stream <;> rw [hs] at hmem <;> revert name <;> decide
    · cases hs : call.stream <;> rw [hs] at hmem <;> revert name <;> decide
  rw [requestHeaders, get?_setTimeout .connect _ _ (hname _ (by simp)) (hname _ (by simp)),
    Headers.get?_setItem_ne _ (hname _ (by simp)), get?_setCompression_ne (hname _ (by simp)),
    Headers.get?_setItem_ne _ (hname _ (by simp))]
  exact Headers.get?_setItem_self _ _ _

/-! ## The query of a GET request -/

/-- `prepare_get_params`, with the headers it leaves; the names of these are
    lowercase. -/
def prepareGetParams (codecName : String) (requestData : Bytes)
    (headers : Multimap String String) :
    List (String × String) × Multimap String String :=
  let compression := Multimap.first? headers "content-encoding"
  ([("connect", "v1"), ("base64", "1")]
      ++ (compression.toList.map fun name => ("compression", name))
      ++ [("encoding", codecName), ("message", Base64.urlsafeEncode requestData)],
    headers.erase "content-encoding")

/-- The parameters the server looks at, of the query parsed back. -/
theorem first?_prepareGetParams (codecName : String) (requestData : Bytes)
    (headers : Multimap String String) :
    let params := Multimap.ofItems (prepareGetParams codecName requestData headers).1
    Multimap.first? params "base64" = some "1"
      ∧ Multimap.first? params "encoding" = some codecName
      ∧ Multimap.first? params "message" = some (Base64.urlsafeEncode requestData)
      ∧ Multimap.first? params "compression" = Multimap.first? headers "content-encoding" := by
  dsimp only
  rw [Multimap.first?_ofItems, Multimap.first?_ofItems, Multimap.first?_ofItems,
    Multimap.first?_ofItems, prepareGetParams]
  cases Multimap.first? headers "content-encoding" with
  | none => exact ⟨rfl, rfl, rfl, rfl⟩
  | some name => exact ⟨rfl, rfl, rfl, rfl⟩

/-- The client's headers name the compression of the request. -/
theorem first?_requestHeaders (userAgent : String) {call : Call p} (hstream : call.stream = false)
    {c : Compression} (hsend : call.sendCompression = some c) :
    Multimap.first? (Multimap.ofItems (requestHeaders .connect userAgent call).allitems)
      "content-encoding" = some c.name := by
  have hget := requestHeaders_compression .connect userAgent call
  rw [hstream, hsend, Headers.get?_eq_first?] at hget
  have hlower : p.lower "content-encoding" = "content-encoding" :=
    p.lower_of_ascii (by decide) (by decide)
  rw [Headers.allitems_eq, Multimap.ofItems_allitems, ← hlower]
  exact hget

/-- And so does its query. -/
theorem first?_compression (userAgent : String) {call : Call p} (hstream : call.stream = false)
    {c : Compression} (hsend : call.sendCompression = some c) (codecName : String)
    (requestData : Bytes) :
    Multimap.first? (Multimap.ofItems (prepareGetParams codecName requestData
      (Multimap.ofItems (requestHeaders .connect userAgent call).allitems)).1) "compression"
      = some c.name := by
  obtain ⟨-, -, -, hcompression⟩ := first?_prepareGetParams codecName requestData
    (Multimap.ofItems (requestHeaders .connect userAgent call).allitems)
  exact hcompression.trans (first?_requestHeaders userAgent hstream hsend)

/-! ## On the way to the server -/

/-- The headers that a protocol negotiates by. -/
def ClientProtocol.negotiates (stream : Bool) (protocol : ClientProtocol) : List String :=
  ["content-type", protocol.compressionHeader stream, protocol.acceptCompressionHeader stream]

/-- The server has these as the client sent them; it sends each of them once. -/
def Arrives (protocol : ClientProtocol) (stream : Bool) (client server : Headers p) : Prop :=
  ∀ name ∈ protocol.negotiates stream, server.get? name = client.get? name

section Arriving

variable {protocol : ClientProtocol} {userAgent : String} {call : Call p} {server : Headers p}

theorem Arrives.contentType
    (h : Arrives protocol call.stream (requestHeaders protocol userAgent call) server) :
    server.get? "content-type"
      = some (protocol.contentTypePrefix call.stream ++ call.codecName) := by
  rw [h _ (by simp [ClientProtocol.negotiates]), requestHeaders_contentType]

theorem Arrives.compression
    (h : Arrives protocol call.stream (requestHeaders protocol userAgent call) server) :
    server.get? (protocol.compressionHeader call.stream)
      = call.sendCompression.map Compression.name := by
  rw [h _ (by simp [ClientProtocol.negotiates]), requestHeaders_compression]

theorem Arrives.accept
    (h : Arrives protocol call.stream (requestHeaders protocol userAgent call) server) :
    server.get? (protocol.acceptCompressionHeader call.stream) = some call.acceptCompression := by
  rw [h _ (by simp [ClientProtocol.negotiates]), requestHeaders_accept]

end Arriving

end ConnectClientRequest
