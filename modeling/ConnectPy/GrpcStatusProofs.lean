import ConnectPy.WireErrorProofs

/-! # The gRPC status — trailers out, error in

    A gRPC call ends with a status.  The server puts it into the trailers
    (`statusTrailers`); the client finds it there and raises it (`raiseStatus`).

    Which trailers the client ends up reading is the reader's business; here is
    what one container of trailers means.  `raiseStatus_congr` says that only
    three names matter, `statusTrailers_first?` what the server leaves under a
    name. -/

namespace ConnectGrpcStatus

open Utf8 (Bytes)
open OrderedDict ConnectErrors ConnectPlatform ConnectHeaders ConnectWireErrors

variable {p : Platform}

/-! ## The code table -/

/-- `_connect_status_to_grpc`. -/
def connectStatusToGrpc : Code → String
  | .canceled => "1"
  | .unknown => "2"
  | .invalidArgument => "3"
  | .deadlineExceeded => "4"
  | .notFound => "5"
  | .alreadyExists => "6"
  | .permissionDenied => "7"
  | .resourceExhausted => "8"
  | .failedPrecondition => "9"
  | .aborted => "10"
  | .outOfRange => "11"
  | .unimplemented => "12"
  | .internal => "13"
  | .unavailable => "14"
  | .dataLoss => "15"
  | .unauthenticated => "16"

/-- `_grpc_status_to_connect`, the table read backwards. -/
def grpcStatusToConnect (status : String) : Option Code :=
  Code.all.find? fun c => connectStatusToGrpc c == status

/-- `int(status)`; the texts of the table are digits. -/
def statusNumber (status : String) : Int :=
  Int.ofNat (status.toList.foldl (fun n c => 10 * n + (c.toNat - '0'.toNat)) 0)

/-- No error has the status of success. -/
theorem connectStatusToGrpc_ne_zero (c : Code) : connectStatusToGrpc c ≠ "0" := by
  cases c <;> decide +kernel

/-- A code is read back from its status. -/
@[simp] theorem grpcStatusToConnect_connectStatusToGrpc (c : Code) :
    grpcStatusToConnect (connectStatusToGrpc c) = some c := by
  cases c <;> decide +kernel

/-- A status is written as its number. -/
@[simp] theorem toString_statusNumber (c : Code) :
    toString (statusNumber (connectStatusToGrpc c)) = connectStatusToGrpc c := by
  cases c <;> decide +kernel

/-! ## The status in the trailers -/

/-- The `Status` message that carries the details of an error. -/
def grpcStatus (e : ConnectWireError) : Status where
  code := statusNumber (connectStatusToGrpc e.code)
  message := e.message
  details := e.details.map ErrorDetail.any

/-- The value of `grpc-status-details-bin`: base64 without padding. -/
def grpcStatusBin (p : Platform) (e : ConnectWireError) : String :=
  Base64.rstripPad (Base64.encode (p.statusToBinary (grpcStatus e)))

/-- `_status_trailers`. -/
def statusTrailers (userTrailers : Headers p) (error : Option ConnectWireError) : Headers p :=
  let trailers := Headers.ofItems p userTrailers.allitems
  match error with
  | some e =>
      let trailers := trailers.setItem "grpc-status" (connectStatusToGrpc e.code)
      let trailers :=
        if e.message ≠ "" then trailers.setItem "grpc-message" (Utf8.quote e.message)
        else trailers
      if e.details.isEmpty then trailers
      else trailers.setItem "grpc-status-details-bin" (grpcStatusBin p e)
  | none => trailers.setItem "grpc-status" "0"

/-! ## The status a client raises -/

/-- The end of `handle_response_complete`, when there is a status in the
    trailers.  `error` is the reset of the stream, whose code has precedence. -/
def raiseStatus (trailers : p.HTTPHeaders) (status : String) (error : Option ConnectError) :
    Option Exc :=
  let code := error.map ConnectError.code
  if status = "0" then none
  else
    let message := (p.getHeader trailers "grpc-message").getD ""
    match (p.getHeader trailers "grpc-status-details-bin").filter (fun s => s ≠ "") with
    | some details =>
        match decodePadded details with
        | .error e => some e
        | .ok bin =>
            match p.statusFromBinary bin with
            | .error e => some e
            | .ok s =>
                some (.connectError
                  ⟨code.getD ((grpcStatusToConnect (toString s.code)).getD .unknown),
                    s.message, s.details.map ErrorDetail.ofAny⟩)
    | none =>
        some (.connect (code.getD ((grpcStatusToConnect status).getD .unknown))
          (Utf8.unquote message))

/-- Only the message and the details matter besides the status. -/
theorem raiseStatus_congr {t t' : p.HTTPHeaders} (status : String) (error : Option ConnectError)
    (hm : p.getHeader t "grpc-message" = p.getHeader t' "grpc-message")
    (hd : p.getHeader t "grpc-status-details-bin" = p.getHeader t' "grpc-status-details-bin") :
    raiseStatus t status error = raiseStatus t' status error := by
  rw [raiseStatus, raiseStatus, hm, hd]

/-- Success raises nothing, whatever the other trailers hold. -/
@[simp] theorem raiseStatus_zero (t : p.HTTPHeaders) (error : Option ConnectError) :
    raiseStatus t "0" error = none := by
  rw [raiseStatus]
  exact if_pos rfl

/-- Any other status raises. -/
theorem raiseStatus_ne_zero (t : p.HTTPHeaders) {status : String} (h : status ≠ "0")
    (error : Option ConnectError) : ∃ e, raiseStatus t status error = some e := by
  rw [raiseStatus]
  simp only [if_neg h]
  split
  · split
    · exact ⟨_, rfl⟩
    · split
      · exact ⟨_, rfl⟩
      · exact ⟨_, rfl⟩
  · exact ⟨_, rfl⟩

/-! ## Names -/

theorem lower_grpcStatus (p : Platform) : p.lower "grpc-status" = "grpc-status" :=
  p.lower_of_ascii (by decide) (by decide)

theorem lower_grpcMessage (p : Platform) : p.lower "grpc-message" = "grpc-message" :=
  p.lower_of_ascii (by decide) (by decide)

theorem lower_grpcDetails (p : Platform) :
    p.lower "grpc-status-details-bin" = "grpc-status-details-bin" :=
  p.lower_of_ascii (by decide) (by decide)

/-- What a container that delivers the items of some headers has under a name. -/
theorem getHeader_of_delivers_headers {h : Headers p} {hh : p.HTTPHeaders}
    (hd : p.Delivers h.allitems hh) {name : String} (hn : p.lower name = name) :
    p.getHeader hh name = Multimap.first? h.groups name := by
  rw [p.getHeader_of_delivers hd, hn, Multimap.first?_eq_lookup, ← h.allitems_eq]

/-! ## What the server leaves in the trailers -/

/-- The assignments of `_status_trailers`, in their order. -/
def statusAssignments (p : Platform) : Option ConnectWireError → List (String × String)
  | none => [("grpc-status", "0")]
  | some e =>
      [("grpc-status", connectStatusToGrpc e.code)]
        ++ (if e.message ≠ "" then [("grpc-message", Utf8.quote e.message)] else [])
        ++ if e.details.isEmpty then [] else [("grpc-status-details-bin", grpcStatusBin p e)]

/-- The trailers are those of the user with the status set over them. -/
theorem statusTrailers_eq_setAll (t : Headers p) (error : Option ConnectWireError) :
    statusTrailers t error
      = (Headers.ofItems p t.allitems).setAll (statusAssignments p error) := by
  cases error with
  | none => rfl
  | some e =>
      rw [statusTrailers, statusAssignments]
      split <;> split <;> rfl

/-- The server assigns to no other names. -/
theorem statusAssignments_names (error : Option ConnectWireError) :
    (statusAssignments p error).map Prod.fst
      |>.Sublist ["grpc-status", "grpc-message", "grpc-status-details-bin"] := by
  cases error with
  | none => simp [statusAssignments]
  | some e =>
      rw [statusAssignments]
      split <;> split <;> simp

/-- Each of the status trailers is set once. -/
theorem statusAssignments_nodup (error : Option ConnectWireError) :
    ((statusAssignments p error).map Prod.fst).Nodup :=
  List.Nodup.sublist (statusAssignments_names error) (by decide)

/-- No other trailer is set. -/
theorem statusAssignments_name {error : Option ConnectWireError} {a : String × String}
    (ha : a ∈ statusAssignments p error) :
    a.1 = "grpc-status" ∨ a.1 = "grpc-message" ∨ a.1 = "grpc-status-details-bin" := by
  have hm := (statusAssignments_names (p := p) error).subset (List.mem_map.mpr ⟨a, ha, rfl⟩)
  simpa using hm

/-- Their names are in lower case as they stand. -/
theorem statusAssignments_lower {error : Option ConnectWireError} {a : String × String}
    (ha : a ∈ statusAssignments p error) : p.lower a.1 = a.1 := by
  rcases statusAssignments_name ha with h | h | h
  · rw [h, lower_grpcStatus]
  · rw [h, lower_grpcMessage]
  · rw [h, lower_grpcDetails]

/-- **The status trailers** are the user's with the server's assignments. -/
theorem groups_statusTrailers (t : Headers p) (error : Option ConnectWireError) :
    (statusTrailers t error).groups
      = Multimap.setAll t.groups (statusAssignments p error) := by
  rw [statusTrailers_eq_setAll, Headers.groups_setAll fun _ => statusAssignments_lower,
    Headers.groups_ofItems_allitems]

/-- What is under a name: the server's assignment, or else the user's value. -/
theorem statusTrailers_first? (t : Headers p) (error : Option ConnectWireError)
    (name : String) : Multimap.first? (statusTrailers t error).groups name
      = (lookup name (statusAssignments p error)).or (Multimap.first? t.groups name) := by
  rw [groups_statusTrailers, Multimap.first?_setAll (statusAssignments_nodup error)]

/-! ## The three names -/

@[simp] theorem lookup_status (error : Option ConnectWireError) :
    lookup "grpc-status" (statusAssignments p error)
      = some (error.elim "0" fun e => connectStatusToGrpc e.code) := by
  cases error with
  | none => exact lookup_cons_self _ _ _
  | some e => exact lookup_cons_self _ _ _

/-- The message is assigned unless it is empty. -/
theorem lookup_message (e : ConnectWireError) :
    lookup "grpc-message" (statusAssignments p (some e))
      = if e.message ≠ "" then some (Utf8.quote e.message) else none := by
  rw [statusAssignments, List.append_assoc]
  refine (lookup_cons_ne (by decide) _ _).trans ?_
  split
  · exact lookup_cons_self _ _ _
  · split
    · rfl
    · exact lookup_cons_ne (by decide) _ _

/-- The details are assigned unless there are none. -/
theorem lookup_details (e : ConnectWireError) :
    lookup "grpc-status-details-bin" (statusAssignments p (some e))
      = if e.details.isEmpty then none else some (grpcStatusBin p e) := by
  rw [statusAssignments, List.append_assoc]
  refine (lookup_cons_ne (by decide) _ _).trans ?_
  split
  · refine (lookup_cons_ne (by decide) _ _).trans ?_
    split
    · rfl
    · exact lookup_cons_self _ _ _
  · split
    · rfl
    · exact lookup_cons_self _ _ _

end ConnectGrpcStatus
