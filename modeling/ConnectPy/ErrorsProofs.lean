import ConnectPy.Utf8Proofs

/-! # Errors and exceptions

    The error values that travel through the library: the sixteen Connect codes,
    error details (a packed `Any` message), and the exceptions a call can raise.
    Exceptions are split the way the `except` clauses of the source split them:
    `ConnectError` and `HTTPError` by class, every other `Exception` as one
    constructor, cancellations of the event loop, and the remaining
    `BaseException`s. -/

namespace ConnectErrors

open Utf8 (Bytes)

/-! ## Codes -/

/-- `connectrpc.code.Code`. -/
inductive Code where
  | canceled | unknown | invalidArgument | deadlineExceeded | notFound | alreadyExists
  | permissionDenied | resourceExhausted | failedPrecondition | aborted | outOfRange
  | unimplemented | internal | unavailable | dataLoss | unauthenticated
  deriving DecidableEq, Repr

/-- `Code.value`. -/
def Code.value : Code → String
  | .canceled => "canceled"
  | .unknown => "unknown"
  | .invalidArgument => "invalid_argument"
  | .deadlineExceeded => "deadline_exceeded"
  | .notFound => "not_found"
  | .alreadyExists => "already_exists"
  | .permissionDenied => "permission_denied"
  | .resourceExhausted => "resource_exhausted"
  | .failedPrecondition => "failed_precondition"
  | .aborted => "aborted"
  | .outOfRange => "out_of_range"
  | .unimplemented => "unimplemented"
  | .internal => "internal"
  | .unavailable => "unavailable"
  | .dataLoss => "data_loss"
  | .unauthenticated => "unauthenticated"

/-- The members of the enumeration, in its order. -/
def Code.all : List Code :=
  [.canceled, .unknown, .invalidArgument, .deadlineExceeded, .notFound, .alreadyExists,
    .permissionDenied, .resourceExhausted, .failedPrecondition, .aborted, .outOfRange,
    .unimplemented, .internal, .unavailable, .dataLoss, .unauthenticated]

/-- `Code(value)`, none where it raises `ValueError`. -/
def Code.ofValue? (value : String) : Option Code := Code.all.find? fun c => c.value == value

/-- A code is found by its value. -/
@[simp] theorem Code.ofValue?_value (c : Code) : Code.ofValue? c.value = some c := by
  cases c <;> decide +kernel

/-- The value of a code is never taken for none. -/
theorem Code.value_ne_empty (c : Code) : c.value ≠ "" := by
  cases c <;> decide +kernel

/-! ## JSON values -/

/-- A Python value that came out of `json.loads` or goes into `json.dumps`.
    A float is its IEEE 754 bit pattern. -/
inductive Json where
  | null
  | bool (b : Bool)
  | int (n : Int)
  | float (bits : UInt64)
  | str (s : String)
  | arr (items : List Json)
  | obj (entries : List (String × Json))

namespace Json

/-- `bool(value)`. -/
def truthy : Json → Bool
  | .null => false
  | .bool b => b
  | .int n => n != 0
  | .float bits => bits &&& 0x7FFFFFFFFFFFFFFF != 0
  | .str s => s != ""
  | .arr items => !items.isEmpty
  | .obj entries => !entries.isEmpty

/-- `type(value).__name__`. -/
def typeName : Json → String
  | .null => "NoneType"
  | .bool _ => "bool"
  | .int _ => "int"
  | .float _ => "float"
  | .str _ => "str"
  | .arr _ => "list"
  | .obj _ => "dict"

/-- The value of a key in the entries of an object. -/
def field (key : String) : List (String × Json) → Option Json
  | [] => none
  | (k, v) :: rest => if k = key then some v else field key rest

/-- The first field of a name is the one that is read. -/
theorem field_cons_self (key : String) (v : Json) (rest : List (String × Json)) :
    field key ((key, v) :: rest) = some v := if_pos rfl

/-- And other fields are skipped. -/
theorem field_cons_ne {key k : String} (h : k ≠ key) (v : Json) (rest : List (String × Json)) :
    field key ((k, v) :: rest) = field key rest := if_neg h

end Json

/-! ## Error details -/

/-- `google.protobuf.Any`. -/
structure AnyMessage where
  typeUrl : String
  value   : Bytes
  deriving DecidableEq, Repr

/-- `connectrpc.errors.ErrorDetail`: the packed message and, when the detail was
    made from a message that is not an `Any`, what `message_to_json_value` gives
    for that message (none where it raises `ValueError`). -/
structure ErrorDetail where
  any   : AnyMessage
  debug : Option Json

/-- The detail of a message that is an `Any` already. -/
def ErrorDetail.ofAny (any : AnyMessage) : ErrorDetail := ⟨any, none⟩

def typeUrlPrefix : String := "type.googleapis.com/"

/-- `s.removeprefix(pre)`. -/
def removePrefix (pre s : String) : String :=
  if pre.toList.isPrefixOf s.toList then String.ofList (s.toList.drop pre.toList.length) else s

/-- `ErrorDetail.type_name`. -/
def ErrorDetail.typeName (d : ErrorDetail) : String := removePrefix typeUrlPrefix d.any.typeUrl

/-- `ErrorDetail.message_bytes`. -/
def ErrorDetail.messageBytes (d : ErrorDetail) : Bytes := d.any.value

/-- A prefix just put in front is removed again. -/
theorem removePrefix_append (pre s : String) : removePrefix pre (pre ++ s) = s := by
  rw [removePrefix, String.toList_append, if_pos]
  · rw [List.drop_left, String.ofList_toList]
  · exact List.isPrefixOf_iff_prefix.mpr (List.prefix_append _ _)

/-! ## Exceptions -/

/-- `connectrpc.errors.ConnectError`. -/
structure ConnectError where
  code    : Code
  message : String
  details : List ErrorDetail := []

/-- `connectrpc._protocol.HTTPError`. -/
structure HTTPError where
  status  : Nat
  headers : List (String × String)

/-- The classes of the other exceptions the library raises or meets. -/
inductive ExceptionClass where
  | valueError | typeError | attributeError | runtimeError | structError | timeoutError
  | other (name : String)
  deriving DecidableEq, Repr

/-- Who asked for a cancellation: the request's own timeout scope, cut short by
    the deadline or a disconnect, or anyone else. -/
inductive CancelOrigin where
  | scope
  | appServer
  deriving DecidableEq, Repr

/-- A raised exception. -/
inductive Exc where
  | connectError (e : ConnectError)
  | httpError (e : HTTPError)
  | exception (cls : ExceptionClass) (text : String)
  | cancelled (origin : CancelOrigin)
  | baseException (name : String)

namespace Exc

/-- `isinstance(e, Exception)`. -/
def isException : Exc → Bool
  | .connectError _ => true
  | .httpError _ => true
  | .exception _ _ => true
  | .cancelled _ => false
  | .baseException _ => false

/-- `loop.is_cancellation(e)`. -/
def isCancellation : Exc → Bool
  | .cancelled _ => true
  | _ => false

def isConnectError : Exc → Bool
  | .connectError _ => true
  | _ => false

def isHTTPError : Exc → Bool
  | .httpError _ => true
  | _ => false

def isTimeoutError : Exc → Bool
  | .exception .timeoutError _ => true
  | _ => false

/-- `str(e)`. -/
def text : Exc → String
  | .connectError e => e.message
  | .httpError e => s!"({e.status}, {e.headers})"
  | .exception _ t => t
  | .cancelled _ => ""
  | .baseException _ => ""

/-- `ConnectError(code, message)`, as an exception. -/
def connect (code : Code) (message : String) : Exc := .connectError ⟨code, message, []⟩

/-- The exception raised by `value.name` on a JSON value without that attribute. -/
def noAttribute (j : Json) (name : String) : Exc :=
  .exception .attributeError s!"'{j.typeName}' object has no attribute '{name}'"

end Exc

end ConnectErrors
