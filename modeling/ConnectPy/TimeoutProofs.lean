import ConnectPy.ClientRequestProofs
import ConnectPy.DispatchProofs
import ConnectPy.IntTextProofs
import Mathlib.Algebra.Group.Int.Defs

/-! # Timeouts — two grammars, and who writes what the other reads

    A deadline travels as a header: `grpc-timeout` is a number of at most eight
    digits and the letter of a unit, `connect-timeout-ms` a number of at most ten
    digits.  The servers accept exactly these texts (`parseTimeout_ok_iff`,
    `connectTimeoutMs_ok_iff`): the tests in front of `int` leave it nothing to
    reject and nothing to read in another way.

    The clients do not keep to the grammars for every deadline.  The Connect
    client prints any number, so a deadline from 10^10 ms on is refused
    (`deadline_accepted_iff`); the gRPC client takes a coarser unit while there is
    one, so its refused deadlines start at 10^8 hours (`deadline_understood_iff`). -/

namespace ConnectTimeout

open IntText ConnectErrors ConnectPlatform ConnectHeaders ConnectClientRequest
open ConnectDispatch (RequestContext Request Refusal lookupTimeoutUnit)

variable (u : Unicode) {p : Platform}

/-! ## Reading a timeout -/

/-- `int(text)`, where it raises `ValueError`. -/
def parseInt (text : List Char) : Except Exc Int :=
  match int u text with
  | .error message => .error (.exception .valueError message)
  | .ok n => .ok n

/-- `_parse_timeout`. -/
def parseTimeout (timeout : String) : Except Exc Int :=
  if timeout.toList.length < 2 then
    .error (.connect .invalidArgument s!"protocol error: invalid timeout '{timeout}'")
  else
    match lookupTimeoutUnit (timeout.toList.getLastD 'n') with
    | .error e => .error e.exc
    | .ok valueToNs =>
        let digits := timeout.toList.dropLast
        if !(isAscii digits && isDigit u digits) then
          .error (.connect .invalidArgument s!"protocol error: invalid timeout '{timeout}'")
        else if 8 < digits.length then
          .error (.connect .invalidArgument s!"protocol error: timeout '{timeout}' is too long")
        else
          match parseInt u digits with
          | .error e => .error e
          | .ok n => .ok (n * valueToNs)

/-- The timeout of `ConnectServerProtocol.create_request_context`, in milliseconds. -/
def connectTimeoutMs : Option String → Except Exc (Option Int)
  | none => .ok none
  | some header =>
      if header = "" then .ok none
      else if 10 < header.toList.length then
        .error (.connect .invalidArgument s!"Invalid timeout header: '{header} has >10 digits")
      else if !(isAscii header.toList && isDigit u header.toList) then
        .error (.connect .invalidArgument s!"Invalid timeout header: '{header}'")
      else
        match parseInt u header.toList with
        | .error e => .error e
        | .ok n => .ok (some n)

/-! ## The grammars -/

/-- The letters of the units and the nanoseconds of each. -/
def timeoutUnits : List (Char × Nat) :=
  [('H', 3600 * 10 ^ 9), ('M', 60 * 10 ^ 9), ('S', 10 ^ 9), ('m', 10 ^ 6), ('u', 10 ^ 3), ('n', 1)]

/-- One to eight digits and a unit: so many nanoseconds. -/
def IsGrpcTimeout (text : String) (ns : Int) : Prop :=
  ∃ digits unit size, text.toList = digits ++ [unit] ∧ Digits digits ∧ digits.length ≤ 8
    ∧ (unit, size) ∈ timeoutUnits ∧ ns = ((Nat.ofDigitChars 10 digits 0 * size : Nat) : Int)

/-- One to ten digits: so many milliseconds. -/
def IsConnectTimeout (text : String) (ms : Int) : Prop :=
  Digits text.toList ∧ text.toList.length ≤ 10
    ∧ ms = ((Nat.ofDigitChars 10 text.toList 0 : Nat) : Int)

/-- A `ConnectError` that blames the argument. -/
def InvalidArgument (e : Exc) : Prop := ∃ message, e = .connect .invalidArgument message

theorem lookupTimeoutUnit_ok {unit : Char} {size : Nat} (h : (unit, size) ∈ timeoutUnits) :
    lookupTimeoutUnit unit = .ok size := by
  simp only [timeoutUnits, List.mem_cons, Prod.mk.injEq, List.not_mem_nil, or_false] at h
  rcases h with ⟨rfl, rfl⟩ | ⟨rfl, rfl⟩ | ⟨rfl, rfl⟩ | ⟨rfl, rfl⟩ | ⟨rfl, rfl⟩ | ⟨rfl, rfl⟩ <;> rfl

/-- A character is a unit or is refused. -/
theorem lookupTimeoutUnit_cases (unit : Char) :
    (∃ size, (unit, size) ∈ timeoutUnits)
      ∨ ∃ e, lookupTimeoutUnit unit = .error e ∧ InvalidArgument e.exc := by
  unfold lookupTimeoutUnit
  split
  · exact Or.inl ⟨3600 * 10 ^ 9, by simp [timeoutUnits]⟩
  · exact Or.inl ⟨60 * 10 ^ 9, by simp [timeoutUnits]⟩
  · exact Or.inl ⟨10 ^ 9, by simp [timeoutUnits]⟩
  · exact Or.inl ⟨10 ^ 6, by simp [timeoutUnits]⟩
  · exact Or.inl ⟨10 ^ 3, by simp [timeoutUnits]⟩
  · exact Or.inl ⟨1, by simp [timeoutUnits]⟩
  · exact Or.inr ⟨_, rfl, _, rfl⟩

theorem parseInt_digits {text : List Char} (h : Digits text) (hlen : text.length ≤ 10) :
    parseInt u text = .ok ((Nat.ofDigitChars 10 text 0 : Nat) : Int) := by
  rw [parseInt, int_digits u h (hlen.trans (by decide))]

/-- `_parse_timeout` of a text that is cut before its last character. -/
theorem parseTimeout_append {timeout : String} {digits : List Char} {unit : Char}
    (htext : timeout.toList = digits ++ [unit]) (hne : digits ≠ []) :
    parseTimeout u timeout =
      match lookupTimeoutUnit unit with
      | .error e => .error e.exc
      | .ok valueToNs =>
          if !(isAscii digits && isDigit u digits) then
            .error (.connect .invalidArgument s!"protocol error: invalid timeout '{timeout}'")
          else if 8 < digits.length then
            .error (.connect .invalidArgument
              s!"protocol error: timeout '{timeout}' is too long")
          else
            match parseInt u digits with
            | .error e => .error e
            | .ok n => .ok (n * valueToNs) := by
  have hlen : ¬ timeout.toList.length < 2 := by
    have hpos := List.length_pos_iff.mpr hne
    rw [htext, List.length_append, List.length_singleton]
    omega
  have hlast : timeout.toList.getLastD 'n' = unit := by rw [htext, List.getLastD_concat]
  have hinit : timeout.toList.dropLast = digits := by rw [htext, List.dropLast_concat]
  rw [parseTimeout, if_neg hlen, hlast, hinit]

/-- A text of the grammar is accepted. -/
theorem parseTimeout_of_isGrpcTimeout {timeout : String} {ns : Int}
    (h : IsGrpcTimeout timeout ns) : parseTimeout u timeout = .ok ns := by
  obtain ⟨digits, unit, size, htext, hdigits, hlen, hsize, rfl⟩ := h
  have htests := (isAscii_isDigit_iff u digits).mpr hdigits
  rw [parseTimeout_append u htext hdigits.1, lookupTimeoutUnit_ok hsize]
  dsimp only
  rw [htests, Bool.not_true, if_neg Bool.false_ne_true, if_neg (Nat.not_lt_of_le hlen),
    parseInt_digits u hdigits (by omega)]
  push_cast
  rfl

/-- Every other text is refused, and by a `ConnectError`. -/
theorem parseTimeout_of_not_isGrpcTimeout {timeout : String}
    (h : ∀ ns, ¬ IsGrpcTimeout timeout ns) :
    ∃ e, parseTimeout u timeout = .error e ∧ InvalidArgument e := by
  rcases List.eq_nil_or_concat' timeout.toList with hnil | ⟨digits, unit, htext⟩
  · exact ⟨_, by rw [parseTimeout, hnil]; exact if_pos (by decide), _, rfl⟩
  · by_cases hne : digits = []
    · exact ⟨_, by rw [parseTimeout, htext, hne]; exact if_pos (by simp), _, rfl⟩
    · rw [parseTimeout_append u htext hne]
      rcases lookupTimeoutUnit_cases unit with ⟨size, hsize⟩ | ⟨e, hlookup, he⟩
      · rw [lookupTimeoutUnit_ok hsize]
        dsimp only
        by_cases htests : (isAscii digits && isDigit u digits) = true
        · have hdigits := (isAscii_isDigit_iff u digits).mp htests
          rw [htests, Bool.not_true, if_neg Bool.false_ne_true]
          -- The length is all that can be wrong now.
          have hlong : 8 < digits.length := by
            by_contra hshort
            exact h _ ⟨digits, unit, size, htext, hdigits, Nat.le_of_not_lt hshort, hsize, rfl⟩
          exact ⟨_, if_pos hlong, _, rfl⟩
        · exact ⟨_, if_pos (by rw [Bool.eq_false_iff.mpr htests, Bool.not_false]), _, rfl⟩
      · rw [hlookup]
        exact ⟨_, rfl, he⟩

/-- **A gRPC timeout is accepted exactly when it is one**, with its value. -/
theorem parseTimeout_ok_iff (timeout : String) (ns : Int) :
    parseTimeout u timeout = .ok ns ↔ IsGrpcTimeout timeout ns := by
  constructor
  · intro hok
    by_cases h : ∃ ns', IsGrpcTimeout timeout ns'
    · obtain ⟨ns', h'⟩ := h
      rw [parseTimeout_of_isGrpcTimeout u h'] at hok
      injection hok with hns
      exact hns ▸ h'
    · obtain ⟨e, he, -⟩ := parseTimeout_of_not_isGrpcTimeout u (not_exists.mp h)
      rw [he] at hok
      exact nomatch hok
  · exact parseTimeout_of_isGrpcTimeout u

theorem parseTimeout_error {timeout : String} {e : Exc} (h : parseTimeout u timeout = .error e) :
    InvalidArgument e := by
  by_cases hgrammar : ∃ ns, IsGrpcTimeout timeout ns
  · obtain ⟨ns, hns⟩ := hgrammar
    rw [parseTimeout_of_isGrpcTimeout u hns] at h
    exact nomatch h
  · obtain ⟨e', he', hinvalid⟩ := parseTimeout_of_not_isGrpcTimeout u (not_exists.mp hgrammar)
    rw [he'] at h
    injection h with h
    exact h ▸ hinvalid

/-- Everything the Connect server can make of a header that is not empty. -/
theorem connectTimeoutMs_cases {header : String} (hne : header ≠ "") :
    (Digits header.toList ∧ header.toList.length ≤ 10
        ∧ connectTimeoutMs u (some header)
          = .ok (some ((Nat.ofDigitChars 10 header.toList 0 : Nat) : Int)))
      ∨ (¬ (Digits header.toList ∧ header.toList.length ≤ 10)
        ∧ ∃ e, connectTimeoutMs u (some header) = .error e ∧ InvalidArgument e) := by
  rw [connectTimeoutMs, if_neg hne]
  by_cases hlong : 10 < header.toList.length
  · exact Or.inr ⟨fun h => absurd h.2 (by omega), _, if_pos hlong, _, rfl⟩
  · have hshort : header.toList.length ≤ 10 := Nat.le_of_not_lt hlong
    rw [if_neg hlong]
    by_cases htests : (isAscii header.toList && isDigit u header.toList) = true
    · have hdigits := (isAscii_isDigit_iff u _).mp htests
      refine Or.inl ⟨hdigits, hshort, ?_⟩
      rw [htests, Bool.not_true, if_neg Bool.false_ne_true, parseInt_digits u hdigits hshort]
    · refine Or.inr ⟨fun h => htests ((isAscii_isDigit_iff u _).mpr h.1), _, if_pos ?_, _, rfl⟩
      rw [Bool.eq_false_iff.mpr htests, Bool.not_false]

/-- **A Connect timeout is accepted exactly when it is one**, with its value. -/
theorem connectTimeoutMs_ok_iff {header : String} (hne : header ≠ "") (timeoutMs : Option Int) :
    connectTimeoutMs u (some header) = .ok timeoutMs
      ↔ ∃ ms, timeoutMs = some ms ∧ IsConnectTimeout header ms := by
  rcases connectTimeoutMs_cases u hne with ⟨hdigits, hshort, hok⟩ | ⟨hnot, e, he, -⟩
  · rw [hok]
    constructor
    · intro h
      injection h with h
      exact ⟨_, h.symm, hdigits, hshort, rfl⟩
    · rintro ⟨ms, rfl, -, -, rfl⟩
      rfl
  · rw [he]
    constructor
    · intro h
      exact nomatch h
    · rintro ⟨ms, -, hdigits, hshort, -⟩
      exact absurd ⟨hdigits, hshort⟩ hnot

/-- **The servers accept exactly the timeout grammars**, with the value that each
    names, and blame the argument for every other text. -/
theorem timeouts_accepted_iff (text : String) :
    (∀ ns, parseTimeout u text = .ok ns ↔ IsGrpcTimeout text ns)
      ∧ (∀ e, parseTimeout u text = .error e → InvalidArgument e)
      ∧ (text ≠ "" →
        (∀ timeoutMs, connectTimeoutMs u (some text) = .ok timeoutMs
          ↔ ∃ ms, timeoutMs = some ms ∧ IsConnectTimeout text ms)
        ∧ ∀ e, connectTimeoutMs u (some text) = .error e → InvalidArgument e) := by
  refine ⟨parseTimeout_ok_iff u text, fun e => parseTimeout_error u, fun hne => ⟨?_, ?_⟩⟩
  · exact connectTimeoutMs_ok_iff u hne
  · intro e he
    rcases connectTimeoutMs_cases u hne with ⟨-, -, hok⟩ | ⟨-, e', he', hinvalid⟩
    · rw [hok] at he
      exact nomatch he
    · rw [he'] at he
      injection he with he
      exact he ▸ hinvalid

/-- A digit of another script is refused, though `int` would take it. -/
example : (parseTimeout .basic (String.ofList [Char.ofNat 0x661, 'm'])).toOption = none
    ∧ parseTimeout .basic "99999999H" = .ok 359999996400000000000 := by
  constructor <;> rfl

/-! ## In the contexts of the servers

    The dispatch folds the tests and `int` into one reading of digits; the
    timeouts it sees are the same. -/

theorem isAsciiDigits_eq (text : List Char) :
    ConnectDispatch.isAsciiDigits text = (isAscii text && isDigit u text) := by
  rw [Bool.eq_iff_iff, isAscii_isDigit_iff, ConnectDispatch.isAsciiDigits, Bool.and_eq_true,
    Bool.not_eq_true', List.isEmpty_eq_false_iff, List.all_eq_true]
  rfl

/-- A timeout of the dispatch, as the source computes it. -/
def lift (result : Except Refusal Nat) : Except Exc Int :=
  match result with
  | .error e => .error e.exc
  | .ok n => .ok n

theorem parseTimeout_eq (timeout : String) :
    parseTimeout u timeout = lift (ConnectDispatch.parseTimeout timeout) := by
  rw [parseTimeout, ConnectDispatch.parseTimeout]
  split
  · rfl
  · cases lookupTimeoutUnit (timeout.toList.getLastD 'n') with
    | error e => rfl
    | ok valueToNs =>
        dsimp only
        rw [isAsciiDigits_eq u]
        split
        · rfl
        · next htests =>
            split
            · rfl
            · next hshort =>
                have hdigits := (isAscii_isDigit_iff u _).mp
                  (by rw [Bool.not_eq_true', Bool.not_eq_false] at htests; exact htests)
                rw [parseInt_digits u hdigits (by omega)]
                dsimp only
                rw [lift]
                push_cast
                rfl

theorem connectTimeoutMs_eq (header : Option String) :
    connectTimeoutMs u header
      = match ConnectDispatch.connectTimeout header with
        | .error e => .error e.exc
        | .ok timeoutMs => .ok (timeoutMs.map fun ms => (ms : Int)) := by
  cases header with
  | none => rfl
  | some header =>
      rw [connectTimeoutMs, ConnectDispatch.connectTimeout, isAsciiDigits_eq u]
      split
      · rfl
      · split
        · rfl
        · next hshort =>
            split
            · rfl
            · next htests =>
                have hdigits := (isAscii_isDigit_iff u _).mp
                  (by rw [Bool.not_eq_true', Bool.not_eq_false] at htests; exact htests)
                rw [parseInt_digits u hdigits (Nat.le_of_not_lt hshort)]
                rfl

/-- A method that the Connect protocol takes for the request's endpoint. -/
def MethodAllowed (r : Request p) : Prop :=
  r.httpMethod = "POST" ∨ r.idempotency = .noSideEffects ∧ r.httpMethod = "GET"

/-- The context of a request that has nothing wrong but perhaps its timeout. -/
theorem connectRequestContext_timeout {r : Request p} (hmethod : MethodAllowed r)
    (hversion : r.headers.get? "connect-protocol-version" = some "1") :
    ConnectDispatch.connectRequestContext r
      = match ConnectDispatch.connectTimeout (r.headers.get? "connect-timeout-ms") with
        | .error e => .error e
        | .ok timeoutMs => .ok (ConnectDispatch.requestContext r
            (timeoutMs.map fun ms => ms * 1000000)) := by
  have hget : ¬ (r.idempotency = .noSideEffects ∧ r.httpMethod ≠ "GET"
      ∧ r.httpMethod ≠ "POST") := by
    rintro ⟨-, hnget, hnpost⟩
    rcases hmethod with h | ⟨-, h⟩
    · exact hnpost h
    · exact hnget h
  have hpost : ¬ (r.idempotency ≠ .noSideEffects ∧ r.httpMethod ≠ "POST") := by
    rintro ⟨hside, hnpost⟩
    rcases hmethod with h | ⟨h, -⟩
    · exact hnpost h
    · exact hside h
  rw [ConnectDispatch.connectRequestContext, if_neg hget, if_neg hpost, hversion]
  rfl

/-! ## The deadline of a Connect client -/

/-- The client prints a number of ten digits at most, or more than the server takes. -/
theorem connectTimeout_toString {n : Nat} :
    ConnectDispatch.connectTimeout (some (toString (n : Int)))
      = if n < 10 ^ 10 then .ok (some n)
        else .error (ConnectDispatch.invalidArgument
          s!"Invalid timeout header: '{toString (n : Int)} has >10 digits") := by
  have hdigits := digits_toDigits n
  have hne : toString (n : Int) ≠ "" := by
    intro h
    have hnil := congrArg String.toList h
    rw [toList_toString] at hnil
    exact hdigits.1 hnil
  rw [ConnectDispatch.connectTimeout, if_neg hne, toList_toString]
  by_cases hlt : n < 10 ^ 10
  · have hlen := (length_toDigits_le (by decide)).mpr hlt
    have htests := (isAscii_isDigit_iff .basic _).mpr hdigits
    rw [if_pos hlt, if_neg (Nat.not_lt_of_le hlen), isAsciiDigits_eq .basic, htests]
    exact congrArg (fun n => Except.ok (some n)) Nat.ofDigitChars_ten_toDigits
  · have hlen : ¬ (Nat.toDigits 10 n).length ≤ 10 := fun h =>
      hlt ((length_toDigits_le (by decide)).mp h)
    rw [if_neg hlt, if_pos (Nat.lt_of_not_le hlen)]

/-- A request as the client's headers make it. -/
def withHeaders (r : Request p) (userAgent : String) (call : Call p) : Request p :=
  { r with headers := requestHeaders .connect userAgent call }

/-- The server accepts the client's headers, and leaves the time the caller gave,
    or all the time there is when ten digits do not hold it. -/
def DeadlineAccepted (r : Request p) (userAgent : String) (call : Call p) (timeoutMs : Int) :
    Prop :=
  ∃ ctx, ConnectDispatch.connectRequestContext (withHeaders r userAgent call) = .ok ctx
    ∧ ctx.timeoutNs = if timeoutMs < 10 ^ 10 then some (timeoutMs.toNat * 10 ^ 6) else none

/-- The server's context for the headers of a client with a deadline. -/
theorem connectRequestContext_withHeaders {r : Request p} (hmethod : MethodAllowed r)
    (userAgent : String) {call : Call p} {n : Nat} (hcall : call.timeoutMs = some (n : Int)) :
    ConnectDispatch.connectRequestContext (withHeaders r userAgent call)
      = if n < 10 ^ 10 then
          .ok (ConnectDispatch.requestContext (withHeaders r userAgent call) (some (n * 1000000)))
        else .error (ConnectDispatch.invalidArgument
          s!"Invalid timeout header: '{toString (n : Int)} has >10 digits") := by
  have hallowed : MethodAllowed (withHeaders r userAgent call) := hmethod
  rw [connectRequestContext_timeout hallowed (requestHeaders_version userAgent call)]
  have htimeout : (withHeaders r userAgent call).headers.get? "connect-timeout-ms"
      = some (toString (n : Int)) := requestHeaders_timeout userAgent hcall
  rw [htimeout, connectTimeout_toString]
  by_cases hlt : n < 10 ^ 10
  · rw [if_pos hlt, if_pos hlt]
    rfl
  · rw [if_neg hlt, if_neg hlt]

/-- **A Connect deadline is accepted exactly when it has ten digits at most.** -/
theorem deadline_accepted_iff {r : Request p} (hmethod : MethodAllowed r) (userAgent : String)
    {call : Call p} {timeoutMs : Int} (hcall : call.timeoutMs = some timeoutMs)
    (hpos : 1 ≤ timeoutMs) :
    DeadlineAccepted r userAgent call timeoutMs ↔ timeoutMs < 10 ^ 10 := by
  obtain ⟨n, rfl⟩ := Int.eq_ofNat_of_zero_le (show 0 ≤ timeoutMs by omega)
  rw [DeadlineAccepted, connectRequestContext_withHeaders hmethod userAgent hcall]
  by_cases hlt : n < 10 ^ 10
  · have hcast : (n : Int) < 10 ^ 10 := by exact_mod_cast hlt
    rw [if_pos hlt, if_pos hcast]
    exact iff_of_true ⟨_, rfl, rfl⟩ hcast
  · have hcast : ¬ (n : Int) < 10 ^ 10 := by exact_mod_cast hlt
    rw [if_neg hlt]
    refine iff_of_false ?_ hcast
    rintro ⟨ctx, hctx, -⟩
    exact nomatch hctx

/-- A unary call with a deadline. -/
def plainCall (timeoutMs : Int) : Call Platform.plain :=
  ⟨.none, some timeoutMs, "proto", false, "gzip", none⟩

/-- A unary request by POST, before it has the headers of a call. -/
def plainRequest : Request Platform.plain :=
  ⟨.unary, .unknown, "POST", "http", .empty _, none, none, false⟩

theorem deadline_of_seconds_accepted :
    DeadlineAccepted plainRequest "connectrpc" (plainCall 1500) 1500 :=
  have hcall : (plainCall 1500).timeoutMs = some 1500 := rfl
  (deadline_accepted_iff (Or.inl rfl) "connectrpc" hcall (by decide)).mpr (by decide)

theorem deadline_of_months_refused :
    ¬ DeadlineAccepted plainRequest "connectrpc" (plainCall (10 ^ 10)) (10 ^ 10) := by
  have hallowed : MethodAllowed plainRequest := Or.inl rfl
  have hcall : (plainCall (10 ^ 10)).timeoutMs = some ((10 ^ 10 : Nat) : Int) := rfl
  have hcontext := connectRequestContext_withHeaders hallowed "connectrpc" hcall
  rw [if_neg (by decide)] at hcontext
  rintro ⟨ctx, hctx, -⟩
  rw [hcontext] at hctx
  exact nomatch hctx

/-! ## The deadline of a gRPC client -/

/-- The unit that the client counts in, by its letter and its milliseconds, and
    the number it prints. -/
structure Printed (n : Nat) (unit : Char) (ms : Nat) : Prop where
  isUnit : (unit, ms * 10 ^ 6) ∈ timeoutUnits
  pos    : 0 < ms
  le     : ms ≤ n
  /-- Short deadlines are counted in milliseconds. -/
  millis : n < 10 ^ 8 → unit = 'm' ∧ ms = 1
  /-- Eight digits do for less than 10^8 hours. -/
  fits   : n / ms < 10 ^ 8 ↔ n < 10 ^ 8 * 3600000
  text   : (serializeTimeout n).toList = Nat.toDigits 10 (n / ms) ++ [unit]

/-- A number in front of a unit. -/
theorem toList_number (n : Nat) (unit : String) :
    (toString (n : Int) ++ unit).toList = Nat.toDigits 10 n ++ unit.toList := by
  rw [String.toList_append, toList_toString]

/-- The client counts in the finest unit in which eight digits do, as far as there is one. -/
theorem exists_printed {n : Nat} (hn : 1 ≤ n) : ∃ unit ms, Printed n unit ms := by
  have hpos : ¬ (n : Int) ≤ 0 := by omega
  by_cases hm : n < 10 ^ 8
  · refine ⟨'m', 1, by decide, by decide, hn, fun _ => ⟨rfl, rfl⟩, by omega, ?_⟩
    rw [serializeTimeout, if_neg hpos, if_pos (by omega), Nat.div_one]
    exact toList_number n "m"
  · have hmillis : ¬ (n : Int) < 100000000 := by omega
    by_cases hs : n < 10 ^ 8 * 1000
    · refine ⟨'S', 1000, by decide, by decide, by omega, fun h => absurd h hm, by omega, ?_⟩
      have hquotient : (n : Int) / 1000 = ((n / 1000 : Nat) : Int) := by omega
      rw [serializeTimeout, if_neg hpos, if_neg hmillis, if_pos (by omega), hquotient]
      exact toList_number (n / 1000) "S"
    · have hseconds : ¬ (n : Int) < 100000000 * 1000 := by omega
      by_cases hmin : n < 10 ^ 8 * 60000
      · refine ⟨'M', 60000, by decide, by decide, by omega, fun h => absurd h hm, by omega, ?_⟩
        have hquotient : (n : Int) / (60 * 1000) = ((n / 60000 : Nat) : Int) := by omega
        rw [serializeTimeout, if_neg hpos, if_neg hmillis, if_neg hseconds, if_pos (by omega),
          hquotient]
        exact toList_number (n / 60000) "M"
      · -- The last branch has no bound of its own.
        refine ⟨'H', 3600000, by decide, by decide, by omega, fun h => absurd h hm, by omega, ?_⟩
        have hquotient : (n : Int) / (60 * 60 * 1000) = ((n / 3600000 : Nat) : Int) := by omega
        rw [serializeTimeout, if_neg hpos, if_neg hmillis, if_neg hseconds, if_neg (by omega),
          hquotient]
        exact toList_number (n / 3600000) "H"

/-- What the server makes of a number in front of a unit. -/
theorem parseTimeout_printed {text : String} {n size : Nat} {unit : Char}
    (htext : text.toList = Nat.toDigits 10 n ++ [unit]) (hunit : (unit, size) ∈ timeoutUnits) :
    parseTimeout u text
      = if n < 10 ^ 8 then .ok ((n * size : Nat) : Int)
        else .error (.connect .invalidArgument
          s!"protocol error: timeout '{text}' is too long") := by
  have hdigits := digits_toDigits n
  by_cases hlt : n < 10 ^ 8
  · have hlen := (length_toDigits_le (by decide)).mpr hlt
    rw [if_pos hlt]
    refine parseTimeout_of_isGrpcTimeout u ⟨_, unit, size, htext, hdigits, hlen, hunit, ?_⟩
    rw [Nat.ofDigitChars_ten_toDigits]
  · have hlen : 8 < (Nat.toDigits 10 n).length := by
      by_contra hshort
      exact hlt ((length_toDigits_le (by decide)).mp (Nat.le_of_not_lt hshort))
    have htests := (isAscii_isDigit_iff u _).mpr hdigits
    rw [if_neg hlt, parseTimeout_append u htext hdigits.1, lookupTimeoutUnit_ok hunit]
    dsimp only
    rw [htests, Bool.not_true, if_neg Bool.false_ne_true, if_pos hlen]

/-- The server reads a duration of its own from the client's deadline: none of it
    is left when there was none, and otherwise it falls short by less than one of
    the units that the client chose, of milliseconds as long as eight digits do. -/
def DeadlineUnderstood (timeoutMs : Int) : Prop :=
  ∃ ns, parseTimeout u (serializeTimeout timeoutMs) = .ok ns
    ∧ (timeoutMs ≤ 0 → ns = 0)
    ∧ (1 ≤ timeoutMs → 0 < ns ∧ ns ≤ timeoutMs * 10 ^ 6
      ∧ ∃ unit size, (serializeTimeout timeoutMs).toList.getLast? = some unit
        ∧ (unit, size) ∈ timeoutUnits ∧ timeoutMs * 10 ^ 6 < ns + size
        ∧ (timeoutMs < 10 ^ 8 → unit = 'm' ∧ ns = timeoutMs * 10 ^ 6))

/-- **A gRPC deadline is understood exactly when it is less than 10^8 hours.** -/
theorem deadline_understood_iff (timeoutMs : Int) :
    DeadlineUnderstood u timeoutMs ↔ timeoutMs < 10 ^ 8 * 3600000 := by
  by_cases hpos : timeoutMs ≤ 0
  · have hzero : parseTimeout u (serializeTimeout timeoutMs) = .ok 0 := by
      rw [serializeTimeout, if_pos hpos]
      exact parseTimeout_of_isGrpcTimeout u ⟨['0'], 'n', 1, by decide, digits_toDigits 0,
        by decide, by decide, by decide⟩
    exact iff_of_true ⟨0, hzero, fun _ => rfl, fun h => absurd h (by omega)⟩ (by omega)
  · obtain ⟨n, rfl⟩ := Int.eq_ofNat_of_zero_le (show 0 ≤ timeoutMs by omega)
    obtain ⟨unit, ms, h⟩ := exists_printed (n := n) (by omega)
    have hread := parseTimeout_printed u h.text h.isUnit
    -- The milliseconds that the number stands for.
    have hle := Nat.div_mul_le_self n ms
    have hrest := Nat.lt_div_mul_add h.pos (a := n)
    have hsome := Nat.mul_pos (Nat.div_pos h.le h.pos) h.pos
    rw [← Nat.mul_assoc] at hread
    by_cases hlt : n < 10 ^ 8 * 3600000
    · rw [if_pos (h.fits.mpr hlt)] at hread
      refine iff_of_true ⟨_, hread, fun h => absurd h hpos, fun _ => ⟨by omega, by omega, unit,
        ms * 10 ^ 6, ?_, h.isUnit, by omega, fun hm => ?_⟩⟩ (by omega)
      · rw [h.text, List.getLast?_concat]
      · obtain ⟨hunit, hone⟩ := h.millis (by omega)
        exact ⟨hunit, by omega⟩
    · rw [if_neg (fun hf => hlt (h.fits.mp hf))] at hread
      refine iff_of_false ?_ (by omega)
      rintro ⟨ns, hns, -⟩
      rw [hread] at hns
      exact nomatch hns

/-- 10^8 hours take nine digits. -/
theorem deadline_of_ages_refused : ¬ DeadlineUnderstood .basic 360000000000000 := by
  have htext : serializeTimeout 360000000000000 = "100000000H" := by decide +kernel
  have hread : parseTimeout .basic "100000000H" = .error (.connect .invalidArgument
      "protocol error: timeout '100000000H' is too long") := by rfl
  rintro ⟨ns, hns, -⟩
  rw [htext, hread] at hns
  exact nomatch hns

end ConnectTimeout
