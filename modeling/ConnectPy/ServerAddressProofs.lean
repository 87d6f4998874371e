import ConnectPy.ErrorsProofs
import ConnectPy.IntTextProofs
import ConnectPy.OrderedDictProofs
import ConnectPy.PartitionProofs

/-! # The server's address — put together from a header, and taken apart

    The address of a server is the `Host` header, to which `host_to_server_address` adds
    the default port if it sees no colon.  The telemetry interceptor takes the text
    apart again: `_split_address` looks for a port behind the last colon.

    The two agree on a name, with or without a port.  They do not on an IPv6 literal
    without one (`BareLiteral`): its colons stand for no port, but keep the default from
    being added.  And behind the last colon may be what `isdigit` takes and `int` refuses
    (`Unconvertible`), which raises. -/

namespace ConnectServerAddress

open ConnectErrors IntText OrderedDict Partition

variable (u : Unicode)

/-! ## The address -/

/-- `host_to_server_address`. -/
def hostToServerAddress (host : Option String) (httpScheme : String) : Option String :=
  host.map fun host =>
    if ':' ∈ host.toList then host
    else if httpScheme = "https" then host ++ ":443"
    else if httpScheme = "http" then host ++ ":80"
    else host

/-- `_split_address`. -/
def splitAddress (address : String) : Except Exc (String × Option Int) :=
  let (host, port) := rpartition ':' address
  if host = "" ∨ isDigit u port.toList = false then .ok (address, none)
  else
    match int u port.toList with
    | .ok n => .ok (host, some n)
    | .error text => .error (.exception .valueError text)

/-! ## The attributes -/

/-- `AttributeValue`, as far as it is used. -/
inductive AttributeValue
  | str (s : String)
  | int (n : Int)
  deriving DecidableEq

abbrev Attributes := Dict String AttributeValue

/-- What the interceptor asks a `RequestContext` for. -/
structure RequestContext where
  serviceName   : String
  methodName    : String
  serverAddress : Option String
  clientAddress : Option String

/-- An address under its two keys. -/
def setAddress (addressKey portKey : String) (address : Option String) (attrs : Attributes) :
    Except Exc Attributes :=
  match address with
  | none => .ok attrs
  | some text =>
      if text = "" then .ok attrs
      else
        match splitAddress u text with
        | .error e => .error e
        | .ok (addr, none) => .ok (attrs.insert addressKey (.str addr))
        | .ok (addr, some port) =>
            .ok ((attrs.insert addressKey (.str addr)).insert portKey (.int port))

/-- The attributes that `on_start_sync` records for the span and for the metrics. -/
def sharedAttrs (ctx : RequestContext) : Except Exc Attributes :=
  let rpcMethod := s!"{ctx.serviceName}/{ctx.methodName}"
  let attrs := (Dict.empty.insert "rpc.system.name" (.str "connectrpc")).insert "rpc.method"
    (.str rpcMethod)
  setAddress u "server.address" "server.port" ctx.serverAddress attrs

/-- `on_start_sync`, up to the span: the shared attributes, and those of the span, which
    `_start_span` makes of a copy. -/
def onStartSync (ctx : RequestContext) : Except Exc (Attributes × Attributes) :=
  match sharedAttrs u ctx with
  | .error e => .error e
  | .ok shared =>
      match setAddress u "client.address" "client.port" ctx.clientAddress shared with
      | .error e => .error e
      | .ok attrs => .ok (shared, attrs)

/-- The context that a protocol builds from the `Host` header. -/
def ofHost (serviceName methodName : String) (clientAddress : Option String)
    (host httpScheme : String) : RequestContext :=
  ⟨serviceName, methodName, hostToServerAddress (some host) httpScheme, clientAddress⟩

/-! ## Authorities -/

def isHex (c : Char) : Bool :=
  c.isDigit || decide ('a' ≤ c ∧ c ≤ 'f') || decide ('A' ≤ c ∧ c ≤ 'F')

/-- Sixteen bits of an IPv6 address. -/
def IsGroup (text : List Char) : Prop :=
  text ≠ [] ∧ text.length ≤ 4 ∧ ∀ c ∈ text, isHex c = true

/-- Four numbers with dots between them. -/
def IsIPv4 (text : List Char) : Prop :=
  ∃ a b c d : Nat, a < 256 ∧ b < 256 ∧ c < 256 ∧ d < 256
    ∧ text = Nat.toDigits 10 a ++ '.' :: Nat.toDigits 10 b ++ '.' :: Nat.toDigits 10 c
      ++ '.' :: Nat.toDigits 10 d

/-- Groups with colons between them, and their number; the last two may be written as an
    IPv4 address where that is allowed. -/
inductive Groups : Bool → Nat → List Char → Prop
  | one {v4 text} : IsGroup text → Groups v4 1 text
  | ipv4 {text} : IsIPv4 text → Groups true 2 text
  | more {v4 n group rest} : IsGroup group → Groups v4 n rest →
      Groups v4 (n + 1) (group ++ ':' :: rest)

/-- One side of an elision. -/
inductive Side : Bool → Nat → List Char → Prop
  | nothing {v4} : Side v4 0 []
  | groups {v4 n text} : Groups v4 n text → Side v4 n text

/-- Eight groups, or fewer around a double colon. -/
inductive IsIPv6 : List Char → Prop
  | full {text} : Groups true 8 text → IsIPv6 text
  | elided {n m left right} : Side false n left → Side true m right → n + m ≤ 7 →
      IsIPv6 (left ++ ':' :: ':' :: right)

/-- The characters of a registered name; IPv4 addresses consist of them too. -/
def isRegName (c : Char) : Bool :=
  c.isAlphanum || "-._~!$&'()*+,;=%".toList.contains c

inductive IsHost : String → Prop
  | regName {name} : name ≠ "" → (∀ c ∈ name.toList, isRegName c = true) → IsHost name
  | literal {text} : IsIPv6 text → IsHost (String.ofList ('[' :: text ++ [']']))

/-- A host, and the digits of a port behind a colon if there are any. -/
def IsAuthority (text host : String) (port : Option (List Char)) : Prop :=
  IsHost host ∧
    match port with
    | none => text = host
    | some digits => Digits digits ∧ text = host ++ (String.singleton ':' ++ String.ofList digits)

/-- The number of a port, or the default of the scheme. -/
def portNumber (httpScheme : String) : Option (List Char) → Int
  | some digits => Nat.ofDigitChars 10 digits 0
  | none => if httpScheme = "https" then 443 else 80

/-! ## What is recorded -/

/-- The address is recorded whatever the header is, and of an authority the host and the
    port. -/
structure Recorded (serviceName methodName : String) (clientAddress : Option String)
    (host httpScheme : String) : Prop where
  recorded : ∃ attrs,
    sharedAttrs u (ofHost serviceName methodName clientAddress host httpScheme) = .ok attrs
  authority : ∀ name port, IsAuthority host name port → ∃ attrs,
    sharedAttrs u (ofHost serviceName methodName clientAddress host httpScheme) = .ok attrs
      ∧ attrs.get? "server.address" = some (.str name)
      ∧ attrs.get? "server.port" = some (.int (portNumber httpScheme port))

/-- Behind the last colon is what `isdigit` takes and `int` refuses, and something in front
    of it. -/
def Unconvertible (host : String) : Prop :=
  ∃ before behind, before ≠ "" ∧ ':' ∉ behind.toList
    ∧ host = before ++ (String.singleton ':' ++ behind)
    ∧ isDigit u behind.toList = true ∧ ∃ text, int u behind.toList = .error text

/-- An IPv6 literal, and nothing else. -/
def BareLiteral (host : String) : Prop :=
  ∃ text, IsIPv6 text ∧ host = String.ofList ('[' :: text ++ [']'])

section Address

variable {u}

theorem setAddress_port {addressKey portKey text addr : String} {port : Int} (attrs : Attributes)
    (htext : text ≠ "") (h : splitAddress u text = .ok (addr, some port)) :
    setAddress u addressKey portKey (some text) attrs
      = .ok ((attrs.insert addressKey (.str addr)).insert portKey (.int port)) := by
  rw [setAddress, if_neg htext, h]

theorem setAddress_noPort {addressKey portKey text addr : String} (attrs : Attributes)
    (htext : text ≠ "") (h : splitAddress u text = .ok (addr, none)) :
    setAddress u addressKey portKey (some text) attrs
      = .ok (attrs.insert addressKey (.str addr)) := by
  rw [setAddress, if_neg htext, h]

theorem setAddress_error {addressKey portKey text : String} {e : Exc} (attrs : Attributes)
    (htext : text ≠ "") (h : splitAddress u text = .error e) :
    setAddress u addressKey portKey (some text) attrs = .error e := by
  rw [setAddress, if_neg htext, h]

/-- A port of digits, behind something. -/
theorem splitAddress_port {before behind : String} (hbefore : before ≠ "")
    (hcolon : ':' ∉ behind.toList) (hdigit : isDigit u behind.toList = true) :
    splitAddress u (before ++ (String.singleton ':' ++ behind))
      = match int u behind.toList with
        | .ok n => .ok (before, some n)
        | .error text => .error (.exception .valueError text) := by
  rw [splitAddress, rpartition_append before hcolon]
  dsimp only
  rw [if_neg]
  rintro (h | h)
  · exact hbefore h
  · rw [hdigit] at h
    exact nomatch h

/-- No digits, no port. -/
theorem splitAddress_noPort {before behind : String} (hcolon : ':' ∉ behind.toList)
    (hdigit : isDigit u behind.toList = false) :
    splitAddress u (before ++ (String.singleton ':' ++ behind))
      = .ok (before ++ (String.singleton ':' ++ behind), none) := by
  rw [splitAddress, rpartition_append before hcolon]
  dsimp only
  rw [if_pos (Or.inr hdigit)]

/-- `_split_address` raises only behind what `int` refuses. -/
theorem splitAddress_cases (text : String) :
    (∃ r, splitAddress u text = .ok r) ∨ Unconvertible u text := by
  rcases rpartition_cases ':' text with ⟨-, hcut⟩ | ⟨before, behind, hcolon, hcut, htext⟩
  · refine Or.inl ⟨(text, none), ?_⟩
    rw [splitAddress, hcut]
    exact if_pos (Or.inl rfl)
  · by_cases hbefore : before = ""
    · refine Or.inl ⟨(text, none), ?_⟩
      rw [splitAddress, hcut]
      exact if_pos (Or.inl hbefore)
    · cases hdigit : isDigit u behind.toList with
      | false =>
          refine Or.inl ⟨(text, none), ?_⟩
          rw [htext, splitAddress_noPort hcolon hdigit]
      | true =>
          cases hint : int u behind.toList with
          | ok n =>
              refine Or.inl ⟨(before, some n), ?_⟩
              rw [htext, splitAddress_port hbefore hcolon hdigit, hint]
          | error e => exact Or.inr ⟨before, behind, hbefore, hcolon, htext, hdigit, e, hint⟩

/-- The default port comes out as it was put in. -/
theorem splitAddress_default {host : String} (hhost : host ≠ "") {digits : String} {n : Nat}
    (hdigits : Digits digits.toList) (hcolon : ':' ∉ digits.toList)
    (hlen : digits.toList.length ≤ maxStrDigits)
    (hn : Nat.ofDigitChars 10 digits.toList 0 = n) :
    splitAddress u (host ++ (String.singleton ':' ++ digits)) = .ok (host, some (n : Int)) := by
  have hdigit := ((Bool.and_eq_true _ _).mp ((isAscii_isDigit_iff u _).mpr hdigits)).2
  rw [splitAddress_port hhost hcolon hdigit, int_digits u hdigits hlen, hn]

end Address

/-! ## Authorities and colons -/

theorem Groups.colon {v4 : Bool} {n : Nat} {text : List Char} (h : Groups v4 n text)
    (hn : 3 ≤ n) : ':' ∈ text := by
  cases h with
  | one => exact absurd hn (by decide)
  | ipv4 => exact absurd hn (by decide)
  | more => simp

theorem IsIPv6.colon {text : List Char} (h : IsIPv6 text) : ':' ∈ text := by
  cases h with
  | full h => exact h.colon (by decide)
  | elided => simp

/-- Behind the last colon of a literal is its closing bracket. -/
theorem literal_cut {text : List Char} (h : ':' ∈ text) :
    ∃ before behind, ':' ∉ behind.toList ∧ ']' ∈ behind.toList
      ∧ String.ofList ('[' :: text ++ [']']) = before ++ (String.singleton ':' ++ behind) := by
  rcases rpartition_cases ':' (String.ofList ('[' :: text ++ [']'])) with
    ⟨hnone, -⟩ | ⟨before, behind, hcolon, -, htext⟩
  · exact absurd (by simp [h]) hnone
  · refine ⟨before, behind, hcolon, ?_, htext⟩
    have hlast : (before ++ (String.singleton ':' ++ behind)).toList.getLast? = some ']' := by
      rw [← htext, String.toList_ofList]
      exact List.getLast?_concat
    rw [String.toList_append, String.toList_append, String.toList_singleton,
      List.singleton_append, List.getLast?_append, List.getLast?_cons] at hlast
    cases hbehind : behind.toList.getLast? with
    | none =>
        rw [hbehind] at hlast
        exact absurd hlast (by simp)
    | some c =>
        rw [hbehind] at hlast
        obtain rfl : c = ']' := by simpa using hlast
        exact List.mem_of_getLast? hbehind

theorem isDigit_bracket {behind : String} (h : ']' ∈ behind.toList) :
    isDigit u behind.toList = false := by
  rw [isDigit, Bool.and_eq_false_iff]
  refine Or.inr (List.all_eq_false.mpr ⟨']', h, ?_⟩)
  rw [u.isDigit_ascii ']' (by decide)]
  decide

/-! ## Where the two agree -/

section Agree

variable {serviceName methodName : String} {clientAddress : Option String}
  {host httpScheme : String}

/-- The attributes before the address. -/
def rpcAttrs (serviceName methodName : String) : Attributes :=
  (Dict.empty.insert "rpc.system.name" (.str "connectrpc")).insert "rpc.method"
    (.str s!"{serviceName}/{methodName}")

theorem sharedAttrs_ofHost {address : String}
    (h : hostToServerAddress (some host) httpScheme = some address) :
    sharedAttrs u (ofHost serviceName methodName clientAddress host httpScheme)
      = setAddress u "server.address" "server.port" (some address)
          (rpcAttrs serviceName methodName) := by
  rw [sharedAttrs, ofHost, h]
  rfl

theorem hostToServerAddress_colon (h : ':' ∈ host.toList) :
    hostToServerAddress (some host) httpScheme = some host := by
  rw [hostToServerAddress, Option.map_some, if_pos h]

/-- Without a colon the default port is added. -/
theorem hostToServerAddress_default (hscheme : httpScheme = "http" ∨ httpScheme = "https")
    (h : ':' ∉ host.toList) :
    ∃ digits : String, hostToServerAddress (some host) httpScheme
        = some (host ++ (String.singleton ':' ++ digits))
      ∧ Digits digits.toList ∧ ':' ∉ digits.toList ∧ digits.toList.length ≤ maxStrDigits
      ∧ (Nat.ofDigitChars 10 digits.toList 0 : Int) = portNumber httpScheme none := by
  rw [hostToServerAddress, Option.map_some, if_neg h]
  rcases hscheme with rfl | rfl
  · refine ⟨"80", ?_, (isAscii_isDigit_iff .basic _).mp (by decide), by decide, by decide,
      by decide⟩
    rw [if_neg (by decide), if_pos rfl]
    rfl
  · refine ⟨"443", ?_, (isAscii_isDigit_iff .basic _).mp (by decide), by decide, by decide,
      by decide⟩
    rw [if_pos rfl]
    rfl

/-- The address and its port, as they are recorded. -/
theorem get?_recorded (attrs : Attributes) (addr : String) (port : Int) :
    ((attrs.insert "server.address" (.str addr)).insert "server.port" (.int port)).get?
        "server.address" = some (.str addr)
      ∧ ((attrs.insert "server.address" (.str addr)).insert "server.port" (.int port)).get?
        "server.port" = some (.int port) := by
  refine ⟨?_, Dict.get?_insert_self _ _ _⟩
  rw [Dict.get?_insert_ne _ (by decide), Dict.get?_insert_self]

/-- Whatever the header, the attributes are recorded or `int` refuses the port. -/
theorem recorded_or_unconvertible (hscheme : httpScheme = "http" ∨ httpScheme = "https") :
    (∃ attrs, sharedAttrs u (ofHost serviceName methodName clientAddress host httpScheme)
        = .ok attrs) ∨ Unconvertible u host := by
  by_cases hcolon : ':' ∈ host.toList
  · have hhost : host ≠ "" := by
      rintro rfl
      exact absurd hcolon (by decide)
    rw [sharedAttrs_ofHost u (hostToServerAddress_colon hcolon)]
    rcases splitAddress_cases (u := u) host with ⟨⟨addr, port⟩, hsplit⟩ | hbad
    · cases port with
      | none => exact Or.inl ⟨_, setAddress_noPort _ hhost hsplit⟩
      | some port => exact Or.inl ⟨_, setAddress_port _ hhost hsplit⟩
    · exact Or.inr hbad
  · obtain ⟨digits, haddress, hdigits, hdcolon, hlen, -⟩ :=
      hostToServerAddress_default hscheme hcolon
    rw [sharedAttrs_ofHost u haddress]
    have hne : host ++ (String.singleton ':' ++ digits) ≠ "" := by
      intro h
      have hlist := congrArg String.toList h
      simp at hlist
    by_cases hhost : host = ""
    · have hsplit : splitAddress u (host ++ (String.singleton ':' ++ digits))
          = .ok (host ++ (String.singleton ':' ++ digits), none) := by
        rw [splitAddress, rpartition_append host hdcolon]
        exact if_pos (Or.inl hhost)
      exact Or.inl ⟨_, setAddress_noPort _ hne hsplit⟩
    · exact Or.inl ⟨_, setAddress_port _ hne (splitAddress_default hhost hdigits hdcolon hlen rfl)⟩

theorem IsHost.ne_empty {name : String} (h : IsHost name) : name ≠ "" := by
  cases h with
  | regName hne => exact hne
  | literal =>
      intro h
      have hlist := congrArg String.toList h
      simp at hlist

/-- A host with a port, where `int` takes the port. -/
theorem recorded_port {name : String} {digits : List Char} (hname : IsHost name)
    (hdigits : Digits digits)
    (hhost : host = name ++ (String.singleton ':' ++ String.ofList digits))
    (hok : ¬ Unconvertible u host) :
    sharedAttrs u (ofHost serviceName methodName clientAddress host httpScheme)
      = .ok (((rpcAttrs serviceName methodName).insert "server.address" (.str name)).insert
          "server.port" (.int (portNumber httpScheme (some digits)))) := by
  have hcolon : ':' ∈ host.toList := by
    rw [hhost]
    simp
  have hdcolon : ':' ∉ (String.ofList digits).toList := by
    rw [String.toList_ofList]
    intro h
    exact absurd (hdigits.2 ':' h) (by decide)
  have hdigit : isDigit u (String.ofList digits).toList = true := by
    rw [String.toList_ofList]
    exact ((Bool.and_eq_true _ _).mp ((isAscii_isDigit_iff u _).mpr hdigits)).2
  have hne : host ≠ "" := by
    rintro rfl
    exact absurd hcolon (by decide)
  rw [sharedAttrs_ofHost u (hostToServerAddress_colon hcolon)]
  refine setAddress_port _ hne ?_
  rw [hhost, splitAddress_port hname.ne_empty hdcolon hdigit]
  cases hint : int u (String.ofList digits).toList with
  | error e => exact absurd ⟨name, _, hname.ne_empty, hdcolon, hhost, hdigit, e, hint⟩ hok
  | ok n =>
      rw [String.toList_ofList] at hint
      rw [int_digits_ok u hdigits hint]
      rfl

/-- A name without a port. -/
theorem recorded_regName (hscheme : httpScheme = "http" ∨ httpScheme = "https")
    (hne : host ≠ "") (hname : ∀ c ∈ host.toList, isRegName c = true) :
    sharedAttrs u (ofHost serviceName methodName clientAddress host httpScheme)
      = .ok (((rpcAttrs serviceName methodName).insert "server.address" (.str host)).insert
          "server.port" (.int (portNumber httpScheme none))) := by
  have hcolon : ':' ∉ host.toList := by
    intro h
    exact absurd (hname ':' h) (by decide)
  obtain ⟨digits, haddress, hdigits, hdcolon, hlen, hvalue⟩ :=
    hostToServerAddress_default hscheme hcolon
  rw [sharedAttrs_ofHost u haddress, ← hvalue]
  refine setAddress_port _ ?_ (splitAddress_default hne hdigits hdcolon hlen rfl)
  intro h
  have hlist := congrArg String.toList h
  simp at hlist

/-- A literal without a port: the default is not added, and no port recorded. -/
theorem recorded_literal (h : BareLiteral host) :
    sharedAttrs u (ofHost serviceName methodName clientAddress host httpScheme)
      = .ok ((rpcAttrs serviceName methodName).insert "server.address" (.str host)) := by
  obtain ⟨text, hliteral, hhost⟩ := h
  have hcolon : ':' ∈ host.toList := by
    rw [hhost, String.toList_ofList]
    exact List.mem_append_left _ (List.mem_cons_of_mem _ hliteral.colon)
  have hne : host ≠ "" := by
    rintro rfl
    exact absurd hcolon (by decide)
  obtain ⟨before, behind, hbcolon, hbracket, hcut⟩ := literal_cut hliteral.colon
  rw [sharedAttrs_ofHost u (hostToServerAddress_colon hcolon)]
  refine setAddress_noPort _ hne ?_
  rw [hhost, hcut]
  exact splitAddress_noPort hbcolon (isDigit_bracket u hbracket)

theorem not_recorded_unconvertible (h : Unconvertible u host) :
    ¬ Recorded u serviceName methodName clientAddress host httpScheme := by
  obtain ⟨before, behind, hbefore, hcolon, hhost, hdigit, text, hint⟩ := h
  intro hrecorded
  obtain ⟨attrs, hattrs⟩ := hrecorded.recorded
  have hmem : ':' ∈ host.toList := by
    rw [hhost]
    simp
  have hne : host ≠ "" := by
    rintro rfl
    exact absurd hmem (by decide)
  have hsplit : splitAddress u host = .error (.exception .valueError text) := by
    rw [hhost, splitAddress_port hbefore hcolon hdigit, hint]
  rw [sharedAttrs_ofHost u (hostToServerAddress_colon hmem),
    setAddress_error _ hne hsplit] at hattrs
  exact nomatch hattrs

theorem not_recorded_literal (h : BareLiteral host) :
    ¬ Recorded u serviceName methodName clientAddress host httpScheme := by
  intro hrecorded
  obtain ⟨text, hipv6, rfl⟩ := h
  obtain ⟨attrs, hattrs, -, hport⟩ := hrecorded.authority _ none ⟨.literal hipv6, rfl⟩
  rw [recorded_literal u ⟨text, hipv6, rfl⟩] at hattrs
  rw [← Except.ok.inj hattrs, Dict.get?_insert_ne _ (by decide)] at hport
  exact nomatch hport

/-- **The address is right** unless it raises or an IPv6 literal has no port. -/
theorem recorded_iff (hscheme : httpScheme = "http" ∨ httpScheme = "https") :
    Recorded u serviceName methodName clientAddress host httpScheme
      ↔ ¬ Unconvertible u host ∧ ¬ BareLiteral host := by
  constructor
  · exact fun h => ⟨fun hbad => not_recorded_unconvertible u hbad h,
      fun hbare => not_recorded_literal u hbare h⟩
  · rintro ⟨hok, hbare⟩
    refine ⟨(recorded_or_unconvertible u hscheme).resolve_right hok, ?_⟩
    rintro name port ⟨hname, hport⟩
    cases port with
    | some digits =>
        exact ⟨_, recorded_port u hname hport.1 hport.2 hok, get?_recorded _ _ _⟩
    | none =>
        obtain rfl : host = name := hport
        cases hname with
        | regName hne hchars =>
            exact ⟨_, recorded_regName u hscheme hne hchars, get?_recorded _ _ _⟩
        | literal hipv6 => exact absurd ⟨_, hipv6, rfl⟩ hbare

/-- A name with a port, and one without. -/
theorem recorded_iff_names :
    (Recorded .basic "Haberdasher" "MakeHat" none "example.com:8080" "http"
        ↔ ¬ Unconvertible .basic "example.com:8080" ∧ ¬ BareLiteral "example.com:8080")
      ∧ (Recorded .basic "Haberdasher" "MakeHat" none "example.com" "https"
        ↔ ¬ Unconvertible .basic "example.com" ∧ ¬ BareLiteral "example.com") :=
  ⟨recorded_iff .basic (Or.inl rfl), recorded_iff .basic (Or.inr rfl)⟩

/-- A superscript behind the colon raises, and a literal without a port is recorded
    without one. -/
theorem recorded_fails :
    ¬ Recorded .basic "Haberdasher" "MakeHat" none "example.com:²" "http"
      ∧ ¬ Recorded .basic "Haberdasher" "MakeHat" none "[::1]" "https" := by
  have hint : ∃ text, int .basic "²".toList = .error text := by
    have hliteral : signedDigits .basic (trim .basic "²".toList) = none := by decide +kernel
    rw [int, hliteral]
    exact ⟨_, rfl⟩
  have hone : Groups true 1 ['1'] := .one ⟨by decide, by decide, by simp [isHex]⟩
  have hipv6 : IsIPv6 ([] ++ ':' :: ':' :: ['1']) := .elided .nothing (.groups hone) (by decide)
  exact ⟨not_recorded_unconvertible _
      ⟨"example.com", "²", by decide, by decide, by decide, by decide, hint⟩,
    not_recorded_literal _ ⟨_, hipv6, by decide⟩⟩

/-- A colon without a port behind it stays in the address. -/
theorem recorded_emptyPort {name : String} (hhost : host = name ++ ":") :
    sharedAttrs u (ofHost serviceName methodName clientAddress host httpScheme)
      = .ok ((rpcAttrs serviceName methodName).insert "server.address" (.str host)) := by
  have hcolon : ':' ∈ host.toList := by
    rw [hhost]
    simp
  have hne : host ≠ "" := by
    rintro rfl
    exact absurd hcolon (by decide)
  rw [sharedAttrs_ofHost u (hostToServerAddress_colon hcolon)]
  refine setAddress_noPort _ hne ?_
  have hempty : ":" = String.singleton ':' ++ "" := by decide
  have hnone : ':' ∉ "".toList := by decide
  rw [hhost, hempty]
  exact splitAddress_noPort hnone rfl

end Agree

end ConnectServerAddress
