import ConnectPy.BracketProofs
import ConnectPy.NestingProofs
import ConnectPy.ServerAddressProofs

/-! # Telemetry — a span and a record for every call

    `OpenTelemetryInterceptor` starts a span when a call begins, and when it ends records
    its duration and ends the span, with attributes that tell the two apart by nothing
    but the address of the client.  Calls are made within calls: a handler that is traced
    calls other services with clients that are traced.

    What the package behind it is told is then the walk of the forest of calls
    (`run_view`), whatever is raised where: an exception out of `on_start` leaves no span
    behind, and `on_end` is told of every other.  The proof is one equation for each of
    the two hooks (`onStart_view`, `onEnd_view`) and an induction on the work. -/

namespace ConnectTelemetry

open ConnectErrors ConnectServerAddress Effect IntText OrderedDict Nesting

/-! ## The package behind it -/

inductive SpanKind
  | client
  | server
  deriving DecidableEq

/-- Where a span gets its parent: from the current span, or from the headers. -/
inductive Parent (S R : Type)
  | current (span : Option S)
  | remote (context : R)

/-- What the interceptor uses of `opentelemetry`, and the clock.  `startSpan` is entering
    `start_as_current_span` and `endSpan` leaving it; the current span counts if its
    context is valid. -/
structure OpenTelemetry (σ S R H : Type) where
  perfCounter    : Prog σ Exc Int
  getCurrentSpan : Prog σ Exc (Option S)
  extract        : H → R
  startSpan      : String → SpanKind → Attributes → Option R → Prog σ Exc S
  inject         : H → Prog σ Exc Unit
  setAttributes  : S → Attributes → Prog σ Exc Unit
  record         : Int → Attributes → Prog σ Exc Unit
  endSpan        : S → Option Exc → Prog σ Exc Unit

/-- What the package is told. -/
inductive Event (S R H : Type)
  | started (span : S) (name : String) (kind : SpanKind) (attrs : Attributes)
      (parent : Parent S R)
  | injected (headers : H) (span : Option S)
  | set (span : S) (attrs : Attributes)
  | recorded (attrs : Attributes)
  | ended (span : S) (error : Option Exc)

/-- The spans that are current, the innermost first, and what was told so far. -/
structure View (S R H : Type) where
  current : List S
  log     : List (Event S R H)

def View.told {S R H : Type} (v : View S R H) (events : List (Event S R H)) : View S R H :=
  { v with log := v.log ++ events }

variable {σ S R H : Type}

/-- What is documented: nothing raises, a span that is started becomes current until it
    is ended, and its parent is the span that was current unless a context is given. -/
structure Documented (otel : OpenTelemetry σ S R H) (view : σ → View S R H) : Prop where
  perfCounter : ∀ s, ∃ t s', otel.perfCounter s = (.ret t, s') ∧ view s' = view s
  getCurrentSpan : ∀ s, ∃ s', otel.getCurrentSpan s = (.ret (view s).current.head?, s')
    ∧ view s' = view s
  startSpan : ∀ name kind attrs context s, ∃ span s',
    otel.startSpan name kind attrs context s = (.ret span, s')
      ∧ view s' = ⟨span :: (view s).current, (view s).log ++ [.started span name kind attrs
          (context.elim (.current (view s).current.head?) .remote)]⟩
  inject : ∀ headers s, ∃ s', otel.inject headers s = (.ret (), s')
    ∧ view s' = (view s).told [.injected headers (view s).current.head?]
  setAttributes : ∀ span attrs s, ∃ s', otel.setAttributes span attrs s = (.ret (), s')
    ∧ view s' = (view s).told [.set span attrs]
  record : ∀ duration attrs s, ∃ s', otel.record duration attrs s = (.ret (), s')
    ∧ view s' = (view s).told [.recorded attrs]
  endSpan : ∀ span error s rest, (view s).current = span :: rest →
    ∃ s', otel.endSpan span error s = (.ret (), s')
      ∧ view s' = ⟨rest, (view s).log ++ [.ended span error]⟩

/-! ## The interceptor -/

/-- A call, and whether the interceptor it meets is that of a client. -/
structure Call (H : Type) where
  client         : Bool
  context        : RequestContext
  requestHeaders : H

/-- `Token`; the span stands for its context manager. -/
structure Token (S : Type) where
  span        : S
  startTime   : Int
  sharedAttrs : Attributes

def Call.kind (call : Call H) : SpanKind := if call.client then .client else .server

/-- The name of the span, and the attribute `rpc.method`. -/
def Call.rpcMethod (call : Call H) : String :=
  s!"{call.context.serviceName}/{call.context.methodName}"

variable (u : Unicode) (qualname : Exc → String) (otel : OpenTelemetry σ S R H)

/-- `_get_error_attributes`; `qualname` is that of the exception's class. -/
def getErrorAttributes : Option Exc → Option Attributes
  | none => none
  | some e => some ((Dict.empty.insert "error.type" (.str (qualname e))).insert
      "rpc.response.status_code"
      (.str (match e with
        | .connectError e => e.code.value
        | _ => "unknown")))

/-- `dict.update`. -/
def update (attrs other : Attributes) : Attributes :=
  Dict.insertAll Prod.fst Prod.snd attrs other.entries

/-- The context that a span is started with, where another span is current or none: that
    of the headers if a server is called outside all spans. -/
def Call.parentContext (call : Call H) (current : Option S) : Option R :=
  if call.client then none
  else
    match current with
    | some _ => none
    | none => some (otel.extract call.requestHeaders)

/-- `parent_otel_ctx`. -/
def parentOtelCtx (call : Call H) : Prog σ Exc (Option R) :=
  if call.client then pure none
  else do
    let current ← otel.getCurrentSpan
    pure (call.parentContext otel current)

/-- The body of the `with` statement, up to its `yield`. -/
def injectSpan (call : Call H) (span : S) : Prog σ Exc S :=
  if call.client then do
    let injected ← Prog.attempt (otel.inject call.requestHeaders)
    match injected with
    | .ok _ => pure span
    | .error e => do
        otel.endSpan span (some e)
        Prog.raise e
  else pure span

/-- `_start_span`, entered. -/
def startSpan (call : Call H) (sharedAttrs : Attributes) : Prog σ Exc S := do
  let parent ← parentOtelCtx otel call
  let attrs ← Prog.ofExcept
    (setAddress u "client.address" "client.port" call.context.clientAddress sharedAttrs)
  let span ← otel.startSpan call.rpcMethod call.kind attrs parent
  injectSpan otel call span

/-- `on_start`. -/
def onStart (call : Call H) : Prog σ Exc (Token S) := do
  let startTime ← otel.perfCounter
  let shared ← Prog.ofExcept (sharedAttrs u call.context)
  let span ← startSpan u otel call shared
  pure ⟨span, startTime, shared⟩

/-- The recording in `on_end`. -/
def recordEnd (token : Token S) (error : Option Exc) (duration : Int) : Prog σ Exc Unit :=
  match getErrorAttributes qualname error with
  | some attrs => do
      otel.setAttributes token.span attrs
      otel.record duration (update token.sharedAttrs attrs)
  | none => otel.record duration token.sharedAttrs

/-- `on_end`. -/
def onEnd (token : Token S) (error : Option Exc) : Prog σ Exc Unit := do
  let endTime ← otel.perfCounter
  recordEnd qualname otel token error (endTime - token.startTime)
  otel.endSpan token.span error

/-! ## One call -/

/-- A call that was traced: its span, and the exception it ended in as far as the
    interceptor is told of it. -/
structure Traced (S H : Type) where
  call  : Call H
  span  : S
  error : Option Exc

/-- The attributes of the metrics and of the span. -/
def attributes (call : Call H) : Attributes × Attributes :=
  match onStartSync u call.context with
  | .ok attrs => attrs
  | .error _ => (Dict.empty, Dict.empty)

/-- What is told when a call begins, where a span is current or none. -/
def opening (current : Option S) (n : Traced S H) : List (Event S R H) :=
  .started n.span n.call.rpcMethod n.call.kind (attributes u n.call).2
      ((n.call.parentContext otel current).elim (.current current) .remote)
    :: if n.call.client then [.injected n.call.requestHeaders (some n.span)] else []

/-- The attributes of the record of a call. -/
def recordedAttrs (n : Traced S H) : Attributes :=
  match getErrorAttributes qualname n.error with
  | some attrs => update (attributes u n.call).1 attrs
  | none => (attributes u n.call).1

/-- What is told when it ends. -/
def closing (n : Traced S H) : List (Event S R H) :=
  (match getErrorAttributes qualname n.error with
    | some attrs => [.set n.span attrs]
    | none => [])
  ++ [.recorded (recordedAttrs u qualname n), .ended n.span n.error]

variable {u qualname otel} {view : σ → View S R H}

/-- What is told is told in order. -/
theorem View.told_told (v : View S R H) (a b : List (Event S R H)) :
    (v.told a).told b = v.told (a ++ b) := by
  rw [View.told, View.told, View.told]
  dsimp only
  rw [List.append_assoc]

/-- The parent of a span is found without a word to the package. -/
theorem parentOtelCtx_view (doc : Documented otel view) (call : Call H) (s : σ) :
    ∃ s', parentOtelCtx otel call s
        = (.ret (call.parentContext otel (view s).current.head?), s')
      ∧ view s' = view s := by
  rw [parentOtelCtx]
  cases hclient : call.client with
  | true =>
      have hcontext : call.parentContext otel (view s).current.head? = none := if_pos hclient
      rw [if_pos rfl, hcontext]
      exact ⟨s, rfl, rfl⟩
  | false =>
      rw [if_neg Bool.false_ne_true]
      obtain ⟨s', hrun, hview⟩ := doc.getCurrentSpan s
      exact ⟨s', Prog.bind_ret hrun, hview⟩

/-- A client passes the span on in its headers, a server keeps it. -/
theorem injectSpan_view (doc : Documented otel view) (call : Call H) (span : S) (s : σ) :
    ∃ s', injectSpan otel call span s = (.ret span, s')
      ∧ view s' = (view s).told (if call.client then
          [.injected call.requestHeaders (view s).current.head?] else []) := by
  rw [injectSpan]
  cases hclient : call.client with
  | true =>
      obtain ⟨s', hrun, hview⟩ := doc.inject call.requestHeaders s
      rw [if_pos rfl, if_pos rfl]
      exact ⟨s', Prog.bind_ret (Prog.attempt_ret hrun), hview⟩
  | false =>
      rw [if_neg Bool.false_ne_true, if_neg Bool.false_ne_true]
      refine ⟨s, rfl, ?_⟩
      rw [View.told, List.append_nil]

/-- The attributes of a call are those it shares with its record, and the client's address. -/
theorem onStartSync_ok {ctx : RequestContext} {attrs : Attributes × Attributes}
    (h : onStartSync u ctx = .ok attrs) :
    sharedAttrs u ctx = .ok attrs.1
      ∧ setAddress u "client.address" "client.port" ctx.clientAddress attrs.1 = .ok attrs.2 := by
  rw [onStartSync] at h
  cases hshared : sharedAttrs u ctx with
  | error e =>
      rw [hshared] at h
      cases h
  | ok shared =>
      rw [hshared] at h
      dsimp only at h
      cases hattrs : setAddress u "client.address" "client.port" ctx.clientAddress shared with
      | error e =>
          rw [hattrs] at h
          cases h
      | ok attrs' =>
          rw [hattrs] at h
          obtain rfl := Except.ok.inj h
          exact ⟨rfl, hattrs⟩

/-- A step that returns what is known. -/
theorem ofExcept_ok {α : Type} {x : Except Exc α} {a : α} (h : x = .ok a) (s : σ) :
    (Prog.ofExcept x : Prog σ Exc α) s = (.ret a, s) := by
  rw [h]
  rfl

/-- A pure function that raises leaves the state. -/
theorem ofExcept_error {α : Type} {x : Except Exc α} {e : Exc} (h : x = .error e) (s : σ) :
    (Prog.ofExcept x : Prog σ Exc α) s = (.raise e, s) := by
  rw [h]
  rfl

/-- The span of a call becomes current, under the one that was. -/
theorem startSpan_view (doc : Documented otel view) {call : Call H}
    {attrs : Attributes × Attributes} (hattrs : onStartSync u call.context = .ok attrs) (s : σ) :
    ∃ span s', startSpan u otel call attrs.1 s = (.ret span, s')
      ∧ view s' = ⟨span :: (view s).current, (view s).log
          ++ opening u otel (view s).current.head? ⟨call, span, none⟩⟩ := by
  obtain ⟨-, hclient⟩ := onStartSync_ok hattrs
  obtain ⟨s₁, hparent, hview₁⟩ := parentOtelCtx_view doc call s
  obtain ⟨span, s₂, hspan, hview₂⟩ := doc.startSpan call.rpcMethod call.kind attrs.2
    (call.parentContext otel (view s).current.head?) s₁
  obtain ⟨s₃, hinject, hview₃⟩ := injectSpan_view doc call span s₂
  refine ⟨span, s₃, ?_, ?_⟩
  · exact (Prog.bind_ret hparent).trans ((Prog.bind_ret (ofExcept_ok hclient s₁)).trans
      ((Prog.bind_ret hspan).trans hinject))
  · have hattributes : attributes u call = attrs := by rw [attributes, hattrs]
    rw [hview₃, hview₂, hview₁, View.told, opening, hattributes, List.append_assoc]
    rfl

/-- **A call begins.** -/
theorem onStart_view (doc : Documented otel view) {call : Call H} {attrs : Attributes × Attributes}
    (hattrs : onStartSync u call.context = .ok attrs) (s : σ) :
    ∃ token s', onStart u otel call s = (.ret token, s') ∧ token.sharedAttrs = attrs.1
      ∧ view s' = ⟨token.span :: (view s).current, (view s).log
          ++ opening u otel (view s).current.head? ⟨call, token.span, none⟩⟩ := by
  obtain ⟨hshared, -⟩ := onStartSync_ok hattrs
  obtain ⟨t, s₁, hclock, hview₁⟩ := doc.perfCounter s
  obtain ⟨span, s₂, hspan, hview₂⟩ := startSpan_view doc hattrs s₁
  refine ⟨⟨span, t, attrs.1⟩, s₂, ?_, rfl, ?_⟩
  · exact (Prog.bind_ret hclock).trans ((Prog.bind_ret (ofExcept_ok hshared s₁)).trans
      (Prog.bind_ret hspan))
  · rw [hview₂, hview₁]

/-- Or it does not, and nothing is told. -/
theorem onStart_raise (doc : Documented otel view) {call : Call H} {e : Exc}
    (hattrs : onStartSync u call.context = .error e) (s : σ) :
    ∃ s', onStart u otel call s = (.raise e, s') ∧ view s' = view s := by
  obtain ⟨t, s₁, hclock, hview₁⟩ := doc.perfCounter s
  rw [onStartSync] at hattrs
  cases hshared : sharedAttrs u call.context with
  | error e' =>
      rw [hshared] at hattrs
      obtain rfl := Except.error.inj hattrs
      exact ⟨s₁, (Prog.bind_ret hclock).trans (Prog.bind_raise (ofExcept_error hshared s₁)),
        hview₁⟩
  | ok shared =>
      rw [hshared] at hattrs
      dsimp only at hattrs
      cases hclient : setAddress u "client.address" "client.port" call.context.clientAddress
          shared with
      | ok attrs =>
          rw [hclient] at hattrs
          cases hattrs
      | error e' =>
          rw [hclient] at hattrs
          obtain rfl := Except.error.inj hattrs
          obtain ⟨s₂, hparent, hview₂⟩ := parentOtelCtx_view doc call s₁
          have hstart : startSpan u otel call shared s₁ = (.raise e', s₂) :=
            (Prog.bind_ret hparent).trans (Prog.bind_raise (ofExcept_error hclient s₂))
          exact ⟨s₂, (Prog.bind_ret hclock).trans ((Prog.bind_ret (ofExcept_ok hshared s₁)).trans
            (Prog.bind_raise hstart)), hview₂.trans hview₁⟩

/-- The attributes of an error come before the record. -/
theorem recordEnd_view (doc : Documented otel view) (n : Traced S H) (token : Token S)
    (hspan : token.span = n.span) (hshared : token.sharedAttrs = (attributes u n.call).1)
    (duration : Int) (s : σ) :
    ∃ s', recordEnd qualname otel token n.error duration s = (.ret (), s')
      ∧ view s' = (view s).told ((match getErrorAttributes qualname n.error with
          | some attrs => [.set n.span attrs]
          | none => []) ++ [.recorded (recordedAttrs u qualname n)]) := by
  rw [recordEnd, recordedAttrs]
  cases getErrorAttributes qualname n.error with
  | none =>
      obtain ⟨s₁, hrecord, hview₁⟩ := doc.record duration token.sharedAttrs s
      rw [hshared] at hview₁
      exact ⟨s₁, hrecord, hview₁⟩
  | some attrs =>
      obtain ⟨s₁, hset, hview₁⟩ := doc.setAttributes token.span attrs s
      obtain ⟨s₂, hrecord, hview₂⟩ := doc.record duration (update token.sharedAttrs attrs) s₁
      rw [hview₁, View.told_told, hspan, hshared] at hview₂
      exact ⟨s₂, (Prog.bind_ret hset).trans hrecord, hview₂⟩

/-- **A call ends.** -/
theorem onEnd_view (doc : Documented otel view) (n : Traced S H) (token : Token S)
    (hspan : token.span = n.span) (hshared : token.sharedAttrs = (attributes u n.call).1)
    {s : σ} {rest : List S} (hcurrent : (view s).current = n.span :: rest) :
    ∃ s', onEnd qualname otel token n.error s = (.ret (), s')
      ∧ view s' = ⟨rest, (view s).log ++ closing u qualname n⟩ := by
  obtain ⟨t, s₁, hclock, hview₁⟩ := doc.perfCounter s
  obtain ⟨s₂, hrecord, hview₂⟩ :=
    recordEnd_view (u := u) doc n token hspan hshared (t - token.startTime) s₁
  have hcurrent₂ : (view s₂).current = token.span :: rest := by
    rw [hview₂, hview₁, hspan]
    exact hcurrent
  obtain ⟨s₃, hend, hview₃⟩ := doc.endSpan token.span n.error s₂ rest hcurrent₂
  refine ⟨s₃, ?_, ?_⟩
  · exact (Prog.bind_ret hclock).trans ((Prog.bind_ret hrecord).trans hend)
  · rw [hview₃, hview₂, hview₁, hspan, View.told, closing]
    dsimp only
    rw [List.append_assoc, List.append_assoc]
    rfl

/-! ## Calls within calls -/

/-- Work that makes calls, in any order and within one another; what it does otherwise is
    a program, and may depend on the state. -/
inductive Work (σ H : Type)
  | other (x : Prog σ Exc Unit)
  | seq (first second : Work σ H)
  | rescue (body : Work σ H) (handler : Exc → Work σ H)
  | ask (f : σ → Work σ H)
  | call (c : Call H) (body : Work σ H)

variable (u qualname otel) (seen : Exc → Option Exc)

/-- The interceptor as one of its kind; `seen` is what `on_end` is told of an exception. -/
def brackets : Brackets σ Exc (Call H) (Token S) where
  enter := onStart u otel
  leave := fun _ token error => onEnd qualname otel token error
  seen := seen

namespace Work

/-- Each call with the interceptor around it. -/
def run : Work σ H → Prog σ Exc Unit
  | other x => x
  | seq first second => first.run >>= fun _ => second.run
  | rescue body handler => Prog.rescue body.run fun e => (handler e).run
  | ask f => fun s => (f s).run s
  | call c body => (brackets u qualname otel seen).around c body.run

/-- What is told of how a call ended. -/
def outcome : Outcome Exc Unit → Option Exc
  | .raise e => seen e
  | _ => none

/-- The calls that begin. -/
def forest : Work σ H → σ → Forest (Traced S H)
  | other _, _ => .nil
  | seq first second, s =>
      match first.run u qualname otel seen s with
      | (.ret _, s') => (first.forest s).append (second.forest s')
      | _ => first.forest s
  | rescue body handler, s =>
      match body.run u qualname otel seen s with
      | (.raise e, s') => (body.forest s).append ((handler e).forest s')
      | _ => body.forest s
  | ask f, s => (f s).forest s
  | call c body, s =>
      match onStart u otel c s with
      | (.ret token, s') =>
          .node ⟨c, token.span, outcome seen (body.run u qualname otel seen s').1⟩
            (body.forest s') .nil
      | _ => .nil

/-- Nothing else is told to the package. -/
def Quiet (view : σ → View S R H) : Work σ H → Prop
  | other x => ∀ s, view (x s).2 = view s
  | seq first second => first.Quiet view ∧ second.Quiet view
  | rescue body handler => body.Quiet view ∧ ∀ e, (handler e).Quiet view
  | ask f => ∀ s, (f s).Quiet view
  | call _ body => body.Quiet view

end Work

/-- The log of a forest, where some span is current. -/
def logOf (current : Option S) (f : Forest (Traced S H)) : List (Event S R H) :=
  f.walk (opening u otel) (fun n => some n.span) (closing u qualname) current

/-- What is told of a forest, and nothing that is current in the end that was not. -/
def View.after (v : View S R H) (f : Forest (Traced S H)) : View S R H :=
  v.told (logOf u qualname otel v.current.head? f)

variable {u qualname otel seen}

/-- Two forests in a row are one. -/
theorem View.after_append (v : View S R H) (f g : Forest (Traced S H)) :
    (v.after u qualname otel f).after u qualname otel g
      = v.after u qualname otel (f.append g) := by
  show (v.told _).told _ = v.told _
  rw [View.told_told, logOf, logOf, logOf, Forest.walk_append]
  rfl

/-- Without calls nothing is told. -/
theorem View.after_nil (v : View S R H) : v.after u qualname otel .nil = v := by
  rw [View.after, View.told, logOf, Forest.walk, List.append_nil]

/-- **A call around what is known of its body.** -/
theorem around_view (doc : Documented otel view) {c : Call H} {attrs : Attributes × Attributes}
    (hattrs : onStartSync u c.context = .ok attrs) {x : Prog σ Exc Unit} {s : σ}
    {below : σ → Forest (Traced S H)}
    (hbody : ∀ s, (x s).1 ≠ .stuck → view (x s).2 = (view s).after u qualname otel (below s))
    (hnot : ((brackets u qualname otel seen).around c x s).1 ≠ .stuck) :
    ∃ token s', onStart u otel c s = (.ret token, s')
      ∧ ((brackets u qualname otel seen).around c x s).1 = (x s').1
      ∧ view ((brackets u qualname otel seen).around c x s).2
        = (view s).after u qualname otel
            (.node ⟨c, token.span, Work.outcome seen (x s').1⟩ (below s') .nil) := by
  obtain ⟨token, s₁, hstart, hshared, hview₁⟩ := onStart_view doc hattrs s
  have haround : (brackets u qualname otel seen).around c x s
      = (Prog.attempt x >>= fun outcome => do
          onEnd qualname otel token ((brackets u qualname otel seen).told outcome)
          Prog.ofExcept outcome) s₁ := Prog.bind_ret hstart
  have hattributes : attributes u c = attrs := by rw [attributes, hattrs]
  rw [← hattributes] at hshared
  refine ⟨token, s₁, hstart, ?_⟩
  -- What is told at the end, behind the body.
  have hend : ∀ s₂, view s₂ = (view s₁).after u qualname otel (below s₁) → ∀ error,
      ∃ s₃, onEnd qualname otel token error s₂ = (.ret (), s₃)
        ∧ view s₃ = (view s).after u qualname otel
            (.node ⟨c, token.span, error⟩ (below s₁) .nil) := by
    intro s₂ hview₂ error
    have hcurrent : (view s₂).current = token.span :: (view s).current := by
      rw [hview₂, hview₁]
      rfl
    obtain ⟨s₃, hleave, hview₃⟩ :=
      onEnd_view (u := u) doc ⟨c, token.span, error⟩ token rfl hshared hcurrent
    refine ⟨s₃, hleave, ?_⟩
    rw [hview₃, hview₂, hview₁, View.after, View.after, View.told, View.told, logOf, logOf,
      Forest.walk, Forest.walk, List.append_nil]
    dsimp only
    rw [List.append_assoc, List.append_assoc]
    rfl
  cases hx : x s₁ with
  | mk o s₂ =>
      have hview₂ : o ≠ .stuck → view s₂ = (view s₁).after u qualname otel (below s₁) := by
        intro ho
        have h := hbody s₁ (by rw [hx]; exact ho)
        rwa [hx] at h
      cases o with
      | stuck =>
          refine absurd ?_ hnot
          rw [haround, Prog.bind_stuck (Prog.attempt_stuck hx)]
      | ret a =>
          obtain ⟨s₃, hleave, hview₃⟩ := hend s₂ (hview₂ (by rintro ⟨⟩)) none
          rw [haround, Prog.bind_ret (Prog.attempt_ret hx)]
          have hrun := Prog.bind_ret (f := fun _ => Prog.ofExcept (.ok a)) hleave
          have hended := congrArg Prod.fst hrun
          have hview := congrArg (fun r => view r.2) hrun
          exact ⟨hended, hview.trans hview₃⟩
      | raise e =>
          obtain ⟨s₃, hleave, hview₃⟩ := hend s₂ (hview₂ (by rintro ⟨⟩)) (seen e)
          rw [haround, Prog.bind_ret (Prog.attempt_raise hx)]
          have hrun := Prog.bind_ret (f := fun _ => Prog.ofExcept (.error e : Except Exc Unit))
            hleave
          have hended := congrArg Prod.fst hrun
          have hview := congrArg (fun r => view r.2) hrun
          exact ⟨hended, hview.trans hview₃⟩

namespace Work

variable {first second body : Work σ H} {handler : Exc → Work σ H} {s s' : σ}

/-- Work that goes on adds its calls behind those made so far. -/
theorem forest_seq_ret {a : Unit} (h : first.run u qualname otel seen s = (.ret a, s')) :
    (first.seq second).forest u qualname otel seen s
      = (first.forest u qualname otel seen s).append (second.forest u qualname otel seen s') := by
  rw [forest, h]

/-- Work that raises makes no more calls. -/
theorem forest_seq_raise {e : Exc} (h : first.run u qualname otel seen s = (.raise e, s')) :
    (first.seq second).forest u qualname otel seen s = first.forest u qualname otel seen s := by
  rw [forest, h]

/-- A handler that is not needed makes no calls. -/
theorem forest_rescue_ret {a : Unit} (h : body.run u qualname otel seen s = (.ret a, s')) :
    (body.rescue handler).forest u qualname otel seen s = body.forest u qualname otel seen s := by
  rw [forest, h]

/-- And one that is makes its calls behind those made so far. -/
theorem forest_rescue_raise {e : Exc} (h : body.run u qualname otel seen s = (.raise e, s')) :
    (body.rescue handler).forest u qualname otel seen s
      = (body.forest u qualname otel seen s).append
          ((handler e).forest u qualname otel seen s') := by
  rw [forest, h]

/-- A call is a node over the calls that are made within it. -/
theorem forest_call_ret {c : Call H} {token : Token S} (h : onStart u otel c s = (.ret token, s')) :
    (call c body).forest u qualname otel seen s
      = .node ⟨c, token.span, outcome seen (body.run u qualname otel seen s').1⟩
          (body.forest u qualname otel seen s') .nil := by
  rw [forest, h]

/-- A call whose interceptor raises is none. -/
theorem forest_call_raise {c : Call H} {e : Exc} (h : onStart u otel c s = (.raise e, s')) :
    (call c body).forest u qualname otel seen s = .nil := by
  rw [forest, h]

/-- **The log is the walk of the forest.**  By induction on the work. -/
theorem run_view (doc : Documented otel view) (w : Work σ H) (hquiet : w.Quiet view) (s : σ)
    (hnot : (w.run u qualname otel seen s).1 ≠ .stuck) :
    view (w.run u qualname otel seen s).2
      = (view s).after u qualname otel (w.forest u qualname otel seen s) := by
  induction w generalizing s with
  | other x => exact (hquiet s).trans (View.after_nil _).symm
  | seq first second ihFirst ihSecond =>
      -- The forest of the first part, and behind it that of the second if it is run.
      have hview := ihFirst hquiet.1 s
      cases hfirst : first.run u qualname otel seen s with
      | mk o s' =>
          rw [hfirst] at hview
          cases o with
          | ret a =>
              have hrun : (first.seq second).run u qualname otel seen s
                  = second.run u qualname otel seen s' := Prog.bind_ret hfirst
              rw [hrun] at hnot ⊢
              rw [forest_seq_ret hfirst, ← View.after_append, ← hview (by rintro ⟨⟩)]
              exact ihSecond hquiet.2 s' hnot
          | raise e =>
              have hrun : (first.seq second).run u qualname otel seen s = (.raise e, s') :=
                Prog.bind_raise hfirst
              rw [hrun, forest_seq_raise hfirst]
              exact hview (by rintro ⟨⟩)
          | stuck =>
              have hrun : (first.seq second).run u qualname otel seen s = (.stuck, s') :=
                Prog.bind_stuck hfirst
              rw [hrun] at hnot
              exact absurd rfl hnot
  | rescue body handler ihBody ihHandler =>
      -- The forest of the body, and behind it that of the handler if it is run.
      have hview := ihBody hquiet.1 s
      cases hbody : body.run u qualname otel seen s with
      | mk o s' =>
          rw [hbody] at hview
          cases o with
          | ret a =>
              have hrun : (body.rescue handler).run u qualname otel seen s = (.ret a, s') :=
                Prog.rescue_ret hbody
              rw [hrun, forest_rescue_ret hbody]
              exact hview (by rintro ⟨⟩)
          | raise e =>
              have hrun : (body.rescue handler).run u qualname otel seen s
                  = (handler e).run u qualname otel seen s' := Prog.rescue_raise hbody
              rw [hrun] at hnot ⊢
              rw [forest_rescue_raise hbody, ← View.after_append, ← hview (by rintro ⟨⟩)]
              exact ihHandler e (hquiet.2 e) s' hnot
          | stuck =>
              have hrun : (body.rescue handler).run u qualname otel seen s = (.stuck, s') :=
                Prog.rescue_stuck hbody
              rw [hrun] at hnot
              exact absurd rfl hnot
  | ask f ih => exact ih s (hquiet s) s hnot
  | call c body ih =>
      cases hattrs : onStartSync u c.context with
      | ok attrs =>
          -- The interceptor started: the calls within are the children of this one's node.
          obtain ⟨token, s', hstart, -, hview⟩ := around_view doc hattrs (ih hquiet) hnot
          rw [forest_call_ret hstart]
          exact hview
      | error e =>
          obtain ⟨s', hstart, hview⟩ := onStart_raise doc hattrs s
          have hrun : (call c body).run u qualname otel seen s = (.raise e, s') :=
            Prog.bind_raise hstart
          rw [hrun, forest_call_raise hstart, View.after_nil]
          exact hview

end Work

/-! ## What is read off the log -/

/-- A span that is started, with its attributes. -/
def Event.started? : Event S R H → Option (S × Attributes)
  | .started span _ _ attrs _ => some (span, attrs)
  | _ => none

def Event.recorded? : Event S R H → Option Attributes
  | .recorded attrs => some attrs
  | _ => none

def Event.ended? : Event S R H → Option (S × Option Exc)
  | .ended span error => some (span, error)
  | _ => none

/-- The spans are started in the order in which the calls begin. -/
theorem logOf_started (current : Option S) (f : Forest (Traced S H)) :
    (logOf u qualname otel current f).filterMap Event.started?
      = f.preorder.map fun n => (n.span, (attributes u n.call).2) := by
  refine Forest.filterMap_walk_opening _ (fun c n => ?_) (fun n => ?_) current f
  · rw [opening]
    cases n.call.client <;> rfl
  · rw [closing]
    cases getErrorAttributes qualname n.error <;> rfl

/-- The records are made in the order in which the calls end. -/
theorem logOf_recorded (current : Option S) (f : Forest (Traced S H)) :
    (logOf u qualname otel current f).filterMap Event.recorded?
      = f.postorder.map (recordedAttrs u qualname) := by
  refine Forest.filterMap_walk_closing _ (fun c n => ?_) (fun n => ?_) current f
  · rw [opening]
    cases n.call.client <;> rfl
  · rw [closing]
    cases getErrorAttributes qualname n.error <;> rfl

/-- And in that order the spans are ended, each with the exception of its call. -/
theorem logOf_ended (current : Option S) (f : Forest (Traced S H)) :
    (logOf u qualname otel current f).filterMap Event.ended?
      = f.postorder.map fun n => (n.span, n.error) := by
  refine Forest.filterMap_walk_closing _ (fun c n => ?_) (fun n => ?_) current f
  · rw [opening]
    cases n.call.client <;> rfl
  · rw [closing]
    cases getErrorAttributes qualname n.error <;> rfl

/-! ## Every run -/

/-- What work tells the package, from some state on. -/
structure Mirrored (u : Unicode) (qualname : Exc → String) (otel : OpenTelemetry σ S R H)
    (seen : Exc → Option Exc) (view : σ → View S R H) (w : Work σ H) (s : σ) : Prop where
  /-- What was current is current again. -/
  current : (view (w.run u qualname otel seen s).2).current = (view s).current
  /-- Each call is told within the one that made it. -/
  log : (view (w.run u qualname otel seen s).2).log
    = (view s).log ++ logOf u qualname otel (view s).current.head? (w.forest u qualname otel seen s)
  started : ∀ parent, (logOf u qualname otel parent (w.forest u qualname otel seen s)).filterMap
      Event.started?
    = (w.forest u qualname otel seen s).preorder.map fun n => (n.span, (attributes u n.call).2)
  recorded : ∀ parent, (logOf u qualname otel parent (w.forest u qualname otel seen s)).filterMap
      Event.recorded?
    = (w.forest u qualname otel seen s).postorder.map (recordedAttrs u qualname)
  ended : ∀ parent, (logOf u qualname otel parent (w.forest u qualname otel seen s)).filterMap
      Event.ended?
    = (w.forest u qualname otel seen s).postorder.map fun n => (n.span, n.error)
  /-- These are the same calls. -/
  once : (w.forest u qualname otel seen s).preorder.Perm
    (w.forest u qualname otel seen s).postorder

/-- How a call ends with the interceptor around it: as its body does from where `on_start`
    left, or with what `on_start` raised. -/
structure Transparent (u : Unicode) (qualname : Exc → String) (otel : OpenTelemetry σ S R H)
    (seen : Exc → Option Exc) (c : Call H) (body : Work σ H) (s : σ) : Prop where
  begun : ∀ attrs, onStartSync u c.context = .ok attrs →
    ∃ token s', onStart u otel c s = (.ret token, s')
      ∧ ((Work.call c body).run u qualname otel seen s).1 = (body.run u qualname otel seen s').1
  refused : ∀ e, onStartSync u c.context = .error e →
    ((Work.call c body).run u qualname otel seen s).1 = .raise e

/-- **TELEMETRY MIRRORS THE CALLS.** -/
theorem telemetry_mirrors (doc : Documented otel view) :
    (∀ (w : Work σ H) (s : σ), w.Quiet view → (w.run u qualname otel seen s).1 ≠ .stuck →
      Mirrored u qualname otel seen view w s)
    ∧ ∀ (c : Call H) (body : Work σ H) (s : σ), body.Quiet view →
      ((Work.call c body).run u qualname otel seen s).1 ≠ .stuck →
      Transparent u qualname otel seen c body s := by
  constructor
  · intro w s hquiet hnot
    have hview := w.run_view doc hquiet s hnot
    have hcurrent := congrArg View.current hview
    have hlog := congrArg View.log hview
    exact
      { current := hcurrent
        log := hlog
        started := fun parent => logOf_started parent _
        recorded := fun parent => logOf_recorded parent _
        ended := fun parent => logOf_ended parent _
        once := Forest.preorder_perm_postorder _ }
  · intro c body s hquiet hnot
    constructor
    · intro attrs hattrs
      obtain ⟨token, s', hstart, hended, -⟩ :=
        around_view doc hattrs (body.run_view doc hquiet) hnot
      exact ⟨token, s', hstart, hended⟩
    · intro e hattrs
      obtain ⟨s', hstart, -⟩ := onStart_raise doc hattrs s
      have hrun : (Work.call c body).run u qualname otel seen s = (.raise e, s') :=
        Prog.bind_raise hstart
      exact congrArg Prod.fst hrun

/-! ## A handler that calls another service -/

namespace Hats

/-- A package that only writes down what it is told; spans are numbered. -/
def plain : OpenTelemetry (View Nat String String) Nat String String where
  perfCounter := pure 0
  getCurrentSpan := fun s => (.ret s.current.head?, s)
  extract := id
  startSpan := fun name kind attrs context s =>
    (.ret s.log.length, ⟨s.log.length :: s.current, s.log ++ [.started s.log.length name kind attrs
      (context.elim (.current s.current.head?) .remote)]⟩)
  inject := fun headers s => (.ret (), s.told [.injected headers s.current.head?])
  setAttributes := fun span attrs s => (.ret (), s.told [.set span attrs])
  record := fun _ attrs s => (.ret (), s.told [.recorded attrs])
  endSpan := fun span error s => (.ret (), ⟨s.current.tail, s.log ++ [.ended span error]⟩)

/-- The package of the example keeps to its documentation. -/
theorem documented : Documented plain id where
  perfCounter s := ⟨0, s, rfl, rfl⟩
  getCurrentSpan s := ⟨s, rfl, rfl⟩
  startSpan name kind attrs context s := ⟨s.log.length, _, rfl, rfl⟩
  inject headers s := ⟨_, rfl, rfl⟩
  setAttributes span attrs s := ⟨_, rfl, rfl⟩
  record duration attrs s := ⟨_, rfl, rfl⟩
  endSpan span error s rest hcurrent := by
    refine ⟨_, rfl, ?_⟩
    have htail : s.current.tail = rest := congrArg List.tail hcurrent
    rw [← htail]
    rfl

def noHat : Exc := .connect .notFound "no such hat"

/-- A server's call of `MakeHat`, within it a client's call of `Measure` that fails, and
    the failure is caught. -/
def makeHat : Work (View Nat String String) String :=
  .call ⟨false, ⟨"hat.Haberdasher", "MakeHat", none, none⟩, "traceparent"⟩
    (.rescue (.call ⟨true, ⟨"hat.Tailor", "Measure", none, none⟩, ""⟩ (.other (Prog.raise noHat)))
      fun _ => .other (pure ()))

/-- And its work tells the package nothing by itself. -/
theorem quiet : makeHat.Quiet id := ⟨fun _ => rfl, fun _ _ => rfl⟩

end Hats

/-- The inner span ends first, with the failure, and the outer one without. -/
theorem telemetry_mirrors_hats :
    Mirrored Unicode.basic Exc.text Hats.plain some id Hats.makeHat ⟨[], []⟩
      ∧ (Hats.makeHat.run Unicode.basic Exc.text Hats.plain some ⟨[], []⟩).2.log.filterMap
          Event.ended? = [(1, some Hats.noHat), (0, none)] :=
  ⟨(telemetry_mirrors Hats.documented).1 Hats.makeHat ⟨[], []⟩ Hats.quiet (by rintro ⟨⟩), rfl⟩

end ConnectTelemetry
