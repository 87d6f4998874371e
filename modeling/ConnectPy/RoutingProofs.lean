import ConnectPy.ContentTypeProofs
import ConnectPy.MethodNamesProofs

/-! # Routing — from a client's URL to the endpoint of its RPC

    A client puts the full name of the service and the name of the method behind its
    address.  The servers look the path up in the endpoint table, and once more without
    the prefix under which they are mounted: the ASGI server takes `root_path` off the
    path, the WSGI server puts its own path in front of `PATH_INFO` if `SCRIPT_NAME` is
    that path.

    Names have no slashes, so the last two parts of a path are the RPC it is for
    (`slash_inj`).  Which mounts lead to it follows for both servers, and that no other
    application ever answers for it (`routed`). -/

namespace ConnectRouting

open OrderedDict ConnectErrors ConnectMethodNames

variable {ε : Type}

/-! ## Requests -/

/-- The path of the URL of a call; `base` is that of the client's address. -/
def callPath (base : String) (service : DescService) (method : DescMethod) : String :=
  base ++ "/" ++ service.typeName ++ "/" ++ method.name.text

/-- What the endpoint table of a service has for one of its RPCs. -/
def entry (plugin : Plugin) (service : DescService) (svc : String → Option Member)
    (method : DescMethod) : Endpoint :=
  ⟨endpointType method.methodKind, method.name.text, service.typeName,
    svc (methodLocalName plugin method)⟩

/-! ## Lookups -/

/-- The start of `_handle_request`: the endpoint of a scope. -/
def asgiEndpoint (endpoints : Dict String ε) (path rootPath : String) : Option ε :=
  match endpoints.get? path with
  | some endpoint => some endpoint
  | none =>
      if rootPath ≠ "" then endpoints.get? (removePrefix rootPath path) else none

/-- The start of `__call__`: the endpoint of an environment. -/
def wsgiEndpoint (endpoints : Dict String ε) (ownPath scriptName pathInfo : String) : Option ε :=
  let path := if pathInfo = "" then "/" else pathInfo
  match endpoints.get? path with
  | some endpoint => some endpoint
  | none => if scriptName = ownPath then endpoints.get? (ownPath ++ path) else none

/-- `path` of a generated application. -/
def ownPath (service : DescService) : String := "/" ++ service.typeName

/-! ## Slashes -/

/-- The last slash of a text. -/
theorem slash_inj {a b n n' : List Char} (hn : '/' ∉ n) (hn' : '/' ∉ n')
    (h : a ++ '/' :: n = b ++ '/' :: n') : a = b ∧ n = n' := by
  rcases List.append_eq_append_iff.mp h with ⟨c, rfl, hc⟩ | ⟨c, rfl, hc⟩
  · cases c with
    | nil =>
        rw [List.nil_append] at hc
        exact ⟨(List.append_nil a).symm, (List.cons.inj hc).2⟩
    | cons d c =>
        obtain ⟨-, rfl⟩ := List.cons.inj hc
        exact absurd (List.mem_append_right c List.mem_cons_self) hn
  · cases c with
    | nil =>
        rw [List.nil_append] at hc
        exact ⟨List.append_nil b, (List.cons.inj hc).2.symm⟩
    | cons d c =>
        obtain ⟨-, rfl⟩ := List.cons.inj hc
        exact absurd (List.mem_append_right c List.mem_cons_self) hn'

theorem slash_notMem_name (name : Name) : '/' ∉ name.text.toList := by
  intro h
  have hc := List.all_eq_true.mp name.chars '/' h
  exact absurd hc (by decide)

theorem methodUrl_toList (service : DescService) (method : DescMethod) :
    (methodUrl service method).toList
      = '/' :: (service.typeName.toList ++ '/' :: method.name.text.toList) := by
  rw [methodUrl]
  simp

theorem callPath_eq (base : String) (service : DescService) (method : DescMethod) :
    callPath base service method = base ++ methodUrl service method := by
  rw [← String.toList_inj, callPath, methodUrl]
  simp

section Routed

variable {service other : DescService} {method method' : DescMethod}

/-- **The last two parts of a path** are the RPC it is for. -/
theorem methodUrl_inj (hs : '/' ∉ service.typeName.toList) (ho : '/' ∉ other.typeName.toList)
    {start base : String}
    (h : start ++ methodUrl other method' = base ++ methodUrl service method) :
    start = base ∧ other.typeName = service.typeName ∧ method'.name.text = method.name.text := by
  have hlist := congrArg String.toList h
  rw [String.toList_append, String.toList_append, methodUrl_toList, methodUrl_toList,
    ← List.cons_append, ← List.cons_append, ← List.append_assoc, ← List.append_assoc] at hlist
  obtain ⟨hfront, hname⟩ :=
    slash_inj (slash_notMem_name method'.name) (slash_notMem_name method.name) hlist
  obtain ⟨hbase, htype⟩ := slash_inj ho hs hfront
  exact ⟨String.toList_inj.mp hbase, String.toList_inj.mp htype, String.toList_inj.mp hname⟩

/-- One slash does not make a path to an RPC. -/
theorem slash_ne {name : String} (hname : '/' ∉ name.toList) (base : String)
    (service : DescService) (method : DescMethod) :
    "/" ++ name ≠ base ++ methodUrl service method := by
  intro h
  have hlist := congrArg String.toList h
  rw [String.toList_append, String.toList_append, methodUrl_toList, ← List.cons_append,
    ← List.append_assoc] at hlist
  have hfront := (slash_inj (a := []) hname (slash_notMem_name method.name) hlist).1
  exact absurd hfront.symm (List.append_ne_nil_of_right_ne_nil _ (List.cons_ne_nil _ _))

variable {plugin : Plugin} {svc : String → Option Member}

/-- The table has its RPCs. -/
theorem get?_methodUrl (hmethod : method ∈ service.methods) :
    (endpointTable plugin service svc).get? (methodUrl service method)
      = some (entry plugin service svc method) :=
  Dict.get?_insertAll_mem nodup_methodUrl hmethod _

/-- And nothing else that a path to an RPC ends in. -/
theorem get?_none (hs : '/' ∉ service.typeName.toList) (ho : '/' ∉ other.typeName.toList)
    {start base path : String} (hpath : start ++ path = base ++ methodUrl service method)
    (h : ¬ (other.typeName = service.typeName ∧ start = base)) :
    (endpointTable plugin other svc).get? path = none := by
  refine (Dict.get?_insertAll_other ?_ _).trans (Dict.get?_empty path)
  rintro method' - rfl
  obtain ⟨hstart, htype, -⟩ := methodUrl_inj hs ho hpath
  exact h ⟨htype, hstart⟩

/-- Taking a prefix off. -/
theorem removePrefix_cases (start path : String) :
    start ++ removePrefix start path = path ∨ removePrefix start path = path := by
  rw [removePrefix]
  split
  · next h =>
      refine .inl ?_
      obtain ⟨rest, hrest⟩ := List.isPrefixOf_iff_prefix.mp h
      rw [← String.toList_inj, String.toList_append, String.toList_ofList, ← hrest,
        List.drop_left]
  · exact .inr rfl

/-! ## The ASGI server -/

/-- An RPC is found without a path in the address, or below the mount. -/
theorem asgiEndpoint_some (hs : '/' ∉ service.typeName.toList) (hmethod : method ∈ service.methods)
    {base rootPath : String} (h : base = "" ∨ rootPath = base) :
    asgiEndpoint (endpointTable plugin service svc) (callPath base service method) rootPath
      = some (entry plugin service svc method) := by
  rw [asgiEndpoint, callPath_eq]
  by_cases hbase : base = ""
  · rw [hbase, String.empty_append, get?_methodUrl hmethod]
  · obtain rfl := h.resolve_left hbase
    have hfull : (endpointTable plugin service svc).get? (rootPath ++ methodUrl service method)
        = none :=
      get?_none hs hs String.empty_append fun h => hbase h.2.symm
    rw [hfull, removePrefix_append, get?_methodUrl hmethod]
    exact if_pos hbase

theorem asgiEndpoint_none (hs : '/' ∉ service.typeName.toList)
    (ho : '/' ∉ other.typeName.toList) {base rootPath : String}
    (h : ¬ (other.typeName = service.typeName ∧ (base = "" ∨ rootPath = base))) :
    asgiEndpoint (endpointTable plugin other svc) (callPath base service method) rootPath
      = none := by
  have hfull : (endpointTable plugin other svc).get? (base ++ methodUrl service method) = none :=
    get?_none hs ho String.empty_append fun hb => h ⟨hb.1, .inl hb.2.symm⟩
  have hremoved : (endpointTable plugin other svc).get?
      (removePrefix rootPath (base ++ methodUrl service method)) = none := by
    rcases removePrefix_cases rootPath (base ++ methodUrl service method) with hp | hp
    · exact get?_none hs ho hp fun hb => h ⟨hb.1, .inr hb.2⟩
    · rw [hp, hfull]
  rw [asgiEndpoint, callPath_eq, hfull, hremoved]
  exact ite_self none

/-! ## The WSGI server -/

theorem ownPath_ne_empty (service : DescService) : ownPath service ≠ "" := by
  intro h
  have hlist := congrArg String.toList h
  rw [ownPath, String.toList_append] at hlist
  cases hlist

/-- An RPC is found below the mount, or by its name alone if the application is mounted
    under its own path. -/
theorem wsgiEndpoint_some (hs : '/' ∉ service.typeName.toList) (hmethod : method ∈ service.methods)
    {base scriptName pathInfo : String}
    (hpath : scriptName ++ pathInfo = callPath base service method)
    (h : scriptName = base ∨ base = "" ∧ scriptName = ownPath service) :
    wsgiEndpoint (endpointTable plugin service svc) (ownPath service) scriptName pathInfo
      = some (entry plugin service svc method) := by
  rw [callPath_eq] at hpath
  rw [wsgiEndpoint]
  rcases h with rfl | ⟨rfl, rfl⟩
  · have hinfo : pathInfo = methodUrl service method := by
      rw [← String.toList_inj] at hpath ⊢
      rw [String.toList_append, String.toList_append] at hpath
      exact List.append_cancel_left hpath
    have hne : pathInfo ≠ "" := by
      intro he
      have hlist := congrArg String.toList (hinfo.symm.trans he)
      rw [methodUrl_toList] at hlist
      cases hlist
    rw [if_neg hne, hinfo, get?_methodUrl hmethod]
  · have hne : pathInfo ≠ "" := by
      rintro rfl
      rw [String.append_empty] at hpath
      exact slash_ne hs "" service method hpath
    have hinner : (endpointTable plugin service svc).get? pathInfo = none :=
      get?_none hs hs hpath fun hb => ownPath_ne_empty service hb.2
    rw [if_neg hne, hinner, hpath, String.empty_append, get?_methodUrl hmethod]
    exact if_pos rfl

theorem wsgiEndpoint_none (hs : '/' ∉ service.typeName.toList)
    (ho : '/' ∉ other.typeName.toList) {base scriptName pathInfo : String}
    (hpath : scriptName ++ pathInfo = callPath base service method)
    (h : ¬ (other.typeName = service.typeName
      ∧ (scriptName = base ∨ base = "" ∧ scriptName = ownPath other))) :
    wsgiEndpoint (endpointTable plugin other svc) (ownPath other) scriptName pathInfo = none := by
  rw [callPath_eq] at hpath
  rw [wsgiEndpoint]
  by_cases hinfo : pathInfo = ""
  · rw [hinfo, String.append_empty] at hpath
    have hslash : (endpointTable plugin other svc).get? "/" = none := by
      refine (Dict.get?_insertAll_other ?_ _).trans (Dict.get?_empty _)
      intro method' _ hm
      have hempty : '/' ∉ "".toList := List.not_mem_nil
      exact slash_ne hempty "" other method' hm.symm
    have hscript : scriptName ≠ ownPath other := by
      rintro rfl
      exact slash_ne ho base service method hpath
    rw [if_pos hinfo, hslash]
    exact if_neg hscript
  · have hinner : (endpointTable plugin other svc).get? pathInfo = none :=
      get?_none hs ho hpath fun hb => h ⟨hb.1, .inl hb.2⟩
    rw [if_neg hinfo, hinner]
    dsimp only
    split
    · next hscript =>
        rw [← hscript, hpath]
        refine get?_none hs ho String.empty_append fun hb => h ⟨hb.1, .inr ⟨hb.2.symm, hscript⟩⟩
    · rfl

end Routed

/-- **EVERY RPC IS ROUTED** to its own endpoint and to no other application, under exactly
    these mounts. -/
theorem routed (plugin : Plugin) {service : DescService} {svc : String → Option Member}
    (hs : '/' ∉ service.typeName.toList) {method : DescMethod} (hmethod : method ∈ service.methods)
    (base : String) :
    (∀ rootPath,
      asgiEndpoint (endpointTable plugin service svc) (callPath base service method) rootPath
        = if base = "" ∨ rootPath = base then some (entry plugin service svc method) else none)
    ∧ (∀ scriptName pathInfo, scriptName ++ pathInfo = callPath base service method →
      wsgiEndpoint (endpointTable plugin service svc) (ownPath service) scriptName pathInfo
        = if scriptName = base ∨ base = "" ∧ scriptName = ownPath service then
            some (entry plugin service svc method)
          else none)
    ∧ ∀ other svc', '/' ∉ other.typeName.toList → other.typeName ≠ service.typeName →
      (∀ rootPath, asgiEndpoint (endpointTable plugin other svc') (callPath base service method)
        rootPath = none)
      ∧ ∀ scriptName pathInfo, scriptName ++ pathInfo = callPath base service method →
        wsgiEndpoint (endpointTable plugin other svc') (ownPath other) scriptName pathInfo
          = none := by
  refine ⟨fun rootPath => ?_, fun scriptName pathInfo hpath => ?_, fun other svc' ho hne =>
    ⟨fun rootPath => ?_, fun scriptName pathInfo hpath => ?_⟩⟩
  · split
    · next h => exact asgiEndpoint_some hs hmethod h
    · next h => exact asgiEndpoint_none hs hs fun hb => h hb.2
  · split
    · next h => exact wsgiEndpoint_some hs hmethod hpath h
    · next h => exact wsgiEndpoint_none hs hs hpath fun hb => h hb.2
  · exact asgiEndpoint_none hs ho fun hb => hne hb.1
  · exact wsgiEndpoint_none hs ho hpath fun hb => hne hb.1

def makeHat : DescMethod := ⟨⟨"MakeHat", by decide⟩, .unary, false⟩

def haberdasher : DescService :=
  ⟨"Haberdasher", "example.Haberdasher", [makeHat], by decide⟩

/-- The attributes of a service for it, as an application looks them up. -/
def hats (name : String) : Option Member :=
  (runBody "Haberdasher" Dict.empty (serviceBody Users.plugin ⟨.py, none⟩ haberdasher)).bind
    fun cls => serviceAttribute Users.python cls (mangle "HaberdasherASGIApplication" name)

theorem clear_haberdasher : Clear Users.python Users.plugin haberdasher where
  collides := by
    rintro ⟨m, hm, m', hm', hne, -⟩
    rw [List.mem_singleton.mp hm, List.mem_singleton.mp hm'] at hne
    exact hne rfl
  classmethod := by decide
  deprecated := List.pairwise_singleton _ _
  mangled := by decide
  attributes := by decide
  kept := by
    intro m hm kind
    rw [List.mem_singleton.mp hm]
    cases kind <;> decide

theorem entry_makeHat : entry Users.plugin haberdasher hats makeHat
    = ⟨"unary", "MakeHat", "example.Haberdasher", some (.rpc makeHat)⟩ := by
  obtain ⟨cls, hcls⟩ := Option.isSome_iff_exists.mp
    (clear_haberdasher.isSome_serviceBody ⟨.py, none⟩ "Haberdasher")
  have hcls' : runBody (asyncStubs "Haberdasher").service Dict.empty
      (serviceBody Users.plugin ⟨.py, none⟩ haberdasher) = some cls := hcls
  have hmethod : makeHat ∈ haberdasher.methods := List.mem_cons_self
  have hattribute := clear_haberdasher.serviceAttribute_eq hcls' hmethod
  rw [entry, hats, hcls]
  exact congrArg (Endpoint.mk "unary" "MakeHat" "example.Haberdasher") hattribute

theorem routed_makeHat :
    asgiEndpoint (endpointTable Users.plugin haberdasher hats)
        "/api/example.Haberdasher/MakeHat" "/api"
      = some ⟨"unary", "MakeHat", "example.Haberdasher", some (.rpc makeHat)⟩
    ∧ wsgiEndpoint (endpointTable Users.plugin haberdasher hats) "/example.Haberdasher"
        "/example.Haberdasher" "/MakeHat"
      = some ⟨"unary", "MakeHat", "example.Haberdasher", some (.rpc makeHat)⟩ := by
  have hmethod : makeHat ∈ haberdasher.methods := List.mem_cons_self
  have hroot := @routed Users.plugin haberdasher hats (by decide) makeHat hmethod
  rw [← entry_makeHat]
  exact ⟨(hroot "/api").1 "/api", (hroot "").2.1 "/example.Haberdasher" "/MakeHat" (by decide)⟩

end ConnectRouting
