import ConnectPy.ReflectionProofs

/-! # Discovery — what a client learns over a reflection stream

    A client that knows nothing of a server lists its services, asks for the file of each,
    and builds its descriptors from what it is sent.  That works when three parts agree
    that were written apart: the names that are listed are those of declared services, the
    lookup of a name finds the file that declares it, and with a file comes all it depends
    on that the stream has not sent before.

    All of them meet in what one response says behind those before it (`Replied`).  The
    keystone is `discovery`: whatever the requests are and in whatever order, what is asked
    for and declared is sent together with all it needs, and a client that asks for all
    that is listed can resolve every service that was registered. -/

namespace ConnectDiscovery

open ConnectErrors ConnectSymbols ConnectReflection Worklist

variable {F : Type} [Fintype F] {g : Files F} {registry : Registry F} {serviceNames : List String}

/-! ## A response behind others -/

/-- The answer to a well-formed request, with what was seen since the responses before. -/
structure Replied (g : Files F) (registry : Registry F) (serviceNames : List String)
    (before : List F) (res : ServerReflectionResponse F) : Prop where
  message : ∃ message seen, res.originalRequest.messageRequest = some message
    ∧ Kept g before seen
    ∧ res.messageResponse = (messageResponse g registry serviceNames message seen).1
  host : res.validHost = res.originalRequest.host

theorem serve_none {req : ServerReflectionRequest} (h : req.messageRequest = none)
    (requests : List ServerReflectionRequest) (seen : Finset String) :
    serve g registry serviceNames (req :: requests) seen
      = ([], some ⟨.invalidArgument, "invalid request", []⟩) := by
  rw [serve, handleRequest, h]

theorem serve_some {req : ServerReflectionRequest} {message : MessageRequest}
    (h : req.messageRequest = some message) (requests : List ServerReflectionRequest)
    (seen : Finset String) :
    serve g registry serviceNames (req :: requests) seen
      = (⟨req.host, req, (messageResponse g registry serviceNames message seen).1⟩
            :: (serve g registry serviceNames requests
                (messageResponse g registry serviceNames message seen).2).1,
          (serve g registry serviceNames requests
            (messageResponse g registry serviceNames message seen).2).2) := by
  rw [serve, handleRequest, h]

/-- **Every response is one behind those before it.** -/
theorem serve_replied {requests : List ServerReflectionRequest} {yielded : List F}
    {seen : Finset String} (h : Kept g yielded seen)
    {earlier later : List (ServerReflectionResponse F)} {res : ServerReflectionResponse F}
    (hserve : (serve g registry serviceNames requests seen).1 = earlier ++ res :: later) :
    Replied g registry serviceNames (yielded ++ sentFiles earlier) res := by
  induction requests generalizing yielded seen earlier with
  | nil =>
      rw [serve] at hserve
      exact absurd hserve (by simp)
  | cons req requests ih =>
      cases hmessage : req.messageRequest with
      | none =>
          rw [serve_none hmessage] at hserve
          exact absurd hserve (by simp)
      | some message =>
          rw [serve_some hmessage] at hserve
          cases earlier with
          | nil =>
              obtain ⟨rfl, -⟩ := List.cons.inj hserve
              rw [sentFiles, List.flatMap_nil, List.append_nil]
              exact ⟨⟨message, seen, hmessage, h, rfl⟩, rfl⟩
          | cons first earlier =>
              obtain ⟨rfl, hrest⟩ := List.cons.inj hserve
              rw [sentFiles, List.flatMap_cons, ← List.append_assoc]
              exact ih (h.messageResponse registry serviceNames message) hrest

/-- The responses are those to the requests in front of the first one that asks nothing. -/
theorem serve_requests (requests : List ServerReflectionRequest) (seen : Finset String) :
    (serve g registry serviceNames requests seen).1.map
        ServerReflectionResponse.originalRequest
      = requests.takeWhile fun req => req.messageRequest.isSome := by
  induction requests generalizing seen with
  | nil => rfl
  | cons req requests ih =>
      cases hmessage : req.messageRequest with
      | none =>
          rw [serve_none hmessage, List.takeWhile_cons_of_neg (by simp [hmessage])]
          rfl
      | some message =>
          rw [serve_some hmessage, List.takeWhile_cons_of_pos (by simp [hmessage])]
          exact congrArg (req :: ·) (ih _)

/-- And that one ends the stream. -/
theorem serve_error (requests : List ServerReflectionRequest) (seen : Finset String) :
    (serve g registry serviceNames requests seen).2
      = if ∃ req ∈ requests, req.messageRequest = none
        then some ⟨.invalidArgument, "invalid request", []⟩ else none := by
  induction requests generalizing seen with
  | nil => rfl
  | cons req requests ih =>
      cases hmessage : req.messageRequest with
      | none =>
          rw [serve_none hmessage, if_pos ⟨req, List.mem_cons_self, hmessage⟩]
      | some message =>
          have hiff : (∃ r ∈ req :: requests, r.messageRequest = none)
              ↔ ∃ r ∈ requests, r.messageRequest = none := by
            rw [List.exists_mem_cons_iff, hmessage]
            exact ⟨fun h => h.resolve_left (by simp), Or.inr⟩
          rw [serve_some hmessage, if_congr hiff rfl rfl]
          exact ih _

/-! ## What asks for a file -/

/-- The requests that a file is to be sent for: its name, a name that it declares, and an
    extension of it whose number no other file uses for the same message. -/
inductive AsksFor (g : Files F) (registry : Registry F) (file : F) : MessageRequest → Prop
  | name : AsksFor g registry file (.fileByFilename (g.name file))
  | symbol {d n} : Declares (g.contents file) d n →
      AsksFor g registry file (.fileContainingSymbol n)
  | extension {scope x} : HasExtension (g.contents file) scope x →
      (∀ other ∈ registry.files, ∀ scope' x', HasExtension (g.contents other) scope' x' →
        x'.extendee = x.extendee → x'.number = x.number → other = file) →
      AsksFor g registry file (.fileContainingExtension x.extendee x.number)

omit [Fintype F] in
theorem registryFile_eq (hcontents : registry.contents = g.contents) {file : F}
    (hfile : file ∈ registry.files) : registryFile registry (g.name file) = some file := by
  rw [registryFile, hcontents]
  cases hfound : registry.files.find? fun other => (g.contents other).name = g.name file with
  | none => exact absurd (decide_eq_true rfl) (List.find?_eq_none.mp hfound file hfile)
  | some found =>
      have hpred := List.find?_some hfound
      have hname : g.name found = g.name file := of_decide_eq_true hpred
      rw [g.unique hname]

omit [Fintype F] in
/-- What is found for a name that is declared is the file that declares it. -/
theorem findFileForSymbol_eq (h : Lawful registry) {file : F} (hfile : file ∈ registry.files)
    {d : Decl} {n : String} (hd : Declares (registry.contents file) d n) :
    findFileForSymbol registry n = some file := by
  obtain ⟨found, hfound⟩ := Option.isSome_iff_exists.mp (h.findFileForSymbol_isSome hfile hd)
  obtain ⟨hmem, hdeclared | hunscoped⟩ := findFileForSymbol_some hfound
  · obtain ⟨d', hd'⟩ := hdeclared
    rw [hfound, (h.unique hmem hfile hd' hd).1]
  · exact absurd hd ((hunscoped.found h).2 file d)

omit [Fintype F] in
theorem extensionFor_eq {file : F} (hfile : file ∈ registry.files) {scope : String}
    {x : DescExtension} (hx : HasExtension (registry.contents file) scope x)
    (honly : ∀ other ∈ registry.files, ∀ scope' x',
      HasExtension (registry.contents other) scope' x' →
      x'.extendee = x.extendee → x'.number = x.number → other = file) :
    (extensionFor registry x.extendee x.number).map Desc.file = some file := by
  rw [extensionFor]
  cases hfound : (registry.all DescFile.allExtensions).find? fun d =>
      d.desc.extendee = x.extendee ∧ d.desc.number = x.number with
  | none =>
      have hmem : (⟨file, qualify scope x.name, x⟩ : Desc F DescExtension)
          ∈ registry.all DescFile.allExtensions :=
        mem_all.mpr ⟨hfile, mem_allScoped.mpr ⟨scope, hx, rfl⟩⟩
      exact absurd (decide_eq_true ⟨rfl, rfl⟩) (List.find?_eq_none.mp hfound _ hmem)
  | some d =>
      have hpred := List.find?_some hfound
      obtain ⟨hextendee, hnumber⟩ := of_decide_eq_true hpred
      obtain ⟨hmem, hd⟩ := mem_all.mp (List.mem_of_find?_eq_some hfound)
      obtain ⟨scope', hscope, -⟩ := mem_allScoped.mp hd
      exact congrArg some (honly d.file hmem scope' d.desc hscope hextendee hnumber)

omit [Fintype F] in
/-- **A registered file is what is found when it is asked for.** -/
theorem AsksFor.requestedFile (hlawful : Lawful registry)
    (hcontents : registry.contents = g.contents) {file : F} (hfile : file ∈ registry.files)
    {message : MessageRequest} (h : AsksFor g registry file message) :
    requestedFile registry message = some file := by
  cases h with
  | name => exact registryFile_eq hcontents hfile
  | symbol hd => exact findFileForSymbol_eq hlawful hfile (hcontents ▸ hd)
  | extension hx honly =>
      refine extensionFor_eq hfile (hcontents ▸ hx) ?_
      rw [hcontents]
      exact honly

/-! ## The listed services -/

/-- A descriptor of a service is that of one in its file. -/
def DeclaredIn (g : Files F) : Described F → Prop
  | .file _ => True
  | .service desc => (desc.typeName, desc.desc) ∈ (g.contents desc.file).allServices

omit [Fintype F] in
/-- Each name stands for a service in the file of the descriptor. -/
theorem DeclaredIn.declares {desc : Described F} (h : DeclaredIn g desc) {name : String}
    (hname : name ∈ desc.serviceNames g) :
    ∃ s, Declares (g.contents desc.root) (.service s) name := by
  have hmem : ∃ s, (name, s) ∈ (g.contents desc.root).allServices := by
    cases desc with
    | file f =>
        obtain ⟨⟨name', s⟩, hs, rfl⟩ := List.mem_map.mp hname
        exact ⟨s, hs⟩
    | service desc =>
        obtain rfl := List.mem_singleton.mp hname
        exact ⟨desc.desc, h⟩
  obtain ⟨s, hs⟩ := hmem
  obtain ⟨hservice, rfl⟩ := mem_allServices.mp hs
  exact ⟨s, .service hservice⟩

section Listed

variable (serverReflection serverReflectionAlpha : Desc F DescService) (descs : List (Described F))

theorem mem_serviceNames (name : String) :
    name ∈ (resolveRegistry g serverReflection serverReflectionAlpha descs).2
      ↔ ∃ desc ∈ registered serverReflection serverReflectionAlpha descs,
          name ∈ desc.serviceNames g := by
  rw [resolveRegistry]
  dsimp only
  rw [Finset.mem_sort, List.mem_toFinset, List.mem_flatMap]

theorem serviceNames_sorted :
    (resolveRegistry g serverReflection serverReflectionAlpha descs).2.Pairwise (· < ·) := by
  rw [resolveRegistry]
  dsimp only
  have hle := Finset.pairwise_sort (((registered serverReflection serverReflectionAlpha descs)
    |>.flatMap fun desc => desc.serviceNames g).toFinset) (· ≤ ·)
  have hne := Finset.sort_nodup (((registered serverReflection serverReflectionAlpha descs)
    |>.flatMap fun desc => desc.serviceNames g).toFinset) (· ≤ ·)
  exact hle.imp₂ (fun _ _ hle hne => lt_of_le_of_ne hle hne) hne

/-- The file of a descriptor that was registered is in the registry. -/
theorem root_mem {desc : Described F}
    (hdesc : desc ∈ registered serverReflection serverReflectionAlpha descs) :
    desc.root ∈ (resolveRegistry g serverReflection serverReflectionAlpha descs).1.files :=
  (mem_resolveRegistry _ _ _ _).mpr ⟨desc, hdesc, .refl⟩

end Listed

/-! ## What a session tells -/

/-- The numbers of the extensions of a message. -/
def ExtensionNumber (registry : Registry F) (containingType : String) (number : Int) : Prop :=
  ∃ file ∈ registry.files, ∃ scope x, HasExtension (registry.contents file) scope x
    ∧ x.extendee = containingType ∧ x.number = number

omit [Fintype F] in
theorem mem_extensionNumbers {containingType : String} {number : Int} :
    number ∈ (((registry.all DescFile.allExtensions).filter fun d =>
        d.desc.extendee = containingType).map fun d => d.desc.number)
      ↔ ExtensionNumber registry containingType number := by
  rw [List.mem_map]
  constructor
  · rintro ⟨d, hd, rfl⟩
    obtain ⟨hmem, hextendee⟩ := List.mem_filter.mp hd
    obtain ⟨hfile, hpart⟩ := mem_all.mp hmem
    obtain ⟨scope, hscope, -⟩ := mem_allScoped.mp hpart
    exact ⟨d.file, hfile, scope, d.desc, hscope, of_decide_eq_true hextendee, rfl⟩
  · rintro ⟨file, hfile, scope, x, hx, hextendee, rfl⟩
    refine ⟨⟨file, qualify scope x.name, x⟩, List.mem_filter.mpr ⟨?_, ?_⟩, rfl⟩
    · exact mem_all.mpr ⟨hfile, mem_allScoped.mpr ⟨scope, hx, rfl⟩⟩
    · exact decide_eq_true hextendee

/-- What a response says behind those before it. -/
structure Answers (g : Files F) (registry : Registry F) (serviceNames : List String)
    (before : List F) (res : ServerReflectionResponse F) : Prop where
  /-- A file that is asked for comes first, and all it needs is there then. -/
  file : ∀ message file, res.originalRequest.messageRequest = some message →
    file ∈ registry.files → AsksFor g registry file message →
    ∃ deps, res.messageResponse = .fileDescriptorResponse (file :: deps)
      ∧ ∀ other, Leads g.dependencies file other → other ∈ before ++ file :: deps
  /-- A name that nothing declares is not found. -/
  missing : ∀ symbol, res.originalRequest.messageRequest = some (.fileContainingSymbol symbol) →
    (∀ file ∈ registry.files, ∀ d, ¬ Declares (registry.contents file) d symbol) →
    ¬ Unscoped registry symbol →
    res.messageResponse = .errorResponse 5 "symbol not found"
  /-- The numbers are those of all extensions of a message that is there. -/
  numbers : ∀ containingType,
    res.originalRequest.messageRequest = some (.allExtensionNumbersOfType containingType) →
    (∃ file ∈ registry.files, ∃ m, HasMessage (registry.contents file) containingType m) →
    ∃ nums, res.messageResponse = .allExtensionNumbersResponse containingType nums
      ∧ ∀ number, number ∈ nums ↔ ExtensionNumber registry containingType number
  /-- And there are none for a message that is not. -/
  unknown : ∀ containingType,
    res.originalRequest.messageRequest = some (.allExtensionNumbersOfType containingType) →
    (∀ file ∈ registry.files, ∀ m, ¬ HasMessage (registry.contents file) containingType m) →
    res.messageResponse = .errorResponse 5 "symbol not found"
  /-- The services are listed. -/
  services : ∀ content, res.originalRequest.messageRequest = some (.listServices content) →
    res.messageResponse = .listServicesResponse serviceNames

theorem messageResponse_file {message : MessageRequest} {root : F} {seen : Finset String}
    (h : requestedFile registry message = some root) :
    (messageResponse g registry serviceNames message seen).1
      = .fileDescriptorResponse (fileDescriptorWithDependencies g root seen).1 := by
  have hcreate : (createFileResponse g (requestedFile registry message) seen).1
      = .fileDescriptorResponse (fileDescriptorWithDependencies g root seen).1 := by
    rw [h, createFileResponse]
  cases message with
  | fileByFilename | fileContainingSymbol | fileContainingExtension => exact hcreate
  | allExtensionNumbersOfType | listServices => exact absurd h (by simp [requestedFile])

/-- Only the list is a list of services. -/
theorem listServices_names {message : MessageRequest} {seen : Finset String} {names : List String}
    (h : (messageResponse g registry serviceNames message seen).1 = .listServicesResponse names) :
    names = serviceNames := by
  have hcreate : ∀ desc : Option F,
      (createFileResponse g desc seen).1 ≠ .listServicesResponse names := by
    intro desc hdesc
    cases desc with
    | none => cases hdesc
    | some root => cases hdesc
  cases message with
  | fileByFilename | fileContainingSymbol | fileContainingExtension => exact absurd h (hcreate _)
  | allExtensionNumbersOfType containingType =>
      rw [messageResponse] at h
      cases hfound : registry.message containingType with
      | none =>
          rw [hfound] at h
          cases h
      | some msg =>
          rw [hfound] at h
          cases h
  | listServices content => exact (MessageResponse.listServicesResponse.inj h).symm

/-- **A response says what it should.** -/
theorem Replied.answers (hlawful : Lawful registry) (hcontents : registry.contents = g.contents)
    {before : List F} {res : ServerReflectionResponse F}
    (h : Replied g registry serviceNames before res) :
    Answers g registry serviceNames before res := by
  obtain ⟨message, seen, hmessage, hkept, hres⟩ := h.message
  constructor
  case file =>
    intro message' file hmessage' hfile hasks
    obtain rfl := Option.some.inj (hmessage.symm.trans hmessage')
    rw [messageResponse_file (hasks.requestedFile hlawful hcontents hfile)] at hres
    exact ⟨_, hres, (sent_withDependencies hkept file).complete⟩
  case missing =>
    intro symbol hmessage' hnot hunscoped
    obtain rfl := Option.some.inj (hmessage.symm.trans hmessage')
    have hnone : findFileForSymbol registry symbol = none := by
      -- What the lookup finds is declared, or has that dot in front.
      cases hfound : findFileForSymbol registry symbol with
      | none => rfl
      | some file =>
          obtain ⟨hfile, hd⟩ := findFileForSymbol_some hfound
          obtain ⟨d, hd⟩ := hd.resolve_right hunscoped
          exact absurd hd (hnot file hfile d)
    have hcreate : (createFileResponse g (findFileForSymbol registry symbol) seen).1
        = .errorResponse 5 "symbol not found" := by
      rw [hnone, createFileResponse]
    exact hres.trans hcreate
  case numbers =>
    rintro containingType hmessage' ⟨file, hfile, m, hm⟩
    obtain rfl := Option.some.inj (hmessage.symm.trans hmessage')
    rw [messageResponse] at hres
    cases hfound : registry.message containingType with
    | none => exact absurd (mem_allMessages.mpr hm) (lookup_none hfound hfile _)
    | some msg =>
        rw [hfound] at hres
        exact ⟨_, hres, fun number => mem_extensionNumbers⟩
  case unknown =>
    intro containingType hmessage' hnot
    obtain rfl := Option.some.inj (hmessage.symm.trans hmessage')
    rw [messageResponse] at hres
    cases hfound : registry.message containingType with
    | none => rwa [hfound] at hres
    | some msg =>
        obtain ⟨hfile, hm⟩ := message_some hfound
        exact absurd hm (hnot msg.file hfile msg.desc)
  case services =>
    intro content hmessage'
    obtain rfl := Option.some.inj (hmessage.symm.trans hmessage')
    exact hres

/-! ## Sessions -/

/-- What a session of a service over these descriptors tells. -/
structure Discovery (g : Files F) (serverReflection serverReflectionAlpha : Desc F DescService)
    (descs : List (Described F)) (requests : List ServerReflectionRequest)
    (responses : List (ServerReflectionResponse F)) (error : Option ConnectError) : Prop where
  /-- The requests are answered in their order, up to one that asks nothing. -/
  answered : responses.map ServerReflectionResponse.originalRequest
    = requests.takeWhile fun req => req.messageRequest.isSome
  refused : error = if ∃ req ∈ requests, req.messageRequest = none
    then some ⟨.invalidArgument, "invalid request", []⟩ else none
  answers : ∀ earlier res later, responses = earlier ++ res :: later →
    Answers g (resolveRegistry g serverReflection serverReflectionAlpha descs).1
      (resolveRegistry g serverReflection serverReflectionAlpha descs).2 (sentFiles earlier) res
  /-- The list is in order, without repetitions, and has the names of the descriptors. -/
  listed : ∀ res ∈ responses, ∀ names, res.messageResponse = .listServicesResponse names →
    names.Pairwise (· < ·)
      ∧ ∀ name, name ∈ names
          ↔ ∃ desc ∈ registered serverReflection serverReflectionAlpha descs,
              name ∈ desc.serviceNames g
  /-- A client that asks for a name of it gets its file and all that needs. -/
  resolvable : ∀ desc ∈ registered serverReflection serverReflectionAlpha descs,
    ∀ name ∈ desc.serviceNames g,
    (∃ res ∈ responses,
      res.originalRequest.messageRequest = some (.fileContainingSymbol name)) →
    ∀ file, Leads g.dependencies desc.root file → file ∈ sentFiles responses

/-! ## The older version

    The messages of `v1` and `v1alpha` have the same bytes, and the service of the older
    one reads them as those of the newer one, and writes what it answers as its own. -/

/-- `from_binary` behind `to_binary`, for requests and for responses. -/
structure Shim (F Req Res : Type) where
  request  : Req → ServerReflectionRequest
  response : ServerReflectionResponse F → Res

/-- The loop of `server_reflection_info` of `ServerReflectionAlphaService`. -/
def serveAlpha {Req Res : Type} (shim : Shim F Req Res) (g : Files F) (registry : Registry F)
    (serviceNames : List String) :
    List Req → Finset String → List Res × Option ConnectError
  | [], _ => ([], none)
  | req :: requests, seen =>
      match handleRequest g registry serviceNames (shim.request req) seen with
      | .error e => ([], some e)
      | .ok (res, seen) =>
          let s := serveAlpha shim g registry serviceNames requests seen
          (shim.response res :: s.1, s.2)

/-- `server_reflection_info` of a `v1alpha` service over these descriptors. -/
def serverReflectionInfoAlpha {Req Res : Type} (shim : Shim F Req Res) (g : Files F)
    (serverReflection serverReflectionAlpha : Desc F DescService) (descs : List (Described F))
    (requests : List Req) : List Res × Option ConnectError :=
  let r := resolveRegistry g serverReflection serverReflectionAlpha descs
  serveAlpha shim g r.1 r.2 requests ∅

theorem serveAlpha_eq {Req Res : Type} (shim : Shim F Req Res) (requests : List Req)
    (seen : Finset String) :
    serveAlpha shim g registry serviceNames requests seen
      = ((serve g registry serviceNames (requests.map shim.request) seen).1.map shim.response,
        (serve g registry serviceNames (requests.map shim.request) seen).2) := by
  induction requests generalizing seen with
  | nil => rfl
  | cons req requests ih =>
      rw [serveAlpha, List.map_cons, serve]
      cases handleRequest g registry serviceNames (shim.request req) seen with
      | error e => rfl
      | ok r =>
          dsimp only
          rw [ih, List.map_cons]

/-! ## The keystone -/

/-- **What is asked for and declared is sent with all it needs.** -/
theorem discovery (g : Files F) (serverReflection serverReflectionAlpha : Desc F DescService)
    (descs : List (Described F))
    (hlawful : Lawful (resolveRegistry g serverReflection serverReflectionAlpha descs).1)
    (hdeclared : ∀ desc ∈ registered serverReflection serverReflectionAlpha descs,
      DeclaredIn g desc)
    (requests : List ServerReflectionRequest) :
    Discovery g serverReflection serverReflectionAlpha descs requests
      (serverReflectionInfo g serverReflection serverReflectionAlpha descs requests).1
      (serverReflectionInfo g serverReflection serverReflectionAlpha descs requests).2
      ∧ ∀ (Req Res : Type) (shim : Shim F Req Res) (old : List Req),
        old.map shim.request = requests →
        serverReflectionInfoAlpha shim g serverReflection serverReflectionAlpha descs old
          = ((serverReflectionInfo g serverReflection serverReflectionAlpha descs
                requests).1.map shim.response,
              (serverReflectionInfo g serverReflection serverReflectionAlpha descs
                requests).2) := by
  -- Each response is made in a state that has kept what was sent before it.
  have hreplied : ∀ earlier res later,
      (serverReflectionInfo g serverReflection serverReflectionAlpha descs requests).1
        = earlier ++ res :: later →
      Replied g (resolveRegistry g serverReflection serverReflectionAlpha descs).1
        (resolveRegistry g serverReflection serverReflectionAlpha descs).2 (sentFiles earlier)
        res := by
    intro earlier res later heq
    exact serve_replied (kept_start g) heq
  have hanswers : ∀ earlier res later,
      (serverReflectionInfo g serverReflection serverReflectionAlpha descs requests).1
        = earlier ++ res :: later →
      Answers g (resolveRegistry g serverReflection serverReflectionAlpha descs).1
        (resolveRegistry g serverReflection serverReflectionAlpha descs).2 (sentFiles earlier)
        res :=
    fun earlier res later heq => (hreplied earlier res later heq).answers hlawful rfl
  refine ⟨⟨serve_requests requests ∅, serve_error requests ∅, hanswers, ?_, ?_⟩, ?_⟩
  · intro res hres names hnames
    obtain ⟨earlier, later, heq⟩ := List.append_of_mem hres
    obtain ⟨message, seen, -, -, hmessage⟩ := (hreplied earlier res later heq).message
    obtain rfl := listServices_names (hmessage.symm.trans hnames)
    exact ⟨serviceNames_sorted _ _ _, mem_serviceNames _ _ _⟩
  · rintro desc hdesc name hname ⟨res, hres, hasked⟩ file hleads
    -- The name is a symbol of its file, which comes with all it needs.
    obtain ⟨earlier, later, heq⟩ := List.append_of_mem hres
    obtain ⟨s, hs⟩ := (hdeclared desc hdesc).declares hname
    obtain ⟨deps, hdeps, hall⟩ := (hanswers earlier res later heq).file _ desc.root hasked
      (root_mem _ _ _ hdesc) (.symbol hs)
    rw [heq, sentFiles, List.flatMap_append, List.flatMap_cons, hdeps]
    rw [← List.append_assoc]
    exact List.mem_append_left _ (hall file hleads)
  · rintro Req Res shim old rfl
    exact serveAlpha_eq shim old ∅

/-! ## A service, what it depends on, and the reflection services -/

namespace Hats

/-- The hat service, the file of its messages, and the two reflection services. -/
inductive Proto
  | hat
  | size
  | reflection
  | reflectionAlpha
  deriving DecidableEq

instance : Fintype Proto :=
  ⟨{.hat, .size, .reflection, .reflectionAlpha}, fun file => by cases file <;> decide⟩

def makeHat : DescService :=
  ⟨⟨"Haberdasher", by decide, by decide⟩, [⟨"MakeHat", by decide, by decide⟩]⟩

def reflect : DescService :=
  ⟨⟨"ServerReflection", by decide, by decide⟩, [⟨"ServerReflectionInfo", by decide, by decide⟩]⟩

def contents : Proto → DescFile
  | .hat => ⟨"hat.proto", "hat", [], [], [makeHat], []⟩
  | .size => ⟨"size.proto", "size", [], [], [], []⟩
  | .reflection => ⟨"reflection.proto", "grpc.reflection.v1", [], [], [reflect], []⟩
  | .reflectionAlpha => ⟨"alpha.proto", "grpc.reflection.v1alpha", [], [], [reflect], []⟩

def files : Files Proto where
  contents := contents
  dependencies file := if file = .hat then [.size] else []
  unique := by decide

def serverReflection : Desc Proto DescService :=
  ⟨.reflection, "grpc.reflection.v1.ServerReflection", reflect⟩

def serverReflectionAlpha : Desc Proto DescService :=
  ⟨.reflectionAlpha, "grpc.reflection.v1alpha.ServerReflection", reflect⟩

/-- The services of a file and their methods, with their names. -/
def declarations (file : Proto) : List (Decl × String) :=
  (contents file).services.flatMap fun s =>
    (.service s, qualify (contents file).package s.name)
      :: s.methods.map fun v =>
          (.method, qualify (qualify (contents file).package s.name) v)

/-- Those of all files. -/
def allDeclarations : List (Proto × Decl × String) :=
  [.hat, .size, .reflection, .reflectionAlpha].flatMap fun file =>
    (declarations file).map fun d => (file, d)

theorem not_hasMessage {file : Proto} {n : String} {m : DescMessage} :
    ¬ HasMessage (contents file) n m := by
  intro h
  induction h with
  | top hm => cases file <;> cases hm
  | nested _ _ ih => exact ih

theorem not_scoped {δ : Type} {own : DescFile → List δ} {nested : DescMessage → List δ}
    (hown : ∀ file, own (contents file) = []) {file : Proto} {scope : String} {x : δ} :
    ¬ Scoped own nested (contents file) scope x := by
  intro h
  cases h with
  | top hx =>
      rw [hown file] at hx
      cases hx
  | nested hm => exact not_hasMessage hm

theorem declares {file : Proto} {d : Decl} {n : String} (h : Declares (contents file) d n) :
    (file, d, n) ∈ allDeclarations := by
  have hmem : (d, n) ∈ declarations file := by
    have henums : ∀ file, (contents file).enums = [] := fun file => by cases file <;> rfl
    have hextensions : ∀ file, (contents file).extensions = [] :=
      fun file => by cases file <;> rfl
    cases h with
    | message hm => exact absurd hm not_hasMessage
    | enum he => exact absurd he (not_scoped henums)
    | service hs => exact List.mem_flatMap.mpr ⟨_, hs, List.mem_cons_self⟩
    | extension hx => exact absurd hx (not_scoped hextensions)
    | method hs hv =>
        exact List.mem_flatMap.mpr
          ⟨_, hs, List.mem_cons_of_mem _ (List.mem_map.mpr ⟨_, hv, rfl⟩)⟩
    | field hm => exact absurd hm not_hasMessage
    | oneof hm => exact absurd hm not_hasMessage
    | value he => exact absurd he (not_scoped henums)
  refine List.mem_flatMap.mpr ⟨file, ?_, List.mem_map.mpr ⟨(d, n), hmem, rfl⟩⟩
  cases file <;> decide

theorem lawful (fds : List Proto) : Lawful (⟨contents, fds⟩ : Registry Proto) where
  unique := by
    intro file file' d d' n _ _ h h'
    have hnodup : (allDeclarations.map fun d => d.2.2).Nodup := by decide
    have heq : (file, d, n) = (file', d', n) :=
      List.inj_on_of_nodup_map hnodup (declares h) (declares h') rfl
    exact ⟨congrArg Prod.fst heq, congrArg (fun d => d.2.1) heq⟩
  packages := by
    intro file file' d _ _ h
    have hnames : ∀ file' : Proto,
        (contents file').package ∉ allDeclarations.map fun d => d.2.2 := by decide
    exact hnames file' (List.mem_map.mpr ⟨_, declares h, rfl⟩)

/-- The hat service is registered by its file. -/
theorem declaredIn : ∀ desc ∈ registered serverReflection serverReflectionAlpha [.file .hat],
    DeclaredIn files desc := by
  intro desc hdesc
  rcases List.mem_cons.mp hdesc with rfl | hdesc
  · trivial
  · rcases List.mem_cons.mp hdesc with rfl | hdesc
    · exact mem_allServices.mpr ⟨List.mem_singleton.mpr rfl, by decide⟩
    · obtain rfl := List.mem_singleton.mp hdesc
      exact mem_allServices.mpr ⟨List.mem_singleton.mpr rfl, by decide⟩

/-- A client that lists the services and asks for the first one. -/
def requests : List ServerReflectionRequest :=
  [⟨"", some (.listServices "")⟩,
    ⟨"", some (.fileContainingSymbol "hat.Haberdasher")⟩]

end Hats

/-- The file and what it depends on are sent. -/
theorem discovery_hats :
    (∃ res ∈ (serverReflectionInfo Hats.files Hats.serverReflection Hats.serverReflectionAlpha
        [.file .hat] Hats.requests).1,
      res.originalRequest.messageRequest = some (.fileContainingSymbol "hat.Haberdasher"))
      ∧ Hats.Proto.size ∈ sentFiles (serverReflectionInfo Hats.files Hats.serverReflection
          Hats.serverReflectionAlpha [.file .hat] Hats.requests).1 := by
  have hall := discovery Hats.files Hats.serverReflection Hats.serverReflectionAlpha
    [.file .hat] (Hats.lawful _) Hats.declaredIn Hats.requests
  have hasked : ∃ res ∈ (serverReflectionInfo Hats.files Hats.serverReflection
        Hats.serverReflectionAlpha [.file .hat] Hats.requests).1,
      res.originalRequest.messageRequest = some (.fileContainingSymbol "hat.Haberdasher") := by
    have hmem : (⟨"", some (.fileContainingSymbol "hat.Haberdasher")⟩ : ServerReflectionRequest)
        ∈ (serverReflectionInfo Hats.files Hats.serverReflection Hats.serverReflectionAlpha
            [.file .hat] Hats.requests).1.map ServerReflectionResponse.originalRequest := by
      rw [hall.1.answered]
      exact List.mem_cons_of_mem _ List.mem_cons_self
    obtain ⟨res, hres, heq⟩ := List.mem_map.mp hmem
    exact ⟨res, hres, by rw [heq]⟩
  refine ⟨hasked, hall.1.resolvable (.file .hat) List.mem_cons_self "hat.Haberdasher" ?_ hasked
    .size ?_⟩
  · exact List.mem_map.mpr ⟨_, mem_allServices.mpr ⟨List.mem_singleton.mpr rfl, rfl⟩, by decide⟩
  · exact .single (List.mem_singleton.mpr rfl)

end ConnectDiscovery
