import ConnectPy.ErrorsProofs
import ConnectPy.SymbolLookupProofs
import ConnectPy.WorklistProofs
import Mathlib.Data.Finset.Sort
import Mathlib.Data.String.Basic

/-! # Reflection — a file, and what it depends on

    A client that asks for a file gets the file and behind it all that it depends on,
    as far as the stream has not sent it before.  `_file_descriptor_with_dependencies`
    stops at every file that was seen and does not look at what that one depends on.

    That is right because what was seen is closed under dependencies between any two
    calls (`Kept`).  A call keeps it (`Kept.withDependencies`), so a sequence of calls
    does (`Kept.calls`), and both a stream and the registry are such sequences. -/

namespace ConnectReflection

open ConnectErrors ConnectSymbols Worklist

/-- Files with distinct names, and what each depends on. -/
structure Files (F : Type) where
  contents     : F → DescFile
  dependencies : F → List F
  unique       : Function.Injective fun file => (contents file).name

variable {F : Type}

/-- `DescFile.name`. -/
def Files.name (g : Files F) (file : F) : String := (g.contents file).name

variable [Fintype F]

/-! ## The traversal -/

/-- `_file_descriptor_with_dependencies`, drained: the files, and the names seen then. -/
def fileDescriptorWithDependencies (g : Files F) (root : F) (seen : Finset String) :
    List F × Finset String :=
  let r := explore g.name g.dependencies (insert (g.name root) seen) (g.dependencies root)
  (root :: r.1, r.2)

/-- One call after the other, with one set. -/
def calls (g : Files F) : List F → Finset String → List (List F) × Finset String
  | [], seen => ([], seen)
  | root :: roots, seen =>
      let r := fileDescriptorWithDependencies g root seen
      let s := calls g roots r.2
      (r.1 :: s.1, s.2)

/-! ## The registry -/

/-- `DescFile | DescService`. -/
inductive Described (F : Type)
  | file (file : F)
  | service (desc : Desc F DescService)

/-- The file of a descriptor. -/
def Described.root : Described F → F
  | .file f => f
  | .service desc => desc.file

/-- The names of its services. -/
def Described.serviceNames (g : Files F) : Described F → List String
  | .file f => (g.contents f).allServices.map Prod.fst
  | .service desc => [desc.typeName]

/-- The descriptors that were given, and those of the reflection services. -/
def registered (serverReflection serverReflectionAlpha : Desc F DescService)
    (descs : List (Described F)) : List (Described F) :=
  descs ++ [.service serverReflection, .service serverReflectionAlpha]

/-- `_resolve_registry`; `serverReflection` and `serverReflectionAlpha` are the descriptors
    of the two reflection services. -/
def resolveRegistry (g : Files F) (serverReflection serverReflectionAlpha : Desc F DescService)
    (descs : List (Described F)) : Registry F × List String :=
  let all := registered serverReflection serverReflectionAlpha descs
  let fds := (calls g (all.map Described.root) ∅).1.flatten
  let serviceNames := (all.flatMap fun desc => desc.serviceNames g).toFinset
  (⟨g.contents, fds⟩, serviceNames.sort (· ≤ ·))

/-! ## Requests and responses -/

/-- The oneof `message_request`. -/
inductive MessageRequest
  | fileByFilename (filename : String)
  | fileContainingSymbol (symbol : String)
  | fileContainingExtension (containingType : String) (extensionNumber : Int)
  | allExtensionNumbersOfType (containingType : String)
  | listServices (content : String)

structure ServerReflectionRequest where
  host           : String
  messageRequest : Option MessageRequest

/-- The oneof `message_response`; a file stands for its serialized descriptor. -/
inductive MessageResponse (F : Type)
  | fileDescriptorResponse (fileDescriptorProto : List F)
  | allExtensionNumbersResponse (baseTypeName : String) (extensionNumber : List Int)
  | listServicesResponse (service : List String)
  | errorResponse (errorCode : Int) (errorMessage : String)

structure ServerReflectionResponse (F : Type) where
  validHost       : String
  originalRequest : ServerReflectionRequest
  messageResponse : MessageResponse F

/-- `Registry.file`. -/
def registryFile (registry : Registry F) (filename : String) : Option F :=
  registry.files.find? fun file => (registry.contents file).name = filename

/-- `Registry.extension_for`. -/
def extensionFor (registry : Registry F) (containingType : String) (extensionNumber : Int) :
    Option (Desc F DescExtension) :=
  (registry.all DescFile.allExtensions).find? fun d =>
    d.desc.extendee = containingType ∧ d.desc.number = extensionNumber

/-- `_create_file_response`. -/
def createFileResponse (g : Files F) (desc : Option F) (seen : Finset String) :
    MessageResponse F × Finset String :=
  match desc with
  | none => (.errorResponse 5 "symbol not found", seen)
  | some root =>
      let r := fileDescriptorWithDependencies g root seen
      (.fileDescriptorResponse r.1, r.2)

/-- The file that a request asks for, as far as it asks for a file. -/
def requestedFile (registry : Registry F) : MessageRequest → Option F
  | .fileByFilename filename => registryFile registry filename
  | .fileContainingSymbol symbol => findFileForSymbol registry symbol
  | .fileContainingExtension containingType extensionNumber =>
      (extensionFor registry containingType extensionNumber).map Desc.file
  | .allExtensionNumbersOfType _ => none
  | .listServices _ => none

/-- What `_handle_request` answers with, and the names seen then. -/
def messageResponse (g : Files F) (registry : Registry F) (serviceNames : List String)
    (req : MessageRequest) (seen : Finset String) : MessageResponse F × Finset String :=
  match req with
  | .allExtensionNumbersOfType containingType =>
      match registry.message containingType with
      | none => createFileResponse g none seen
      | some _ =>
          let nums := ((registry.all DescFile.allExtensions).filter fun d =>
            d.desc.extendee = containingType).map fun d => d.desc.number
          (.allExtensionNumbersResponse containingType nums, seen)
  | .listServices _ => (.listServicesResponse serviceNames, seen)
  | req => createFileResponse g (requestedFile registry req) seen

/-- `_handle_request`. -/
def handleRequest (g : Files F) (registry : Registry F) (serviceNames : List String)
    (req : ServerReflectionRequest) (seen : Finset String) :
    Except ConnectError (ServerReflectionResponse F × Finset String) :=
  match req.messageRequest with
  | none => .error ⟨.invalidArgument, "invalid request", []⟩
  | some message =>
      let r := messageResponse g registry serviceNames message seen
      .ok (⟨req.host, req, r.1⟩, r.2)

/-- The loop of `server_reflection_info`: the responses that are yielded, and the error
    that ends it. -/
def serve (g : Files F) (registry : Registry F) (serviceNames : List String) :
    List ServerReflectionRequest → Finset String →
      List (ServerReflectionResponse F) × Option ConnectError
  | [], _ => ([], none)
  | req :: requests, seen =>
      match handleRequest g registry serviceNames req seen with
      | .error e => ([], some e)
      | .ok (res, seen) =>
          let s := serve g registry serviceNames requests seen
          (res :: s.1, s.2)

/-- `server_reflection_info` of a service over these descriptors. -/
def serverReflectionInfo (g : Files F) (serverReflection serverReflectionAlpha : Desc F DescService)
    (descs : List (Described F)) (requests : List ServerReflectionRequest) :
    List (ServerReflectionResponse F) × Option ConnectError :=
  let r := resolveRegistry g serverReflection serverReflectionAlpha descs
  serve g r.1 r.2 requests ∅

/-! ## Between two calls -/

/-- What was seen are the names of what was yielded, and it is closed under dependencies. -/
structure Kept (g : Files F) (yielded : List F) (seen : Finset String) : Prop where
  seen_iff : ∀ k, k ∈ seen ↔ ∃ file ∈ yielded, g.name file = k
  closed   : Closed g.name g.dependencies seen

variable {g : Files F} {yielded : List F} {seen : Finset String}

omit [Fintype F] in
theorem kept_start (g : Files F) : Kept g [] ∅ where
  seen_iff k := by simp
  closed file h := absurd h (Finset.notMem_empty _)

namespace Kept

omit [Fintype F] in
/-- Names are unique, so a file whose name was seen was yielded. -/
theorem mem_iff (h : Kept g yielded seen) (file : F) : g.name file ∈ seen ↔ file ∈ yielded := by
  rw [h.seen_iff]
  constructor
  · rintro ⟨other, hmem, hname⟩
    exact g.unique hname ▸ hmem
  · intro hmem
    exact ⟨file, hmem, rfl⟩

omit [Fintype F] in
/-- What was yielded is closed under dependencies, in any number of steps. -/
theorem leads (h : Kept g yielded seen) {root file : F} (hroot : root ∈ yielded)
    (hleads : Leads g.dependencies root file) : file ∈ yielded :=
  (h.mem_iff file).mp (h.closed.leads ((h.mem_iff root).mpr hroot) hleads)

/-- **A call keeps it.** -/
theorem withDependencies (h : Kept g yielded seen) (root : F) :
    Kept g (yielded ++ (fileDescriptorWithDependencies g root seen).1)
      (fileDescriptorWithDependencies g root seen).2 where
  seen_iff k := by
    rw [fileDescriptorWithDependencies]
    dsimp only
    rw [mem_explore, Finset.mem_insert, h.seen_iff]
    constructor
    · rintro ((rfl | ⟨file, hfile, hk⟩) | ⟨file, hfile, hk⟩)
      · exact ⟨root, List.mem_append_right _ List.mem_cons_self, rfl⟩
      · exact ⟨file, List.mem_append_left _ hfile, hk⟩
      · exact ⟨file, List.mem_append_right _ (List.mem_cons_of_mem _ hfile), hk⟩
    · rintro ⟨file, hfile, hk⟩
      rcases List.mem_append.mp hfile with hfile | hfile
      · exact Or.inl (Or.inr ⟨file, hfile, hk⟩)
      · rcases List.mem_cons.mp hfile with rfl | hfile
        · exact Or.inl (Or.inl hk.symm)
        · exact Or.inr ⟨file, hfile, hk⟩
  closed := by
    refine explore_closed g.unique fun file hfile m hm => ?_
    rcases Finset.mem_insert.mp hfile with heq | hfile
    · -- What the root depends on is the queue.
      obtain rfl := g.unique heq
      exact Or.inr hm
    · exact Or.inl (Finset.mem_insert_of_mem (h.closed file hfile m hm))

/-- And so does a sequence of calls. -/
theorem calls (roots : List F) {yielded : List F} {seen : Finset String}
    (h : Kept g yielded seen) :
    Kept g (yielded ++ (calls g roots seen).1.flatten)
      (ConnectReflection.calls g roots seen).2 := by
  induction roots generalizing yielded seen with
  | nil =>
      rw [ConnectReflection.calls, List.flatten_nil, List.append_nil]
      exact h
  | cons root roots ih =>
      rw [ConnectReflection.calls]
      dsimp only
      rw [List.flatten_cons, ← List.append_assoc]
      exact ih (h.withDependencies root)

end Kept

/-! ## One call -/

/-- What a call yields, behind what was yielded before. -/
structure Sent (g : Files F) (before : List F) (root : F) (fds : List F) : Prop where
  rootFirst : fds.head? = some root
  once      : fds.Nodup
  fresh     : ∀ file ∈ fds, file ≠ root → file ∉ before
  complete  : ∀ file, Leads g.dependencies root file → file ∈ before ++ fds
  needed    : ∀ file ∈ fds, Leads g.dependencies root file

theorem sent_withDependencies (h : Kept g yielded seen) (root : F) :
    Sent g yielded root (fileDescriptorWithDependencies g root seen).1 where
  rootFirst := rfl
  once := by
    obtain ⟨hnodup, hfresh⟩ :=
      explore_fresh g.name g.dependencies (insert (g.name root) seen) (g.dependencies root)
    refine List.nodup_cons.mpr ⟨fun hroot => ?_, List.Nodup.of_map _ hnodup⟩
    exact hfresh root hroot (Finset.mem_insert_self _ _)
  fresh := by
    obtain ⟨-, hfresh⟩ :=
      explore_fresh g.name g.dependencies (insert (g.name root) seen) (g.dependencies root)
    intro file hfile hne hbefore
    have hmem := (List.mem_cons.mp hfile).resolve_left hne
    exact hfresh file hmem (Finset.mem_insert_of_mem ((h.mem_iff file).mpr hbefore))
  complete file hleads :=
    (h.withDependencies root).leads (List.mem_append_right _ List.mem_cons_self) hleads
  needed file hfile := by
    rcases List.mem_cons.mp hfile with rfl | hfile
    · exact .refl
    · obtain ⟨dep, hdep, hleads⟩ := explore_leads _ _ file hfile
      exact .head hdep hleads

/-! ## A stream -/

/-- The files of a response. -/
def MessageResponse.files : MessageResponse F → List F
  | .fileDescriptorResponse fds => fds
  | _ => []

/-- A response either has the files of a call, or no files and leaves what was seen. -/
theorem messageResponse_cases (registry : Registry F) (serviceNames : List String)
    (req : MessageRequest) (seen : Finset String) :
    (∃ root, requestedFile registry req = some root
        ∧ messageResponse g registry serviceNames req seen
          = (.fileDescriptorResponse (fileDescriptorWithDependencies g root seen).1,
            (fileDescriptorWithDependencies g root seen).2))
      ∨ ((∀ fds, (messageResponse g registry serviceNames req seen).1
            ≠ .fileDescriptorResponse fds)
        ∧ (messageResponse g registry serviceNames req seen).2 = seen) := by
  have hfile : ∀ desc : Option F,
      (∃ root, desc = some root ∧ createFileResponse g desc seen
          = (.fileDescriptorResponse (fileDescriptorWithDependencies g root seen).1,
            (fileDescriptorWithDependencies g root seen).2))
        ∨ ((∀ fds, (createFileResponse g desc seen).1 ≠ .fileDescriptorResponse fds)
          ∧ (createFileResponse g desc seen).2 = seen) := by
    intro desc
    cases desc with
    | none => exact Or.inr ⟨(fun fds h => nomatch h), rfl⟩
    | some root => exact Or.inl ⟨root, rfl, rfl⟩
  cases req with
  | fileByFilename filename => exact hfile _
  | fileContainingSymbol symbol => exact hfile _
  | fileContainingExtension containingType extensionNumber => exact hfile _
  | allExtensionNumbersOfType containingType =>
      refine Or.inr ?_
      rw [messageResponse]
      cases registry.message containingType with
      | none => exact ⟨(fun fds h => nomatch h), rfl⟩
      | some msg => exact ⟨(fun fds h => nomatch h), rfl⟩
  | listServices content => exact Or.inr ⟨(fun fds h => nomatch h), rfl⟩

theorem Kept.messageResponse (h : Kept g yielded seen) (registry : Registry F)
    (serviceNames : List String) (req : MessageRequest) :
    Kept g (yielded ++ (messageResponse g registry serviceNames req seen).1.files)
      (messageResponse g registry serviceNames req seen).2 := by
  rcases messageResponse_cases (g := g) registry serviceNames req seen with
    ⟨root, -, heq⟩ | ⟨hnot, hseen⟩
  · rw [heq]
    exact h.withDependencies root
  · have hfiles :
        (ConnectReflection.messageResponse g registry serviceNames req seen).1.files = [] := by
      cases hres : (ConnectReflection.messageResponse g registry serviceNames req seen).1 with
      | fileDescriptorResponse fds => exact absurd hres (hnot fds)
      | allExtensionNumbersResponse | listServicesResponse | errorResponse => rfl
    rw [hfiles, hseen, List.append_nil]
    exact h

/-- The files of all responses. -/
def sentFiles (responses : List (ServerReflectionResponse F)) : List F :=
  responses.flatMap fun res => res.messageResponse.files

/-- A response with files is one call behind the files of the responses before it. -/
theorem serve_sent (registry : Registry F) (serviceNames : List String)
    {requests : List ServerReflectionRequest} {yielded : List F} {seen : Finset String}
    (h : Kept g yielded seen) {earlier later : List (ServerReflectionResponse F)}
    {res : ServerReflectionResponse F} {fds : List F}
    (hserve : (serve g registry serviceNames requests seen).1 = earlier ++ res :: later)
    (hfds : res.messageResponse = .fileDescriptorResponse fds) :
    ∃ message root, res.originalRequest.messageRequest = some message
      ∧ requestedFile registry message = some root
      ∧ Sent g (yielded ++ sentFiles earlier) root fds := by
  induction requests generalizing yielded seen earlier with
  | nil =>
      rw [serve] at hserve
      exact absurd hserve (by simp)
  | cons req requests ih =>
      rw [serve, handleRequest] at hserve
      cases hmessage : req.messageRequest with
      | none =>
          rw [hmessage] at hserve
          exact absurd hserve (by simp)
      | some message =>
          rw [hmessage] at hserve
          dsimp only at hserve
          cases earlier with
          | nil =>
              -- The response is that to the first request.
              obtain ⟨rfl, -⟩ := List.cons.inj hserve
              refine ⟨message, ?_⟩
              rcases messageResponse_cases (g := g) registry serviceNames message seen with
                ⟨root, hroot, heq⟩ | ⟨hnot, -⟩
              · refine ⟨root, hmessage, hroot, ?_⟩
                dsimp only at hfds
                rw [heq] at hfds
                obtain rfl := MessageResponse.fileDescriptorResponse.inj hfds
                rw [sentFiles, List.flatMap_nil, List.append_nil]
                exact sent_withDependencies h root
              · exact absurd hfds (hnot fds)
          | cons first earlier =>
              -- It comes later: the first response has sent its own files by then.
              obtain ⟨rfl, hrest⟩ := List.cons.inj hserve
              obtain ⟨message', root, hreq, hroot, hsent⟩ :=
                ih (h.messageResponse registry serviceNames message) hrest
              refine ⟨message', root, hreq, hroot, ?_⟩
              rw [sentFiles, List.flatMap_cons, ← List.append_assoc]
              exact hsent

/-! ## What was sent -/

/-- A call behind others, all of them with one set that is empty at first. -/
structure SentBehind (g : Files F) (earlier : List F) (root : F) : Prop where
  sent : Sent g (calls g earlier ∅).1.flatten root
    (fileDescriptorWithDependencies g root (calls g earlier ∅).2).1
  kept : Kept g
    ((calls g earlier ∅).1.flatten
      ++ (fileDescriptorWithDependencies g root (calls g earlier ∅).2).1)
    (fileDescriptorWithDependencies g root (calls g earlier ∅).2).2

theorem sentBehind (g : Files F) (earlier : List F) (root : F) : SentBehind g earlier root := by
  have hkept : Kept g (calls g earlier ∅).1.flatten (calls g earlier ∅).2 := by
    have h := (kept_start g).calls earlier
    rwa [List.nil_append] at h
  exact ⟨sent_withDependencies hkept root, hkept.withDependencies root⟩

/-- Each file of a sequence of calls is needed by a root. -/
theorem calls_needed (roots : List F) {yielded : List F} {seen : Finset String}
    (h : Kept g yielded seen) :
    ∀ file ∈ (calls g roots seen).1.flatten, ∃ root ∈ roots, Leads g.dependencies root file := by
  induction roots generalizing yielded seen with
  | nil =>
      rw [calls, List.flatten_nil]
      intro file hfile
      exact nomatch hfile
  | cons root roots ih =>
      rw [calls]
      dsimp only
      rw [List.flatten_cons]
      intro file hfile
      rcases List.mem_append.mp hfile with hfile | hfile
      · exact ⟨root, List.mem_cons_self, (sent_withDependencies h root).needed file hfile⟩
      · obtain ⟨other, hother, hleads⟩ := ih (h.withDependencies root) file hfile
        exact ⟨other, List.mem_cons_of_mem _ hother, hleads⟩

/-- And each root is yielded. -/
theorem mem_calls {roots : List F} {root : F} (hroot : root ∈ roots) (seen : Finset String) :
    root ∈ (calls g roots seen).1.flatten := by
  induction roots generalizing seen with
  | nil => exact nomatch hroot
  | cons first roots ih =>
      rw [calls]
      dsimp only
      rw [List.flatten_cons]
      rcases List.mem_cons.mp hroot with rfl | hroot
      · exact List.mem_append_left _ List.mem_cons_self
      · exact List.mem_append_right _ (ih hroot _)

/-- The registry is the transitive closure. -/
theorem mem_resolveRegistry (serverReflection serverReflectionAlpha : Desc F DescService)
    (descs : List (Described F)) (file : F) :
    file ∈ (resolveRegistry g serverReflection serverReflectionAlpha descs).1.files
      ↔ ∃ desc ∈ registered serverReflection serverReflectionAlpha descs,
          Leads g.dependencies desc.root file := by
  constructor
  · intro hfile
    obtain ⟨root, hroot, hleads⟩ := calls_needed _ (kept_start g) file hfile
    obtain ⟨desc, hdesc, rfl⟩ := List.mem_map.mp hroot
    exact ⟨desc, hdesc, hleads⟩
  · rintro ⟨desc, hdesc, hleads⟩
    have hkept := (kept_start g).calls
      ((registered serverReflection serverReflectionAlpha descs).map Described.root)
    rw [List.nil_append] at hkept
    exact hkept.leads (mem_calls (List.mem_map.mpr ⟨desc, hdesc, rfl⟩) ∅) hleads

/-- **Reflection sends every needed file, and each dependency once.** -/
theorem reflection_sends (g : Files F) :
    (∀ earlier root, SentBehind g earlier root)
      ∧ (∀ serverReflection serverReflectionAlpha descs requests earlier res later fds,
          (serverReflectionInfo g serverReflection serverReflectionAlpha descs requests).1
              = earlier ++ res :: later →
          res.messageResponse = .fileDescriptorResponse fds →
          ∃ message root, res.originalRequest.messageRequest = some message
            ∧ requestedFile (resolveRegistry g serverReflection serverReflectionAlpha descs).1
                message = some root
            ∧ Sent g (sentFiles earlier) root fds)
      ∧ ∀ serverReflection serverReflectionAlpha descs file,
          file ∈ (resolveRegistry g serverReflection serverReflectionAlpha descs).1.files
            ↔ ∃ desc ∈ registered serverReflection serverReflectionAlpha descs,
                Leads g.dependencies desc.root file := by
  refine ⟨sentBehind g, ?_, mem_resolveRegistry⟩
  intro serverReflection serverReflectionAlpha descs requests earlier res later fds hserve hfds
  exact serve_sent _ _ (kept_start g) hserve hfds

/-! ## Two files that need each other -/

/-- The second file needs the first, and the first needs the second twice. -/
def mutualFiles : Files Bool where
  contents file := ⟨if file then "b.proto" else "a.proto", "", [], [], [], []⟩
  dependencies file := if file then [false] else [true, true]
  unique := by decide

/-- Both are sent, then only what is asked for. -/
example : (calls mutualFiles [false, true] ∅).1 = [[false, true], [true]] := by
  simp [calls, fileDescriptorWithDependencies, mutualFiles, Files.name, explore]

end ConnectReflection
