import ConnectPy.OrderedDictProofs
import Mathlib.Data.List.Nodup

/-! # Names of methods — two substitutions, a keyword set and class bodies

    The generator turns the name of an RPC into snake case and escapes keywords.  The two
    regular expressions of `_pascal_to_snake_case` together put an underscore in front of
    each word, where words are found by looking at the characters on either side
    (`pascalToSnakeCase_eq`).

    So two names come out alike if they have the same words, whatever their case and
    whether underscores stand between them; and if one spells a keyword and the other the
    same with an underscore behind it (`Collide`).

    Names that differ may still be lost in the generated classes: the body of a class
    looks the names of its decorators up among its methods first, private names are
    mangled with the name of the class, and the attributes of a client hide its methods.
    A service without any of this has one Python method for each RPC (`Clear`). -/

namespace ConnectMethodNames

open OrderedDict

/-! ## Descriptors and options -/

inductive MethodKind
  | unary | clientStreaming | serverStreaming | bidiStreaming
  deriving DecidableEq

/-- An identifier. -/
structure Name where
  text  : String
  chars : (text.toList.all fun c => c.isAlphanum || c == '_') = true
  deriving DecidableEq

structure DescMethod where
  name       : Name
  methodKind : MethodKind
  deprecated : Bool
  deriving DecidableEq

/-- The methods of a service have distinct names. -/
structure DescService where
  name     : String
  typeName : String
  methods  : List DescMethod
  distinct : (methods.map DescMethod.name).Nodup

/-- `_ProtobufOption`. -/
inductive ProtobufOption
  | google | py
  deriving DecidableEq

/-- `_IOOption`. -/
inductive CallOption
  | sync | async
  deriving DecidableEq

structure Options where
  protobuf : ProtobufOption
  calls    : Option CallOption

/-- What the generator takes from `protobuf.plugin`: a name among the given keywords gets
    an underscore, and no other is changed. -/
structure Plugin where
  pythonKeywords         : List String
  escapePublicIdentifier : String → List String → String
  escape_keyword : ∀ name keywords, name ∈ keywords →
    escapePublicIdentifier name keywords = name ++ "_"
  escape_other : ∀ name keywords, name ∉ keywords → escapePublicIdentifier name keywords = name

/-! ## Snake case -/

/-- `_RE_UPPER_TO_LOWER.sub`: what is no underscore, a capital, and a run of small letters.
    A match goes on behind its run. -/
def upperToLower : List Char → List Char
  | c :: u :: l :: rest =>
      if c ≠ '_' ∧ u.isUpper = true ∧ l.isLower = true then
        c :: '_' :: u :: (l :: rest.takeWhile Char.isLower)
          ++ upperToLower (rest.dropWhile Char.isLower)
      else c :: upperToLower (u :: l :: rest)
  | text => text
termination_by text => text.length
decreasing_by
  · have hle := (List.dropWhile_sublist Char.isLower (l := rest)).length_le
    simp only [List.length_cons]
    omega
  · simp

/-- `_RE_LOWER_TO_UPPER.sub`: a small letter and a capital. -/
def lowerToUpper : List Char → List Char
  | c :: u :: rest =>
      if c.isLower = true ∧ u.isUpper = true then c :: '_' :: u :: lowerToUpper rest
      else c :: lowerToUpper (u :: rest)
  | text => text
termination_by text => text.length

/-- `_pascal_to_snake_case`; names are ASCII, so `lower` is that of ASCII. -/
def pascalToSnakeCase (text : String) : String :=
  String.ofList ((lowerToUpper (upperToLower text.toList)).map Char.toLower)

/-- `_KEYWORDS`, behind those of Python. -/
def members : List String :=
  ["desc", "execute_unary", "execute_client_stream", "execute_server_stream",
    "execute_bidi_stream"]

def keywords (plugin : Plugin) : List String := plugin.pythonKeywords ++ members

/-- `_method_local_name`. -/
def methodLocalName (plugin : Plugin) (method : DescMethod) : String :=
  plugin.escapePublicIdentifier (pascalToSnakeCase method.name.text) (keywords plugin)

/-- `_method_url`. -/
def methodUrl (service : DescService) (method : DescMethod) : String :=
  "/" ++ service.typeName ++ "/" ++ method.name.text

/-! ## Classes of Python -/

/-- Two underscores in front of a name and not behind it. -/
def isPrivate (name : String) : Bool :=
  name.toList.take 2 == ['_', '_'] && name.toList.reverse.take 2 != ['_', '_']

/-- A class without the underscores in front of its name. -/
def strippedClass (cls : String) : List Char := cls.toList.dropWhile (· == '_')

/-- A name as it is compiled in the body of a class, be it a definition or an attribute. -/
def mangle (cls name : String) : String :=
  if isPrivate name && !(strippedClass cls).isEmpty then
    String.ofList ('_' :: strippedClass cls ++ name.toList)
  else name

/-- The two generated classes that have a method for each RPC. -/
inductive ClassKind
  | service | client
  deriving DecidableEq

/-- The names that a version of Python keeps for itself in a class, so that a method under
    such a name is not simply found: special ones, and those of `abc` and `typing`. -/
structure Python where
  keeps : ClassKind → String → Bool
  /-- All of them begin with an underscore. -/
  keeps_public : ∀ kind name, name.toList.head? ≠ some '_' → keeps kind name = false
  /-- An object is made by its `__init__`. -/
  keeps_init : ∀ kind, keeps kind "__init__" = true

/-- What a name stands for in a generated class. -/
inductive Member
  | rpc (method : DescMethod)
  | desc
  | init
  | execute (kind : MethodKind)
  | attribute
  deriving DecidableEq

/-- A statement of the body of a class: a definition under its decorators. -/
structure Definition where
  decorators : List String
  name       : String
  member     : Member

/-- The body of a class.  The name of a decorator is looked up among the definitions
    before it first; one of these is no decorator, and raises when it is called as one. -/
def runBody (cls : String) : Dict String Member → List Definition → Option (Dict String Member)
  | scope, [] => some scope
  | scope, d :: body =>
      if d.decorators.any fun name => scope.contains (mangle cls name) then none
      else runBody cls (scope.insert (mangle cls d.name) d.member) body

/-! ## The generated classes -/

/-- `_client_execute_method`. -/
def clientExecuteMethod : MethodKind → String
  | .unary => "execute_unary"
  | .clientStreaming => "execute_client_stream"
  | .serverStreaming => "execute_server_stream"
  | .bidiStreaming => "execute_bidi_stream"

/-- `_endpoint_type`. -/
def endpointType : MethodKind → String
  | .unary => "unary"
  | .clientStreaming => "client_stream"
  | .serverStreaming => "server_stream"
  | .bidiStreaming => "bidi_stream"

/-- An entry of the endpoint table. -/
structure Endpoint where
  endpointType : String
  name         : String
  serviceName  : String
  function     : Option Member
  deriving DecidableEq

/-- The names of the classes that `_generate_async_stubs` and `_generate_sync_stubs`
    generate. -/
structure Stubs where
  service     : String
  application : String
  client      : String

def asyncStubs (serviceName : String) : Stubs :=
  ⟨serviceName, serviceName ++ "ASGIApplication", serviceName ++ "Client"⟩

def syncStubs (serviceName : String) : Stubs :=
  ⟨serviceName ++ "Sync", serviceName ++ "WSGIApplication", serviceName ++ "ClientSync"⟩

/-- The classes of a service, none where the body raises; and the endpoint table of an
    application, none where an attribute of the service is missing. -/
structure Classes where
  service   : Option (Dict String Member)
  endpoints : Option (Dict String Endpoint)
  client    : Option (Dict String Member)

/-- The definition of a method, under what `_maybe_print_deprecated` prints. -/
def methodDefinition (plugin : Plugin) (method : DescMethod) : Definition :=
  ⟨if method.deprecated then ["_deprecated"] else [], methodLocalName plugin method,
    .rpc method⟩

/-- `_generate_desc_method`. -/
def descMethod : ProtobufOption → List Definition
  | .py => [⟨["classmethod"], "desc", .desc⟩]
  | .google => []

/-- `_print_google_compat_client_init`. -/
def clientInit : ProtobufOption → List Definition
  | .google => [⟨[], "__init__", .init⟩]
  | .py => []

/-- The body of the class of a service: its methods in their order, then `desc`. -/
def serviceBody (plugin : Plugin) (options : Options) (service : DescService) :
    List Definition :=
  service.methods.map (methodDefinition plugin) ++ descMethod options.protobuf

/-- The body of the class of a client. -/
def clientBody (plugin : Plugin) (options : Options) (service : DescService) :
    List Definition :=
  clientInit options.protobuf ++ service.methods.map (methodDefinition plugin)

/-- What a client class inherits and needs. -/
def connectClient : Dict String Member :=
  Dict.insertAll clientExecuteMethod .execute Dict.empty
    [.unary, .clientStreaming, .serverStreaming, .bidiStreaming]

/-- What `ConnectClient.__init__` and `ConnectClientSync.__init__` set on a client. -/
def clientAttributes : List String :=
  ["_address", "_codec", "_response_compressions", "_accept_compression_header",
    "_send_compression", "_timeout_ms", "_read_max_bytes", "_http_client", "_closed",
    "_protocol", "_execute_unary", "_execute_client_stream", "_execute_server_stream",
    "_execute_bidi_stream"]

/-- An attribute of a service. -/
def serviceAttribute (python : Python) (cls : Dict String Member) (name : String) :
    Option Member :=
  if python.keeps .service name then none else cls.get? name

/-- An attribute of a client: its own come before those of its class. -/
def clientAttribute (python : Python) (cls : Dict String Member) (name : String) :
    Option Member :=
  if python.keeps .client name then none
  else if name ∈ clientAttributes then some .attribute
  else (cls.get? name).or (connectClient.get? name)

/-- The endpoint table; a handler is the attribute of the service under its name. -/
def endpointTable (plugin : Plugin) (service : DescService) (svc : String → Option Member) :
    Dict String Endpoint :=
  Dict.insertAll (methodUrl service)
    (fun method => ⟨endpointType method.methodKind, method.name.text, service.typeName,
      svc (methodLocalName plugin method)⟩)
    Dict.empty service.methods

/-- The table as an application evaluates it, within its own class. -/
def endpoints (python : Python) (plugin : Plugin) (stubs : Stubs) (service : DescService)
    (cls : Dict String Member) : Option (Dict String Endpoint) :=
  let svc := fun name => serviceAttribute python cls (mangle stubs.application name)
  if service.methods.all fun method => (svc (methodLocalName plugin method)).isSome then
    some (endpointTable plugin service svc)
  else none

/-- `_generate_async_stubs` and `_generate_sync_stubs`, which differ in the names of the
    classes. -/
def generateStubs (python : Python) (plugin : Plugin) (options : Options) (stubs : Stubs)
    (service : DescService) : Classes :=
  let cls := runBody stubs.service Dict.empty (serviceBody plugin options service)
  ⟨cls, cls.bind (endpoints python plugin stubs service),
    runBody stubs.client Dict.empty (clientBody plugin options service)⟩

/-- What `_generate_file` generates for a service. -/
def generate (python : Python) (plugin : Plugin) (options : Options) (service : DescService) :
    List Classes :=
  let serviceName := plugin.escapePublicIdentifier service.name plugin.pythonKeywords
  (if options.calls ≠ some .sync then
      [generateStubs python plugin options (asyncStubs serviceName) service] else [])
    ++ if options.calls ≠ some .async then
      [generateStubs python plugin options (syncStubs serviceName) service] else []

/-! ## Words -/

/-- A capital starts a word behind a small letter, or in front of one unless an underscore
    is there already. -/
def startsWord (previous c : Char) (rest : List Char) : Bool :=
  c.isUpper && (previous.isLower || (previous != '_' && rest.head?.any Char.isLower))

/-- A character in front of the first word. -/
def addFirst (c : Char) : List (List Char) → List (List Char)
  | [] => [[c]]
  | word :: words => (c :: word) :: words

/-- The words of a name, in small letters: what stands between underscores, cut where a
    word starts. -/
def words (previous : Char) : List Char → List (List Char)
  | [] => [[]]
  | c :: rest =>
      if c = '_' then [] :: words c rest
      else if startsWord previous c rest then [] :: addFirst c.toLower (words c rest)
      else addFirst c.toLower (words c rest)

/-- Nothing stands in front of the first character. -/
def nameWords (name : String) : List (List Char) := words '_' name.toList

/-- The words with underscores between them. -/
def spelled (name : String) : String := String.ofList (List.intercalate ['_'] (nameWords name))

/-! ## The substitutions, character by character -/

/-- What the second substitution does behind a character. -/
def cutLower (previous : Char) : List Char → List Char
  | [] => []
  | c :: rest =>
      if previous.isLower && c.isUpper then '_' :: c :: cutLower c rest else c :: cutLower c rest

/-- An underscore in front of each word. -/
def cutWords (previous : Char) : List Char → List Char
  | [] => []
  | c :: rest =>
      if startsWord previous c rest then '_' :: c :: cutWords c rest else c :: cutWords c rest

theorem not_upper_of_lower {c : Char} (h : c.isLower = true) : c.isUpper = false := by
  have hlower : 'a'.val ≤ c.val := of_decide_eq_true (Bool.and_eq_true_iff.mp h).1
  have hnot : ¬ ('A'.val ≤ c.val ∧ c.val ≤ 'Z'.val) := fun hupper =>
    absurd (UInt32.le_trans hlower hupper.2) (by decide)
  exact decide_eq_false hnot

theorem not_lower_of_upper {c : Char} (h : c.isUpper = true) : c.isLower = false := by
  cases hlower : c.isLower with
  | false => rfl
  | true =>
      rw [not_upper_of_lower hlower] at h
      exact nomatch h

theorem lowerToUpper_eq (text : List Char) : lowerToUpper text = cutLower '_' text := by
  have hfirst : ∀ previous c rest, Char.isLower previous = false →
      cutLower previous (c :: rest) = c :: cutLower c rest := by
    intro previous c rest h
    rw [cutLower, h, Bool.false_and, if_neg Bool.false_ne_true]
  have hlow : Char.isLower '_' = false := by decide
  induction text using lowerToUpper.induct with
  | case1 c u rest h ih =>
      have hu := not_lower_of_upper h.2
      rw [lowerToUpper, if_pos h, hfirst '_' c _ hlow, cutLower, h.1, h.2, Bool.and_true,
        if_pos rfl, ih]
      -- A capital is no small letter, so the next match may start behind it.
      cases rest with
      | nil => rfl
      | cons d rest => rw [hfirst '_' d _ hlow, hfirst u d _ hu]
  | case2 c u rest h ih =>
      rw [lowerToUpper, if_neg h, hfirst '_' c _ hlow, ih, hfirst '_' u _ hlow, cutLower, if_neg]
      rw [Bool.and_eq_true]
      exact h
  | case3 text h =>
      match text, h with
      | [], _ => simp [lowerToUpper, cutLower]
      | [c], _ => simp [lowerToUpper, cutLower, hlow]
      | c :: u :: rest, h => exact absurd rfl (h c u rest)

/-- Where a match of the first substitution cannot begin at the character before. -/
def Follows (previous : Char) (text : List Char) : Prop :=
  previous.isLower = true ∨ previous = '_'
    ∨ ¬ ∃ u l rest, text = u :: l :: rest ∧ u.isUpper = true ∧ l.isLower = true

/-- There a word starts only behind a small letter. -/
theorem startsWord_of_follows {previous c : Char} {rest : List Char}
    (h : Follows previous (c :: rest)) :
    startsWord previous c rest = (previous.isLower && c.isUpper) := by
  rw [startsWord, Bool.and_comm]
  rcases h with hlower | rfl | hnone
  · rw [hlower, Bool.true_or]
  · rw [show Char.isLower '_' = false from by decide]
    simp
  · cases hupper : c.isUpper with
    | false => rw [Bool.and_false, Bool.and_false]
    | true =>
        have hhead : rest.head?.any Char.isLower = false := by
          cases rest with
          | nil => rfl
          | cons l rest =>
              rw [List.head?_cons, Option.any_some]
              by_contra hl
              exact hnone ⟨c, l, rest, rfl, hupper, Bool.not_eq_false _ ▸ hl⟩
        rw [hhead, Bool.and_false, Bool.or_false]

/-- No word starts within a run of small letters. -/
theorem cut_run {run : List Char} (hrun : ∀ c ∈ run, c.isLower = true) (previous : Char)
    (text : List Char) :
    cutLower previous (run ++ text) = run ++ cutLower (run.getLastD previous) text
      ∧ cutWords previous (run ++ text) = run ++ cutWords (run.getLastD previous) text := by
  induction run generalizing previous with
  | nil => exact ⟨rfl, rfl⟩
  | cons c run ih =>
      have hc := not_upper_of_lower (hrun c List.mem_cons_self)
      obtain ⟨hlower, hwords⟩ := ih (fun d hd => hrun d (List.mem_cons_of_mem _ hd)) c
      have hstarts : startsWord previous c (run ++ text) = false := by
        rw [startsWord, hc, Bool.false_and]
      rw [List.cons_append, List.getLastD_cons]
      constructor
      · rw [cutLower, hc, Bool.and_false, if_neg Bool.false_ne_true, hlower, List.cons_append]
      · rw [cutWords, hstarts, if_neg Bool.false_ne_true, hwords, List.cons_append]

theorem isLower_getLastD {run : List Char} (hrun : ∀ c ∈ run, c.isLower = true) {l : Char}
    (hl : l.isLower = true) : (run.getLastD l).isLower = true := by
  induction run generalizing l with
  | nil => exact hl
  | cons c run ih =>
      rw [List.getLastD_cons]
      exact ih (fun d hd => hrun d (List.mem_cons_of_mem _ hd)) (hrun c List.mem_cons_self)

/-- **The two substitutions** put an underscore in front of each word. -/
theorem cutLower_upperToLower (text : List Char) :
    ∀ previous, Follows previous text → cutLower previous (upperToLower text)
      = cutWords previous text := by
  have hhead : ∀ previous c rest rest', Follows previous (c :: rest) →
      cutLower c rest' = cutWords c rest →
      cutLower previous (c :: rest') = cutWords previous (c :: rest) := by
    intro previous c rest rest' hfollows heq
    rw [cutLower, cutWords, startsWord_of_follows hfollows, heq]
  induction text using upperToLower.induct with
  | case1 c u l rest h ih =>
      intro previous hfollows
      obtain ⟨hc, hu, hl⟩ := h
      have hrun : ∀ d ∈ l :: rest.takeWhile Char.isLower, d.isLower = true := by
        intro d hd
        rcases List.mem_cons.mp hd with rfl | hd
        · exact hl
        · exact List.all_eq_true.mp List.all_takeWhile d hd
      have hsplit : l :: rest
          = (l :: rest.takeWhile Char.isLower) ++ rest.dropWhile Char.isLower := by
        rw [List.cons_append, List.takeWhile_append_dropWhile]
      have hlast : ((l :: rest.takeWhile Char.isLower).getLastD u).isLower = true := by
        rw [List.getLastD_cons]
        exact isLower_getLastD (fun d hd => hrun d (List.mem_cons_of_mem _ hd)) hl
      rw [upperToLower, if_pos ⟨hc, hu, hl⟩, List.cons_append]
      refine hhead previous c _ _ hfollows ?_
      -- The underscore of the match, the capital, the run, and what is behind it.
      have hstarts : startsWord c u (l :: rest) = true := by
        rw [startsWord, hu, List.head?_cons, Option.any_some, hl]
        simp [hc]
      have hpad : Char.isUpper '_' = false := by decide
      have hlow : Char.isLower '_' = false := by decide
      rw [cutWords, hstarts, if_pos rfl, List.cons_append, List.cons_append, cutLower, hpad,
        Bool.and_false, if_neg Bool.false_ne_true, cutLower, hlow, Bool.false_and,
        if_neg Bool.false_ne_true, (cut_run hrun u _).1, ih _ (Or.inl hlast), hsplit,
        (cut_run hrun u _).2]
  | case2 c u l rest h ih =>
      intro previous hfollows
      rw [upperToLower, if_neg h]
      refine hhead previous c _ _ hfollows (ih c ?_)
      by_cases hc : c = '_'
      · exact Or.inr (Or.inl hc)
      · refine Or.inr (Or.inr ?_)
        rintro ⟨_, _, _, ⟨⟩, hu, hl⟩
        exact h ⟨hc, hu, hl⟩
  | case3 text h =>
      intro previous hfollows
      have hsame : upperToLower text = text := by
        rw [upperToLower]
        exact h
      rw [hsame]
      match text, h with
      | [], _ => rfl
      | [c], _ => exact hhead previous c _ _ hfollows rfl
      | [c, u], _ =>
          refine hhead previous c _ _ hfollows (hhead c u _ _ (Or.inr (Or.inr ?_)) rfl)
          rintro ⟨u', l', rest', heq, -⟩
          exact nomatch (List.cons.inj heq).2
      | c :: u :: l :: rest, h => exact absurd rfl (h c u l rest)

/-! ## Words and snake case -/

theorem words_ne_nil (previous : Char) (text : List Char) : words previous text ≠ [] := by
  have hadd : ∀ c ws, addFirst c ws ≠ [] := by
    intro c ws
    cases ws <;> exact List.cons_ne_nil _ _
  cases text with
  | nil => exact List.cons_ne_nil _ _
  | cons c rest =>
      rw [words]
      split
      · exact List.cons_ne_nil _ _
      · split
        · exact List.cons_ne_nil _ _
        · exact hadd _ _

theorem intercalate_nil_cons {ws : List (List Char)} (h : ws ≠ []) :
    List.intercalate ['_'] ([] :: ws) = '_' :: List.intercalate ['_'] ws := by
  cases ws with
  | nil => exact absurd rfl h
  | cons w ws => rw [List.intercalate_cons_cons]; rfl

theorem intercalate_addFirst (c : Char) (ws : List (List Char)) :
    List.intercalate ['_'] (addFirst c ws) = c :: List.intercalate ['_'] ws := by
  cases ws with
  | nil => rfl
  | cons w ws =>
      cases ws with
      | nil => rw [addFirst, List.intercalate_singleton, List.intercalate_singleton]
      | cons w' ws =>
          rw [addFirst, List.intercalate_cons_cons, List.intercalate_cons_cons]
          rfl

theorem addFirst_ne_nil (c : Char) (ws : List (List Char)) : addFirst c ws ≠ [] := by
  cases ws <;> exact List.cons_ne_nil _ _

/-- The words with underscores between them are the text with the underscores put in. -/
theorem intercalate_words (previous : Char) (text : List Char) :
    List.intercalate ['_'] (words previous text)
      = (cutWords previous text).map Char.toLower := by
  have hunderscore : Char.toLower '_' = '_' := by decide
  induction text generalizing previous with
  | nil => rfl
  | cons c rest ih =>
      rw [words, cutWords]
      split
      · next hc =>
          subst hc
          have hstarts : startsWord previous '_' rest = false := by
            rw [startsWord, show Char.isUpper '_' = false from by decide, Bool.false_and]
          rw [hstarts, if_neg Bool.false_ne_true, intercalate_nil_cons (words_ne_nil _ _), ih,
            List.map_cons, hunderscore]
      · split
        · rw [intercalate_nil_cons (addFirst_ne_nil _ _), intercalate_addFirst, ih, List.map_cons,
            List.map_cons, hunderscore]
        · rw [intercalate_addFirst, ih, List.map_cons]

/-- **Snake case is the words, spelled out.** -/
theorem pascalToSnakeCase_eq (name : String) : pascalToSnakeCase name = spelled name := by
  rw [pascalToSnakeCase, lowerToUpper_eq, cutLower_upperToLower _ _ (Or.inr (Or.inl rfl)),
    ← intercalate_words]
  rfl

theorem toLower_ne_underscore {c : Char} (h : c ≠ '_') : c.toLower ≠ '_' := by
  intro heq
  delta Char.toLower at heq
  split at heq
  · next hupper =>
      have hge : 65 ≤ c.val.toNat := UInt32.le_iff_toNat_le.mp hupper.1
      have hle : c.val.toNat ≤ 90 := UInt32.le_iff_toNat_le.mp hupper.2
      have hval : (c.val + ('a'.val - 'A'.val)).toNat = 95 := by
        rw [show c.val + ('a'.val - 'A'.val) = '_'.val from congrArg Char.val heq]
        rfl
      have hsum : (c.val + ('a'.val - 'A'.val)).toNat = (c.val.toNat + 32) % 2 ^ 32 :=
        UInt32.toNat_add _ _
      omega
  · exact h heq

/-- No word has an underscore. -/
theorem words_underscore (previous : Char) (text : List Char) :
    ∀ w ∈ words previous text, '_' ∉ w := by
  have hadd : ∀ {c ws}, Char.toLower c ≠ '_' → (∀ w ∈ ws, '_' ∉ w) →
      ∀ w ∈ addFirst (Char.toLower c) ws, '_' ∉ w := by
    intro c ws hc hws w hw
    cases ws with
    | nil =>
        obtain rfl := List.mem_singleton.mp hw
        simpa using hc.symm
    | cons first ws =>
        rcases List.mem_cons.mp hw with rfl | hw
        · rw [List.mem_cons]
          rintro (h | h)
          · exact hc h.symm
          · exact hws first List.mem_cons_self h
        · exact hws w (List.mem_cons_of_mem _ hw)
  induction text generalizing previous with
  | nil => simp [words]
  | cons c rest ih =>
      rw [words]
      split
      · intro w hw
        rcases List.mem_cons.mp hw with rfl | hw
        · exact List.not_mem_nil
        · exact ih c w hw
      · next hc =>
          have hrest := hadd (toLower_ne_underscore hc) (ih c)
          split
          · intro w hw
            rcases List.mem_cons.mp hw with rfl | hw
            · exact List.not_mem_nil
            · exact hrest w hw
          · exact hrest

theorem splitOn_nameWords (name : String) :
    (List.intercalate ['_'] (nameWords name)).splitOn '_' = nameWords name :=
  List.splitOn_intercalate '_' (words_underscore _ _) (words_ne_nil _ _)

/-- So names are spelled alike only if they have the same words. -/
theorem spelled_eq_iff {a b : String} : spelled a = spelled b ↔ nameWords a = nameWords b := by
  constructor
  · intro h
    have hlist : List.intercalate ['_'] (nameWords a) = List.intercalate ['_'] (nameWords b) := by
      have hchars := congrArg String.toList h
      rwa [spelled, spelled, String.toList_ofList, String.toList_ofList] at hchars
    rw [← splitOn_nameWords a, hlist, splitOn_nameWords]
  · intro h
    rw [spelled, spelled, h]

/-! ## Collisions -/

/-- The same words, or a keyword and the same with an underscore behind it. -/
def Collide (plugin : Plugin) (a b : String) : Prop :=
  nameWords a = nameWords b
    ∨ ∃ keyword ∈ keywords plugin, spelled a = keyword ∧ spelled b = keyword ++ "_"
      ∧ keyword ++ "_" ∉ keywords plugin

/-- Two methods of a service collide. -/
def Collides (plugin : Plugin) (service : DescService) : Prop :=
  ∃ m ∈ service.methods, ∃ m' ∈ service.methods, m.name ≠ m'.name
    ∧ Collide plugin m.name.text m'.name.text

section Local

variable (plugin : Plugin)

theorem methodLocalName_keyword {m : DescMethod} (h : spelled m.name.text ∈ keywords plugin) :
    methodLocalName plugin m = spelled m.name.text ++ "_" := by
  rw [methodLocalName, pascalToSnakeCase_eq, plugin.escape_keyword _ _ h]

theorem methodLocalName_other {m : DescMethod} (h : spelled m.name.text ∉ keywords plugin) :
    methodLocalName plugin m = spelled m.name.text := by
  rw [methodLocalName, pascalToSnakeCase_eq, plugin.escape_other _ _ h]

theorem append_underscore_inj {a b : String} (h : a ++ "_" = b ++ "_") : a = b := by
  have hlist := congrArg String.toList h
  rw [String.toList_append, String.toList_append] at hlist
  exact String.toList_inj.mp (List.append_cancel_right hlist)

/-- Two methods have one name exactly where their names collide, one way or the other. -/
theorem methodLocalName_eq_iff (m m' : DescMethod) :
    methodLocalName plugin m = methodLocalName plugin m'
      ↔ Collide plugin m.name.text m'.name.text ∨ Collide plugin m'.name.text m.name.text := by
  by_cases hm : spelled m.name.text ∈ keywords plugin
  · by_cases hm' : spelled m'.name.text ∈ keywords plugin
    -- Both are escaped: the underscore takes nothing away.
    · rw [methodLocalName_keyword plugin hm, methodLocalName_keyword plugin hm']
      constructor
      · exact fun h => Or.inl (Or.inl (spelled_eq_iff.mp (append_underscore_inj h)))
      · rintro ((h | ⟨k, -, -, hspell, hnot⟩) | (h | ⟨k, -, -, hspell, hnot⟩))
        · rw [spelled_eq_iff.mpr h]
        · exact absurd (hspell ▸ hm') hnot
        · rw [spelled_eq_iff.mpr h]
        · exact absurd (hspell ▸ hm) hnot
    -- One is, and the other may be spelled with an underscore already.
    · rw [methodLocalName_keyword plugin hm, methodLocalName_other plugin hm']
      constructor
      · intro h
        exact Or.inl (Or.inr ⟨_, hm, rfl, h.symm, h ▸ hm'⟩)
      · rintro ((h | ⟨k, -, hk, hspell, -⟩) | (h | ⟨k, hk, hspell, -⟩))
        · exact absurd (spelled_eq_iff.mpr h ▸ hm) hm'
        · rw [hk, hspell]
        · exact absurd (spelled_eq_iff.mpr h ▸ hm) hm'
        · exact absurd (hspell ▸ hk) hm'
  · by_cases hm' : spelled m'.name.text ∈ keywords plugin
    · rw [methodLocalName_other plugin hm, methodLocalName_keyword plugin hm']
      constructor
      · intro h
        exact Or.inr (Or.inr ⟨_, hm', rfl, h, h ▸ hm⟩)
      · rintro ((h | ⟨k, hk, hspell, -⟩) | (h | ⟨k, -, hk, hspell, -⟩))
        · exact absurd (spelled_eq_iff.mpr h ▸ hm') hm
        · exact absurd (hspell ▸ hk) hm
        · exact absurd (spelled_eq_iff.mpr h ▸ hm') hm
        · rw [hk, hspell]
    · rw [methodLocalName_other plugin hm, methodLocalName_other plugin hm', spelled_eq_iff]
      constructor
      · exact fun h => Or.inl (Or.inl h)
      · rintro ((h | ⟨k, hk, hspell, -⟩) | (h | ⟨k, hk, hspell, -⟩))
        · exact h
        · exact absurd (hspell ▸ hk) hm
        · exact h.symm
        · exact absurd (hspell ▸ hk) hm'

/-- No member that the classes need ends in an underscore. -/
theorem append_underscore_not_member (name : String) : name ++ "_" ∉ members := by
  have hlast : ∀ member ∈ members, member.toList.getLast? ≠ some '_' := by decide
  intro h
  refine hlast _ h ?_
  rw [String.toList_append]
  exact List.getLast?_concat

/-- **No method takes the name of a member** the classes need: these are escaped. -/
theorem methodLocalName_not_member (m : DescMethod) : methodLocalName plugin m ∉ members := by
  by_cases hm : spelled m.name.text ∈ keywords plugin
  · rw [methodLocalName_keyword plugin hm]
    exact append_underscore_not_member _
  · rw [methodLocalName_other plugin hm]
    exact fun h => hm (List.mem_append_right _ h)

end Local

/-! ## Bodies of classes -/

theorem mangle_of_not_private {name : String} (h : isPrivate name = false) (cls : String) :
    mangle cls name = name := by
  rw [mangle, h, Bool.false_and, if_neg Bool.false_ne_true]

theorem length_mangle {name : String} (h : isPrivate name = true) (cls : String) :
    (mangle cls name).toList.length = name.toList.length
      + if (strippedClass cls).isEmpty then 0 else (strippedClass cls).length + 1 := by
  rw [mangle, h, Bool.true_and]
  cases hcls : (strippedClass cls).isEmpty with
  | true => simp
  | false =>
      rw [if_pos (by rfl), if_neg Bool.false_ne_true, String.toList_ofList]
      simp
      omega

/-- What is put behind a class stays behind it. -/
theorem strippedClass_append (cls suffix : String)
    (h : suffix.toList.dropWhile (· == '_') = suffix.toList) :
    (strippedClass (cls ++ suffix)).length
      = (strippedClass cls).length + suffix.toList.length := by
  rw [strippedClass, strippedClass, String.toList_append]
  induction cls.toList with
  | nil => rw [List.nil_append, h, List.dropWhile_nil, List.length_nil, Nat.zero_add]
  | cons c rest ih =>
      rw [List.cons_append, List.dropWhile_cons, List.dropWhile_cons]
      split
      · exact ih
      · simp
        omega

/-- A private name means something else in a class with a longer name. -/
theorem mangle_ne {name cls cls' : String} (h : isPrivate name = true)
    (hlonger : (strippedClass cls).length < (strippedClass cls').length) :
    mangle cls' name ≠ mangle cls name := by
  intro heq
  have hlength := congrArg (fun text => text.toList.length) heq
  have hne : (strippedClass cls').isEmpty = false := by
    rw [List.isEmpty_eq_false_iff]
    intro hnil
    rw [hnil] at hlonger
    exact Nat.not_lt_zero _ hlonger
  rw [length_mangle h, length_mangle h, hne, if_neg Bool.false_ne_true] at hlength
  split at hlength <;> omega

theorem contains_insert (d : Dict String Member) (k a : String) (v : Member) :
    (d.insert k v).contains a = false ↔ a ≠ k ∧ d.contains a = false := by
  rw [← Bool.not_eq_true, Dict.contains_iff, Dict.mem_keys_insert, ← Bool.not_eq_true,
    Dict.contains_iff, not_or]

/-- A body that comes to its end leaves its definitions, the later over the earlier. -/
theorem runBody_insertAll {cls : String} {ns ns' : Dict String Member} {body : List Definition}
    (h : runBody cls ns body = some ns') :
    ns' = Dict.insertAll (fun d => mangle cls d.name) Definition.member ns body := by
  induction body generalizing ns with
  | nil => exact (Option.some.inj h).symm
  | cons d body ih =>
      rw [runBody] at h
      split at h
      · cases h
      · exact ih h

/-- It does if no decorator has the name of a definition before it. -/
theorem runBody_isSome_iff (cls : String) (ns : Dict String Member) (body : List Definition) :
    (runBody cls ns body).isSome = true
      ↔ (∀ d ∈ body, ∀ name ∈ d.decorators, ns.contains (mangle cls name) = false)
        ∧ body.Pairwise fun d d' => ∀ name ∈ d'.decorators, mangle cls name ≠ mangle cls d.name := by
  induction body generalizing ns with
  | nil => simp [runBody]
  | cons d body ih =>
      rw [runBody, List.pairwise_cons]
      cases hany : d.decorators.any fun name => ns.contains (mangle cls name) with
      | true =>
          obtain ⟨name, hname, hcontains⟩ := List.any_eq_true.mp hany
          refine iff_of_false (by simp) fun h => ?_
          rw [h.1 d List.mem_cons_self name hname] at hcontains
          cases hcontains
      | false =>
          have hfirst : ∀ name ∈ d.decorators, ns.contains (mangle cls name) = false := by
            intro name hname
            exact Bool.not_eq_true _ ▸ List.any_eq_false.mp hany name hname
          rw [if_neg Bool.false_ne_true, ih]
          constructor
          · rintro ⟨hns, hpairs⟩
            refine ⟨?_, fun d' hd' name hname => ?_, hpairs⟩
            · intro d' hd' name hname
              rcases List.mem_cons.mp hd' with rfl | hd'
              · exact hfirst name hname
              · exact ((contains_insert _ _ _ _).mp (hns d' hd' name hname)).2
            · exact ((contains_insert _ _ _ _).mp (hns d' hd' name hname)).1
          · rintro ⟨hns, hnot, hpairs⟩
            refine ⟨fun d' hd' name hname => (contains_insert _ _ _ _).mpr ⟨?_, ?_⟩, hpairs⟩
            · exact hnot d' hd' name hname
            · exact hns d' (List.mem_cons_of_mem _ hd') name hname

/-- What a name stands for was defined under it. -/
theorem mem_of_get?_insertAll {cls : String} {body : List Definition} {k : String} {v : Member} :
    ∀ {ns : Dict String Member},
      (Dict.insertAll (fun d => mangle cls d.name) Definition.member ns body).get? k = some v →
      ns.get? k = some v ∨ ∃ d ∈ body, mangle cls d.name = k ∧ d.member = v := by
  induction body with
  | nil => exact fun h => Or.inl h
  | cons d body ih =>
      intro ns h
      rw [Dict.insertAll, List.foldl_cons] at h
      rcases ih h with h | ⟨d', hd', hk⟩
      · by_cases hk : mangle cls d.name = k
        · subst hk
          rw [Dict.get?_insert_self] at h
          exact Or.inr ⟨d, List.mem_cons_self, rfl, Option.some.inj h⟩
        · rw [Dict.get?_insert_ne _ hk] at h
          exact Or.inl h
      · exact Or.inr ⟨d', List.mem_cons_of_mem _ hd', hk⟩

/-- An end of a body keeps the definitions with distinct names. -/
theorem get?_runBody {cls : String} {body : List Definition} {ns : Dict String Member}
    (h : runBody cls Dict.empty body = some ns)
    (hnodup : (body.map fun d => mangle cls d.name).Nodup) {d : Definition} (hd : d ∈ body) :
    ns.get? (mangle cls d.name) = some d.member := by
  rw [runBody_insertAll h]
  exact Dict.get?_insertAll_mem hnodup hd _

theorem get?_runBody_none {cls : String} {body : List Definition} {ns : Dict String Member}
    (h : runBody cls Dict.empty body = some ns) {k : String}
    (hk : ∀ d ∈ body, mangle cls d.name ≠ k) : ns.get? k = none := by
  rw [runBody_insertAll h]
  exact (Dict.get?_insertAll_other hk _).trans (Dict.get?_empty k)

/-! ## One method for each RPC -/

/-- Each URL leads to the handler of its RPC, the client has a method for each, and both
    classes have the members they need. -/
structure Classes.OneToOne (python : Python) (plugin : Plugin) (options : Options)
    (service : DescService) (classes : Classes) : Prop where
  endpoints : ∃ table, classes.endpoints = some table ∧ ∀ m ∈ service.methods,
    table.get? (methodUrl service m)
      = some ⟨endpointType m.methodKind, m.name.text, service.typeName, some (.rpc m)⟩
  client : ∃ cls, classes.client = some cls
    ∧ (∀ m ∈ service.methods,
      clientAttribute python cls (methodLocalName plugin m) = some (.rpc m))
    ∧ ∀ kind, clientAttribute python cls (clientExecuteMethod kind) = some (.execute kind)
  service : ∃ cls, classes.service = some cls
    ∧ (options.protobuf = .py → cls.get? "desc" = some .desc)

/-- No two methods are merged, whatever the options. -/
structure NeverMerges (python : Python) (plugin : Plugin) (service : DescService) : Prop where
  distinct : (service.methods.map (methodLocalName plugin)).Nodup
  members  : ∀ m ∈ service.methods, methodLocalName plugin m ∉ members
  classes  : ∀ options, ∀ classes ∈ generate python plugin options service,
    classes.OneToOne python plugin options service

/-- The words of a name spelled out, with one more underscore behind a keyword. -/
def escaped (plugin : Plugin) (name : String) : String :=
  if spelled name ∈ keywords plugin then spelled name ++ "_" else spelled name

/-- What is in the way of a method in the generated classes: another method, a decorator
    of the class body under its name, the mangling, an attribute of the client, and names
    that Python keeps for itself. -/
structure Clear (python : Python) (plugin : Plugin) (service : DescService) : Prop where
  collides    : ¬ Collides plugin service
  classmethod : ∀ m ∈ service.methods, escaped plugin m.name.text ≠ "classmethod"
  deprecated  : service.methods.Pairwise fun m m' => m'.deprecated = true →
    escaped plugin m.name.text ≠ "_deprecated"
  mangled     : ∀ m ∈ service.methods, isPrivate (escaped plugin m.name.text) = false
  attributes  : ∀ m ∈ service.methods, escaped plugin m.name.text ∉ clientAttributes
  kept        : ∀ m ∈ service.methods, ∀ kind,
    python.keeps kind (escaped plugin m.name.text) = false

section Merge

variable {python : Python} {plugin : Plugin} {service : DescService}

theorem escaped_eq (m : DescMethod) : escaped plugin m.name.text = methodLocalName plugin m := by
  rw [escaped]
  split
  · next h => exact (methodLocalName_keyword plugin h).symm
  · next h => exact (methodLocalName_other plugin h).symm

/-- Distinct names are names that do not collide. -/
theorem nodup_methodLocalName_iff :
    (service.methods.map (methodLocalName plugin)).Nodup ↔ ¬ Collides plugin service := by
  have hmethods : service.methods.Nodup := service.distinct.of_map
  rw [List.nodup_map_iff_inj_on hmethods]
  constructor
  · rintro h ⟨m, hm, m', hm', hne, hcollide⟩
    exact hne (congrArg _ (h m hm m' hm' ((methodLocalName_eq_iff plugin m m').mpr
      (Or.inl hcollide))))
  · intro h m hm m' hm' heq
    by_contra hne
    have hname : m.name ≠ m'.name := fun heq =>
      hne (List.inj_on_of_nodup_map service.distinct hm hm' heq)
    rcases (methodLocalName_eq_iff plugin m m').mp heq with hcollide | hcollide
    · exact h ⟨m, hm, m', hm', hname, hcollide⟩
    · exact h ⟨m', hm', m, hm, hname.symm, hcollide⟩

/-- The URLs of a service are distinct. -/
theorem nodup_methodUrl : (service.methods.map (methodUrl service)).Nodup := by
  have hinj : ∀ a b : Name,
      "/" ++ service.typeName ++ "/" ++ a.text = "/" ++ service.typeName ++ "/" ++ b.text →
        a = b := by
    intro a b h
    have hlist := congrArg String.toList h
    simp only [String.toList_append] at hlist
    have htext : a.text = b.text := String.toList_inj.mp (List.append_cancel_left hlist)
    cases a
    cases b
    obtain rfl := htext
    rfl
  refine (List.nodup_map_iff_inj_on service.distinct.of_map).mpr ?_
  intro m hm m' hm' heq
  exact List.inj_on_of_nodup_map service.distinct hm hm' (hinj _ _ heq)

/-- The classes of a service are those of the two functions. -/
theorem mem_generate {options : Options} {classes : Classes}
    (h : classes ∈ generate python plugin options service) :
    ∃ stubs, classes = generateStubs python plugin options stubs service := by
  rw [generate] at h
  rcases List.mem_append.mp h with h | h
  · split at h
    · exact ⟨_, List.mem_singleton.mp h⟩
    · cases h
  · split at h
    · exact ⟨_, List.mem_singleton.mp h⟩
    · cases h

/-- With both kinds of stubs there are those of `_generate_async_stubs`. -/
theorem generateStubs_mem (python : Python) (plugin : Plugin) (protobuf : ProtobufOption)
    (service : DescService) :
    ∃ serviceName, generateStubs python plugin ⟨protobuf, none⟩ (asyncStubs serviceName) service
      ∈ generate python plugin ⟨protobuf, none⟩ service :=
  ⟨plugin.escapePublicIdentifier service.name plugin.pythonKeywords,
    List.mem_append_left _ (by simp)⟩

/-- The pairs of methods of which the one is under a decorator with the name of the
    other. -/
theorem pairwise_methodDefinition_iff
    (hmangled : ∀ m ∈ service.methods, isPrivate (methodLocalName plugin m) = false)
    (cls : String) :
    ((service.methods.map (methodDefinition plugin)).Pairwise fun d d' =>
        ∀ name ∈ d'.decorators, mangle cls name ≠ mangle cls d.name)
      ↔ service.methods.Pairwise fun m m' => m'.deprecated = true →
        escaped plugin m.name.text ≠ "_deprecated" := by
  have halias : mangle cls "_deprecated" = "_deprecated" := mangle_of_not_private (by decide) cls
  rw [List.pairwise_map]
  refine List.Pairwise.iff_of_mem fun {m m'} hm hm' => ?_
  have hname : mangle cls (methodDefinition plugin m).name = escaped plugin m.name.text :=
    (mangle_of_not_private (hmangled m hm) cls).trans (escaped_eq m).symm
  rw [hname]
  cases hdeprecated : m'.deprecated with
  | false =>
      refine iff_of_true ?_ (by simp)
      intro name hmem
      rw [methodDefinition, hdeprecated] at hmem
      cases hmem
  | true =>
      have hdecorators : (methodDefinition plugin m').decorators = ["_deprecated"] := by
        rw [methodDefinition, hdeprecated]
        rfl
      rw [hdecorators, List.forall_mem_singleton, halias]
      exact ⟨fun h _ heq => h heq.symm, fun h heq => h rfl heq.symm⟩

/-! ### Where nothing is in the way -/

section Clear

variable (hclear : Clear python plugin service)

include hclear

namespace Clear

theorem nodup : (service.methods.map (methodLocalName plugin)).Nodup :=
  nodup_methodLocalName_iff.mpr hclear.collides

theorem isPrivate_eq {m : DescMethod} (hm : m ∈ service.methods) :
    isPrivate (methodLocalName plugin m) = false := by
  rw [← escaped_eq m]
  exact hclear.mangled m hm

theorem mangle_eq {m : DescMethod} (hm : m ∈ service.methods) (cls : String) :
    mangle cls (methodDefinition plugin m).name = methodLocalName plugin m :=
  mangle_of_not_private (hclear.isPrivate_eq hm) cls

theorem keeps_eq {m : DescMethod} (hm : m ∈ service.methods) (kind : ClassKind) :
    python.keeps kind (methodLocalName plugin m) = false := by
  rw [← escaped_eq m]
  exact hclear.kept m hm kind

theorem map_mangle (cls : String) :
    ((service.methods.map (methodDefinition plugin)).map fun d => mangle cls d.name)
      = service.methods.map (methodLocalName plugin) := by
  rw [List.map_map]
  exact List.map_congr_left fun m hm => hclear.mangle_eq hm cls

/-- The definitions of a service have distinct names. -/
theorem nodup_serviceBody (options : Options) (cls : String) :
    ((serviceBody plugin options service).map fun d => mangle cls d.name).Nodup := by
  rw [serviceBody, List.map_append, hclear.map_mangle cls]
  cases options.protobuf with
  | google => simpa [descMethod] using hclear.nodup
  | py =>
      have hdesc : mangle cls "desc" = "desc" := mangle_of_not_private (by decide) cls
      refine List.nodup_append.mpr ⟨hclear.nodup, List.nodup_singleton _, ?_⟩
      intro name hname other hother
      obtain ⟨m, -, rfl⟩ := List.mem_map.mp hname
      obtain rfl : other = "desc" := (List.mem_singleton.mp hother).trans hdesc
      intro heq
      exact methodLocalName_not_member plugin m (heq ▸ List.mem_cons_self)

/-- Its body comes to its end. -/
theorem isSome_serviceBody (options : Options) (cls : String) :
    (runBody cls Dict.empty (serviceBody plugin options service)).isSome = true := by
  refine (runBody_isSome_iff _ _ _).mpr ⟨fun _ _ _ _ => rfl, List.pairwise_append.mpr ⟨?_, ?_, ?_⟩⟩
  · exact (pairwise_methodDefinition_iff (fun m hm => hclear.isPrivate_eq hm) cls).mpr
      hclear.deprecated
  · cases options.protobuf <;> simp [descMethod]
  · intro d hd d' hd' name hname
    obtain ⟨m, hm, rfl⟩ := List.mem_map.mp hd
    cases hprotobuf : options.protobuf with
    | google =>
        rw [hprotobuf] at hd'
        cases hd'
    | py =>
        rw [hprotobuf] at hd'
        obtain rfl := List.mem_singleton.mp hd'
        obtain rfl := List.mem_singleton.mp hname
        rw [hclear.mangle_eq hm, mangle_of_not_private (by decide), ← escaped_eq m]
        exact (hclear.classmethod m hm).symm

/-- The definitions of a client, too. -/
theorem nodup_clientBody (options : Options) (cls : String) :
    ((clientBody plugin options service).map fun d => mangle cls d.name).Nodup := by
  rw [clientBody, List.map_append, hclear.map_mangle cls]
  cases options.protobuf with
  | py => simpa [clientInit] using hclear.nodup
  | google =>
      have hinit : mangle cls "__init__" = "__init__" := mangle_of_not_private (by decide) cls
      refine List.nodup_append.mpr ⟨List.nodup_singleton _, hclear.nodup, ?_⟩
      intro name hname other hother
      obtain ⟨m, hm, rfl⟩ := List.mem_map.mp hother
      obtain rfl : name = "__init__" := (List.mem_singleton.mp hname).trans hinit
      intro heq
      have hkept := hclear.keeps_eq hm .client
      rw [← heq, python.keeps_init] at hkept
      cases hkept

theorem isSome_clientBody (options : Options) (cls : String) :
    (runBody cls Dict.empty (clientBody plugin options service)).isSome = true := by
  refine (runBody_isSome_iff _ _ _).mpr ⟨fun _ _ _ _ => rfl, List.pairwise_append.mpr ⟨?_, ?_, ?_⟩⟩
  · cases options.protobuf <;> simp [clientInit]
  · exact (pairwise_methodDefinition_iff (fun m hm => hclear.isPrivate_eq hm) cls).mpr
      hclear.deprecated
  · intro d hd d' hd' name hname
    cases hprotobuf : options.protobuf with
    | py =>
        rw [hprotobuf] at hd
        cases hd
    | google =>
        rw [hprotobuf] at hd
        obtain rfl := List.mem_singleton.mp hd
        obtain ⟨m, hm, rfl⟩ := List.mem_map.mp hd'
        rw [methodDefinition] at hname
        split at hname
        · obtain rfl := List.mem_singleton.mp hname
          rw [mangle_of_not_private (by decide), mangle_of_not_private (by decide)]
          decide
        · cases hname

/-- Each method of a service is found in its class. -/
theorem get?_service {options : Options} {name : String} {cls : Dict String Member}
    (hcls : runBody name Dict.empty (serviceBody plugin options service) = some cls)
    {m : DescMethod} (hm : m ∈ service.methods) :
    cls.get? (methodLocalName plugin m) = some (.rpc m) := by
  have hget := get?_runBody hcls (hclear.nodup_serviceBody options name)
    (List.mem_append_left _ (List.mem_map_of_mem hm))
  rwa [hclear.mangle_eq hm] at hget

theorem get?_client {options : Options} {name : String} {cls : Dict String Member}
    (hcls : runBody name Dict.empty (clientBody plugin options service) = some cls)
    {m : DescMethod} (hm : m ∈ service.methods) :
    cls.get? (methodLocalName plugin m) = some (.rpc m) := by
  have hget := get?_runBody hcls (hclear.nodup_clientBody options name)
    (List.mem_append_right _ (List.mem_map_of_mem hm))
  rwa [hclear.mangle_eq hm] at hget

/-- None of them takes the place of what a client inherits. -/
theorem get?_execute {options : Options} {name : String} {cls : Dict String Member}
    (hcls : runBody name Dict.empty (clientBody plugin options service) = some cls)
    (kind : MethodKind) : cls.get? (clientExecuteMethod kind) = none := by
  have hmember : clientExecuteMethod kind ∈ members := by
    cases kind <;> decide
  refine get?_runBody_none hcls fun d hd heq => ?_
  rcases List.mem_append.mp hd with hd | hd
  · cases hprotobuf : options.protobuf with
    | py =>
        rw [hprotobuf] at hd
        cases hd
    | google =>
        rw [hprotobuf] at hd
        obtain rfl := List.mem_singleton.mp hd
        rw [mangle_of_not_private (by decide)] at heq
        cases kind <;> exact absurd heq (by decide)
  · obtain ⟨m, hm, rfl⟩ := List.mem_map.mp hd
    rw [hclear.mangle_eq hm] at heq
    exact methodLocalName_not_member plugin m (heq ▸ hmember)

theorem serviceAttribute_eq {options : Options} {stubs : Stubs} {cls : Dict String Member}
    (hcls : runBody stubs.service Dict.empty (serviceBody plugin options service) = some cls)
    {m : DescMethod} (hm : m ∈ service.methods) :
    serviceAttribute python cls (mangle stubs.application (methodLocalName plugin m))
      = some (.rpc m) := by
  rw [mangle_of_not_private (hclear.isPrivate_eq hm), serviceAttribute, hclear.keeps_eq hm,
    if_neg Bool.false_ne_true, hclear.get?_service hcls hm]

/-- **The classes** have a method for each RPC. -/
theorem oneToOne (options : Options) (stubs : Stubs) :
    (generateStubs python plugin options stubs service).OneToOne python plugin options
      service := by
  obtain ⟨cls, hcls⟩ := Option.isSome_iff_exists.mp (hclear.isSome_serviceBody options stubs.service)
  obtain ⟨client, hclient⟩ :=
    Option.isSome_iff_exists.mp (hclear.isSome_clientBody options stubs.client)
  refine ⟨⟨endpointTable plugin service fun name =>
    serviceAttribute python cls (mangle stubs.application name), ?_, ?_⟩,
    ⟨client, hclient, ?_, ?_⟩, cls, hcls, ?_⟩
  · rw [generateStubs, hcls]
    refine if_pos (List.all_eq_true.mpr fun m hm => ?_)
    exact Option.isSome_iff_exists.mpr ⟨_, hclear.serviceAttribute_eq hcls hm⟩
  · intro m hm
    rw [endpointTable, Dict.get?_insertAll_mem nodup_methodUrl hm,
      hclear.serviceAttribute_eq hcls hm]
  · intro m hm
    have hnot : methodLocalName plugin m ∉ clientAttributes := by
      rw [← escaped_eq m]
      exact hclear.attributes m hm
    rw [clientAttribute, hclear.keeps_eq hm, if_neg Bool.false_ne_true, if_neg hnot,
      hclear.get?_client hclient hm]
    rfl
  · intro kind
    have hpublic : (clientExecuteMethod kind).toList.head? ≠ some '_' := by
      cases kind <;> decide
    rw [clientAttribute, python.keeps_public _ _ hpublic, if_neg Bool.false_ne_true,
      hclear.get?_execute hclient kind]
    cases kind <;> rfl
  · intro hpy
    have hdesc : descMethod options.protobuf = [⟨["classmethod"], "desc", .desc⟩] := by
      rw [hpy]
      rfl
    have hget := get?_runBody hcls (hclear.nodup_serviceBody options stubs.service)
      (d := ⟨["classmethod"], "desc", .desc⟩)
      (List.mem_append_right _ (by rw [hdesc]; exact List.mem_cons_self))
    rwa [mangle_of_not_private (by decide)] at hget

end Clear

end Clear

/-! ### What else is needed -/

/-- An application that has its table looked the methods up on the service. -/
theorem endpoints_eq {stubs : Stubs} {cls : Dict String Member} {table : Dict String Endpoint}
    (h : endpoints python plugin stubs service cls = some table) :
    table = endpointTable plugin service fun name =>
      serviceAttribute python cls (mangle stubs.application name) := by
  rw [endpoints] at h
  split at h
  · exact (Option.some.inj h).symm
  · cases h

/-- A method is found in the class of a service under its own name only. -/
theorem name_of_rpc {options : Options} {name k : String} {cls : Dict String Member}
    (hcls : runBody name Dict.empty (serviceBody plugin options service) = some cls)
    {m : DescMethod} (hget : cls.get? k = some (.rpc m)) :
    k = mangle name (methodLocalName plugin m) := by
  rw [runBody_insertAll hcls] at hget
  rcases mem_of_get?_insertAll hget with hempty | ⟨d, hd, hk, hmember⟩
  · rw [Dict.get?_empty] at hempty
    cases hempty
  · rcases List.mem_append.mp hd with hd | hd
    · obtain ⟨m', -, rfl⟩ := List.mem_map.mp hd
      obtain rfl : m' = m := Member.rpc.inj hmember
      exact hk.symm
    · cases hprotobuf : options.protobuf with
      | google =>
          rw [hprotobuf] at hd
          cases hd
      | py =>
          rw [hprotobuf] at hd
          obtain rfl := List.mem_singleton.mp hd
          cases hmember

/-- A private name is not found from the class of the application. -/
theorem not_private_of_attribute {options : Options} {serviceName : String}
    {cls : Dict String Member}
    (hcls : runBody (asyncStubs serviceName).service Dict.empty
      (serviceBody plugin options service) = some cls) {m : DescMethod}
    (hattribute : serviceAttribute python cls
      (mangle (asyncStubs serviceName).application (methodLocalName plugin m))
      = some (.rpc m)) : isPrivate (methodLocalName plugin m) = false := by
  rw [serviceAttribute] at hattribute
  split at hattribute
  · cases hattribute
  · by_contra hprivate
    refine mangle_ne (Bool.not_eq_false _ ▸ hprivate) ?_ (name_of_rpc hcls hattribute)
    have hlength := strippedClass_append serviceName "ASGIApplication" (by decide)
    show (strippedClass serviceName).length
      < (strippedClass (serviceName ++ "ASGIApplication")).length
    rw [hlength]
    exact Nat.lt_add_of_pos_right (by decide)

theorem clear_of_neverMerges (h : NeverMerges python plugin service) :
    Clear python plugin service := by
  obtain ⟨serviceName, hmem⟩ := generateStubs_mem python plugin .py service
  obtain ⟨⟨table, htable, hrows⟩, ⟨client, hclient, hcalls, -⟩, cls, hcls, -⟩ := h.classes _ _ hmem
  have hservice : runBody (asyncStubs serviceName).service Dict.empty
      (serviceBody plugin ⟨.py, none⟩ service) = some cls := hcls
  -- The table of one application says what each attribute of the service is.
  have hattribute : ∀ m ∈ service.methods, serviceAttribute python cls
      (mangle (asyncStubs serviceName).application (methodLocalName plugin m))
        = some (.rpc m) := by
    intro m hm
    rw [generateStubs, hservice] at htable
    have hrow := hrows m hm
    rw [endpoints_eq htable, endpointTable, Dict.get?_insertAll_mem nodup_methodUrl hm] at hrow
    exact congrArg Endpoint.function (Option.some.inj hrow)
  have hprivate : ∀ m ∈ service.methods, isPrivate (methodLocalName plugin m) = false :=
    fun m hm => not_private_of_attribute hservice (hattribute m hm)
  have hsome : (runBody (asyncStubs serviceName).service Dict.empty
      (serviceBody plugin ⟨.py, none⟩ service)).isSome = true := by
    rw [hservice]
    rfl
  -- And that its class can be built says what the decorators find.
  obtain ⟨hmethods, -, hdesc⟩ := List.pairwise_append.mp ((runBody_isSome_iff _ _ _).mp hsome).2
  refine ⟨nodup_methodLocalName_iff.mp h.distinct, ?_, ?_, ?_, ?_, ?_⟩
  · intro m hm
    have hne := hdesc _ (List.mem_map_of_mem hm) _ List.mem_cons_self "classmethod"
      List.mem_cons_self
    rw [mangle_of_not_private (by decide),
      show (methodDefinition plugin m).name = methodLocalName plugin m from rfl,
      mangle_of_not_private (hprivate m hm)] at hne
    rw [escaped_eq m]
    exact hne.symm
  · exact (pairwise_methodDefinition_iff hprivate _).mp hmethods
  · intro m hm
    rw [escaped_eq m]
    exact hprivate m hm
  · intro m hm hmem
    rw [escaped_eq m] at hmem
    -- An attribute of the client would hide the call.
    have hcall := hcalls m hm
    rw [clientAttribute, if_pos hmem] at hcall
    split at hcall
    · cases hcall
    · cases hcall
  · intro m hm kind
    rw [escaped_eq m]
    cases kind with
    | service =>
        have hfound := hattribute m hm
        rw [mangle_of_not_private (hprivate m hm), serviceAttribute] at hfound
        split at hfound
        · cases hfound
        · next hkeeps => exact Bool.not_eq_true _ ▸ hkeeps
    | client =>
        have hfound := hcalls m hm
        rw [clientAttribute] at hfound
        split at hfound
        · cases hfound
        · next hkeeps => exact Bool.not_eq_true _ ▸ hkeeps

end Merge

/-- **The generator never merges two RPCs** of a service just if nothing is in their way. -/
theorem never_merges_iff (python : Python) (plugin : Plugin) (service : DescService) :
    NeverMerges python plugin service ↔ Clear python plugin service := by
  constructor
  · exact clear_of_neverMerges
  · intro hclear
    refine ⟨hclear.nodup, fun m _ => methodLocalName_not_member plugin m, ?_⟩
    intro options classes hclasses
    obtain ⟨stubs, rfl⟩ := mem_generate hclasses
    exact hclear.oneToOne options stubs

/-! ## Two spellings of one name -/

namespace Users

/-- Some of Python's keywords. -/
def plugin : Plugin where
  pythonKeywords := ["class", "def", "import"]
  escapePublicIdentifier name keywords := if name ∈ keywords then name ++ "_" else name
  escape_keyword _ _ h := if_pos h
  escape_other _ _ h := if_neg h

/-- A Python that keeps the special names and two of `abc` and `typing`. -/
def python : Python where
  keeps _ name :=
    (name.toList.take 2 == ['_', '_'] && name.toList.reverse.take 2 == ['_', '_'])
      || name == "_abc_impl" || name == "_is_protocol"
  keeps_public := by
    intro _ name hpublic
    have hspecial : (name.toList.take 2 == ['_', '_']) = false := by
      rw [beq_eq_false_iff_ne]
      intro h
      cases hname : name.toList with
      | nil =>
          rw [hname] at h
          cases h
      | cons c rest =>
          rw [hname] at h hpublic
          exact hpublic (congrArg some (List.cons.inj h).1)
    have habc : (name == "_abc_impl") = false := by
      rw [beq_eq_false_iff_ne]
      rintro rfl
      exact hpublic rfl
    have htyping : (name == "_is_protocol") = false := by
      rw [beq_eq_false_iff_ne]
      rintro rfl
      exact hpublic rfl
    rw [hspecial, habc, htyping]
    rfl
  keeps_init := by
    intro _
    decide

def getUser : DescMethod := ⟨⟨"GetUser", by decide⟩, .unary, false⟩

def get_User : DescMethod := ⟨⟨"Get_User", by decide⟩, .serverStreaming, false⟩

def service : DescService := ⟨"Users", "example.Users", [getUser, get_User], by decide⟩

theorem methodLocalName_getUser : methodLocalName plugin getUser = "get_user" := by
  rw [methodLocalName_other plugin (by decide)]
  decide

theorem methodLocalName_get_User : methodLocalName plugin get_User = "get_user" := by
  rw [methodLocalName_other plugin (by decide)]
  decide

theorem mangle_get_user (cls : String) : mangle cls "get_user" = "get_user" :=
  mangle_of_not_private (by decide) cls

/-- The body of the class comes to its end. -/
theorem isSome_serviceBody (options : Options) (name : String) :
    (runBody name Dict.empty (serviceBody plugin options service)).isSome = true := by
  refine (runBody_isSome_iff _ _ _).mpr ⟨fun _ _ _ _ => rfl, ?_⟩
  have hclassmethod : mangle name "classmethod" = "classmethod" :=
    mangle_of_not_private (by decide) name
  cases hprotobuf : options.protobuf <;>
    simp [serviceBody, hprotobuf, descMethod, service, methodDefinition, getUser, get_User]
  constructor
  · rw [hclassmethod]
    exact fun h => absurd (h.trans (congrArg _ methodLocalName_getUser)) (by
      rw [mangle_get_user]
      decide)
  · rw [hclassmethod]
    exact fun h => absurd (h.trans (congrArg _ methodLocalName_get_User)) (by
      rw [mangle_get_user]
      decide)

/-- And what stands under the name there. -/
theorem get?_get_user {options : Options} {name : String} {cls : Dict String Member}
    (h : runBody name Dict.empty (serviceBody plugin options service) = some cls) :
    cls.get? "get_user" = some (.rpc get_User) := by
  rw [runBody_insertAll h, serviceBody, service]
  cases options.protobuf <;>
    simp only [List.map_cons, List.map_nil, descMethod, Dict.insertAll, List.cons_append,
      List.nil_append, List.foldl_cons, List.foldl_nil, methodDefinition, methodLocalName_getUser,
      methodLocalName_get_User, mangle_get_user]
  · exact Dict.get?_insert_self _ _ _
  · rw [mangle_of_not_private (by decide), Dict.get?_insert_ne _ (by decide)]
    exact Dict.get?_insert_self _ _ _

/-- So that is what an application has for both RPCs. -/
theorem serviceAttribute_get_user {options : Options} {stubs : Stubs} {cls : Dict String Member}
    (h : runBody stubs.service Dict.empty (serviceBody plugin options service) = some cls) :
    serviceAttribute python cls (mangle stubs.application "get_user")
      = some (.rpc get_User) := by
  rw [mangle_get_user, serviceAttribute, if_neg (by decide), get?_get_user h]

end Users

/-- The URL of one RPC is bound to the handler of the other, and the client has one method
    for both. -/
theorem never_merges_fails :
    ¬ NeverMerges Users.python Users.plugin Users.service
      ∧ ∀ options, ∀ classes ∈ generate Users.python Users.plugin options Users.service,
        ∃ table, classes.endpoints = some table ∧ table.get? "/example.Users/GetUser"
          = some ⟨"unary", "GetUser", "example.Users", some (.rpc Users.get_User)⟩ := by
  constructor
  · intro h
    have hnodup := h.distinct
    rw [Users.service, List.map_cons, List.map_cons, Users.methodLocalName_getUser,
      Users.methodLocalName_get_User] at hnodup
    exact absurd hnodup (by decide)
  · intro options classes hclasses
    obtain ⟨stubs, rfl⟩ := mem_generate hclasses
    obtain ⟨cls, hcls⟩ := Option.isSome_iff_exists.mp (Users.isSome_serviceBody options stubs.service)
    have hattribute := Users.serviceAttribute_get_user hcls
    refine ⟨endpointTable Users.plugin Users.service fun name =>
      serviceAttribute Users.python cls (mangle stubs.application name), ?_, ?_⟩
    · rw [generateStubs, hcls]
      refine if_pos (List.all_eq_true.mpr fun m hm =>
        Option.isSome_iff_exists.mpr ⟨.rpc Users.get_User, ?_⟩)
      rcases List.mem_pair.mp hm with rfl | rfl
      · rw [Users.methodLocalName_getUser]
        exact hattribute
      · rw [Users.methodLocalName_get_User]
        exact hattribute
    · have hurl : methodUrl Users.service Users.getUser = "/example.Users/GetUser" := by decide
      have hmem : Users.getUser ∈ Users.service.methods := List.mem_cons_self
      rw [← hurl, endpointTable, Dict.get?_insertAll_mem nodup_methodUrl hmem,
        Users.methodLocalName_getUser, hattribute]
      rfl

end ConnectMethodNames
