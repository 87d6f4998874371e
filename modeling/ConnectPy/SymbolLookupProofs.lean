import ConnectPy.PartitionProofs
import Mathlib.Data.List.Nodup

/-! # Symbol lookup — the file that declares a fully-qualified name

    A reflection client asks for the file of a symbol.  Messages, enums, services and
    extensions are found by their full name.  For a method, a field, a oneof or an enum
    value `_find_file_for_symbol` cuts the name at its last dot and looks for the
    parent; the values of an enum stand beside it, so their parent is what the enum is
    declared in.

    Names are unique as protobuf has them (`Lawful`), and then the lookup finds what is
    declared (`findFileForSymbol_of_declares`).  What it finds beside that are names
    with a dot in front: behind it stands a value of an enum outside all packages
    (`Unscoped`), since the cut leaves the empty parent there too. -/

namespace ConnectSymbols

open Partition

/-! ## Descriptors -/

/-- A name of one part. -/
structure Ident where
  text     : String
  nonempty : text ≠ ""
  undotted : '.' ∉ text.toList
  deriving DecidableEq

structure DescEnum where
  name   : Ident
  values : List Ident

structure DescService where
  name    : Ident
  methods : List Ident

/-- `extendee` is the full name of the message that is extended. -/
structure DescExtension where
  name     : Ident
  extendee : String
  number   : Int

/-- `oneofDecl` is that of the descriptor, with the synthetic ones. -/
inductive DescMessage
  | mk (name : Ident) (fields oneofDecl : List Ident) (nestedMessages : List DescMessage)
      (nestedEnums : List DescEnum) (nestedExtensions : List DescExtension)

namespace DescMessage

def name : DescMessage → Ident
  | mk name _ _ _ _ _ => name

def fields : DescMessage → List Ident
  | mk _ fields _ _ _ _ => fields

def oneofDecl : DescMessage → List Ident
  | mk _ _ oneofDecl _ _ _ => oneofDecl

def nestedMessages : DescMessage → List DescMessage
  | mk _ _ _ nestedMessages _ _ => nestedMessages

def nestedEnums : DescMessage → List DescEnum
  | mk _ _ _ _ nestedEnums _ => nestedEnums

def nestedExtensions : DescMessage → List DescExtension
  | mk _ _ _ _ _ nestedExtensions => nestedExtensions

end DescMessage

/-- A file, less the files it depends on. -/
structure DescFile where
  name       : String
  package    : String
  messages   : List DescMessage
  enums      : List DescEnum
  services   : List DescService
  extensions : List DescExtension

/-! ## Full names -/

/-- The full name of what is declared in a scope. -/
def qualify (scope : String) (name : Ident) : String :=
  if scope = "" then name.text else scope ++ (String.singleton '.' ++ name.text)

theorem qualify_ne_empty (scope : String) (name : Ident) : qualify scope name ≠ "" := by
  rw [qualify]
  split
  · exact name.nonempty
  · intro h
    have hlist := congrArg String.toList h
    simp at hlist

/-- A full name is cut into the scope and the name. -/
theorem rpartition_qualify (scope : String) (name : Ident) :
    rpartition '.' (qualify scope name) = (scope, name.text) := by
  rw [qualify]
  split
  · next h => rw [rpartition_none name.undotted, h]
  · exact rpartition_append scope name.undotted

/-- Only names outside all scopes are without a dot. -/
theorem qualify_eq_of_rpartition {scope : String} {name : Ident} {symbol : String}
    (h : rpartition '.' symbol = (scope, name.text)) :
    symbol = qualify scope name ∨ scope = "" ∧ symbol = String.singleton '.' ++ name.text := by
  rcases rpartition_cases '.' symbol with ⟨-, hnone⟩ | ⟨before, behind, -, hcut, hsymbol⟩
  · obtain ⟨rfl, hname⟩ := Prod.mk.inj (h.symm.trans hnone)
    exact Or.inl (by rw [qualify, if_pos rfl, hname])
  · obtain ⟨rfl, rfl⟩ := Prod.mk.inj (h.symm.trans hcut)
    by_cases hscope : scope = ""
    · refine Or.inr ⟨hscope, ?_⟩
      rw [hsymbol, hscope]
      exact String.empty_append
    · exact Or.inl (by rw [qualify, if_neg hscope, hsymbol])

/-- No full name starts with a dot. -/
theorem qualify_ne_dotted (scope : String) (name v : Ident) :
    qualify scope name ≠ String.singleton '.' ++ v.text := by
  intro h
  have hcut := rpartition_qualify scope name
  rw [h, ← String.empty_append (s := String.singleton '.' ++ v.text),
    rpartition_append "" v.undotted] at hcut
  obtain ⟨rfl, -⟩ := Prod.mk.inj hcut
  rw [qualify, if_pos rfl] at h
  refine name.undotted ?_
  rw [h]
  simp

/-! ## What a file declares -/

/-- A message of a file, nested to any depth, with its full name. -/
inductive HasMessage (c : DescFile) : String → DescMessage → Prop
  | top {m} : m ∈ c.messages → HasMessage c (qualify c.package m.name) m
  | nested {n m k} : HasMessage c n m → k ∈ m.nestedMessages → HasMessage c (qualify n k.name) k

/-- What a file has itself or in its messages, with the scope it is declared in. -/
inductive Scoped {δ : Type} (own : DescFile → List δ) (nested : DescMessage → List δ)
    (c : DescFile) : String → δ → Prop
  | top {x} : x ∈ own c → Scoped own nested c c.package x
  | nested {n m x} : HasMessage c n m → x ∈ nested m → Scoped own nested c n x

/-- An enum of a file, with its scope. -/
def HasEnum : DescFile → String → DescEnum → Prop :=
  Scoped DescFile.enums DescMessage.nestedEnums

/-- An extension of a file, with its scope. -/
def HasExtension : DescFile → String → DescExtension → Prop :=
  Scoped DescFile.extensions DescMessage.nestedExtensions

/-- What a name can stand for. -/
inductive Decl
  | message (m : DescMessage)
  | enum (e : DescEnum)
  | service (s : DescService)
  | extension (x : DescExtension)
  | method
  | field
  | oneof
  | value

/-- The declarations of a file and their full names.  A value is not declared in its
    enum, but beside it. -/
inductive Declares (c : DescFile) : Decl → String → Prop
  | message {n m} : HasMessage c n m → Declares c (.message m) n
  | enum {scope e} : HasEnum c scope e → Declares c (.enum e) (qualify scope e.name)
  | service {s} : s ∈ c.services → Declares c (.service s) (qualify c.package s.name)
  | extension {scope x} : HasExtension c scope x →
      Declares c (.extension x) (qualify scope x.name)
  | method {s v} : s ∈ c.services → v ∈ s.methods →
      Declares c .method (qualify (qualify c.package s.name) v)
  | field {n m v} : HasMessage c n m → v ∈ m.fields → Declares c .field (qualify n v)
  | oneof {n m v} : HasMessage c n m → v ∈ m.oneofDecl → Declares c .oneof (qualify n v)
  | value {scope e v} : HasEnum c scope e → v ∈ e.values → Declares c .value (qualify scope v)

variable {c : DescFile}

theorem HasMessage.qualified {n : String} {m : DescMessage} (h : HasMessage c n m) :
    ∃ scope, n = qualify scope m.name := by
  cases h with
  | top => exact ⟨_, rfl⟩
  | nested => exact ⟨_, rfl⟩

theorem HasEnum.scoped {scope : String} {e : DescEnum} (h : HasEnum c scope e) :
    scope = c.package ∨ ∃ m, HasMessage c scope m := by
  cases h with
  | top => exact Or.inl rfl
  | nested hm => exact Or.inr ⟨_, hm⟩

/-- Every name that is declared is a full one. -/
theorem Declares.qualified {d : Decl} {n : String} (h : Declares c d n) :
    ∃ scope name, n = qualify scope name := by
  cases h with
  | message hm => exact ⟨_, _, hm.qualified.choose_spec⟩
  | enum => exact ⟨_, _, rfl⟩
  | service => exact ⟨_, _, rfl⟩
  | extension => exact ⟨_, _, rfl⟩
  | method => exact ⟨_, _, rfl⟩
  | field => exact ⟨_, _, rfl⟩
  | oneof => exact ⟨_, _, rfl⟩
  | value => exact ⟨_, _, rfl⟩

/-! ## The registry -/

mutual

/-- A message and those nested in it, with their full names. -/
def DescMessage.messages (scope : String) : DescMessage → List (String × DescMessage)
  | .mk name fields oneofDecl nested enums extensions =>
      (qualify scope name, .mk name fields oneofDecl nested enums extensions)
        :: nestedAll (qualify scope name) nested

/-- Those of a list. -/
def nestedAll (scope : String) : List DescMessage → List (String × DescMessage)
  | [] => []
  | m :: rest => m.messages scope ++ nestedAll scope rest

end

namespace DescFile

def allMessages (c : DescFile) : List (String × DescMessage) := nestedAll c.package c.messages

/-- What the file has itself, then what its messages have. -/
def allScoped {δ : Type} (own : DescFile → List δ) (nested : DescMessage → List δ)
    (name : δ → Ident) (c : DescFile) : List (String × δ) :=
  (own c).map (fun x => (qualify c.package (name x), x))
    ++ c.allMessages.flatMap fun nm => (nested nm.2).map fun x => (qualify nm.1 (name x), x)

def allEnums : DescFile → List (String × DescEnum) :=
  allScoped enums DescMessage.nestedEnums DescEnum.name

def allServices (c : DescFile) : List (String × DescService) :=
  c.services.map fun s => (qualify c.package s.name, s)

def allExtensions : DescFile → List (String × DescExtension) :=
  allScoped extensions DescMessage.nestedExtensions DescExtension.name

end DescFile

/-- A descriptor that a registry has, with its file and its full name. -/
structure Desc (F δ : Type) where
  file     : F
  typeName : String
  desc     : δ

/-- The files of a registry. -/
structure Registry (F : Type) where
  contents : F → DescFile
  files    : List F

namespace Registry

variable {F δ : Type}

/-- All descriptors of one kind, as an iteration over the registry yields them. -/
def all (registry : Registry F) (part : DescFile → List (String × δ)) : List (Desc F δ) :=
  registry.files.flatMap fun file =>
    (part (registry.contents file)).map fun nd => ⟨file, nd.1, nd.2⟩

/-- The descriptor of a full name. -/
def lookup (registry : Registry F) (part : DescFile → List (String × δ)) (symbol : String) :
    Option (Desc F δ) :=
  (registry.all part).find? fun d => d.typeName = symbol

def message (registry : Registry F) : String → Option (Desc F DescMessage) :=
  registry.lookup DescFile.allMessages

def enum (registry : Registry F) : String → Option (Desc F DescEnum) :=
  registry.lookup DescFile.allEnums

def service (registry : Registry F) : String → Option (Desc F DescService) :=
  registry.lookup DescFile.allServices

def extension (registry : Registry F) : String → Option (Desc F DescExtension) :=
  registry.lookup DescFile.allExtensions

end Registry

/-! ## The lookup -/

variable {F δ : Type}

/-- The file of the descriptor with a full name, of the four kinds in their order. -/
def findDesc (registry : Registry F) (symbol : String) : Option F :=
  (((registry.message symbol).map Desc.file).or ((registry.enum symbol).map Desc.file)).or
    (((registry.service symbol).map Desc.file).or ((registry.extension symbol).map Desc.file))

/-- The scan over the enums: one beside the name, with a value of it. -/
def findValue (registry : Registry F) (parent member : String) : Option F :=
  ((registry.all DescFile.allEnums).find? fun d =>
    (rpartition '.' d.typeName).1 = parent ∧ ∃ v ∈ d.desc.values, v.text = member).map Desc.file

/-- The file of a method, a field, a oneof or an enum value. -/
def findMember (registry : Registry F) (parent member : String) : Option F :=
  if member = "" then none
  else
    match registry.service parent with
    | some svc => if ∃ m ∈ svc.desc.methods, m.text = member then some svc.file else none
    | none =>
        match registry.message parent with
        | some msg =>
            if (∃ f ∈ msg.desc.fields, f.text = member)
                ∨ ∃ o ∈ msg.desc.oneofDecl, o.text = member then some msg.file
            else findValue registry parent member
        | none => findValue registry parent member

/-- `_find_file_for_symbol`. -/
def findFileForSymbol (registry : Registry F) (symbol : String) : Option F :=
  match findDesc registry symbol with
  | some file => some file
  | none =>
      let (parent, member) := rpartition '.' symbol
      findMember registry parent member

/-! ## What the registry holds -/

mutual

theorem messages_hasMessage {scope : String} : ∀ (x : DescMessage),
    HasMessage c (qualify scope x.name) x →
    ∀ nm ∈ x.messages scope, HasMessage c nm.1 nm.2
  | .mk name fields oneofDecl nested enums extensions => by
      intro h nm hnm
      rw [DescMessage.messages] at hnm
      rcases List.mem_cons.mp hnm with rfl | hnm
      · exact h
      · exact nestedAll_hasMessage nested (fun k hk => .nested h hk) nm hnm

theorem nestedAll_hasMessage {scope : String} : ∀ (ms : List DescMessage),
    (∀ m ∈ ms, HasMessage c (qualify scope m.name) m) →
    ∀ nm ∈ nestedAll scope ms, HasMessage c nm.1 nm.2
  | [] => fun _ nm hnm => by
      rw [nestedAll] at hnm
      exact nomatch hnm
  | m :: rest => fun h nm hnm => by
      rw [nestedAll] at hnm
      rcases List.mem_append.mp hnm with hnm | hnm
      · exact messages_hasMessage m (h m List.mem_cons_self) nm hnm
      · exact nestedAll_hasMessage rest (fun k hk => h k (List.mem_cons_of_mem _ hk)) nm hnm

end

/-- A message of a list is among those that are collected. -/
theorem mem_nestedAll {scope : String} {m : DescMessage} : ∀ {ms : List DescMessage}, m ∈ ms →
    (qualify scope m.name, m) ∈ nestedAll scope ms
  | [], h => nomatch h
  | .mk _ _ _ _ _ _ :: rest, h => by
      rw [nestedAll]
      rcases List.mem_cons.mp h with rfl | h
      · refine List.mem_append_left _ ?_
        rw [DescMessage.messages]
        exact List.mem_cons_self
      · exact List.mem_append_right _ (mem_nestedAll h)

mutual

theorem messages_nested {n : String} {m k : DescMessage} (hk : k ∈ m.nestedMessages)
    {scope : String} : ∀ (x : DescMessage), (n, m) ∈ x.messages scope →
    (qualify n k.name, k) ∈ x.messages scope
  | .mk name fields oneofDecl nested enums extensions => by
      intro h
      rw [DescMessage.messages] at h ⊢
      refine List.mem_cons_of_mem _ ?_
      rcases List.mem_cons.mp h with heq | h
      · obtain ⟨rfl, rfl⟩ := Prod.mk.inj heq
        exact mem_nestedAll hk
      · exact nestedAll_nested hk nested h

theorem nestedAll_nested {n : String} {m k : DescMessage} (hk : k ∈ m.nestedMessages)
    {scope : String} : ∀ (ms : List DescMessage), (n, m) ∈ nestedAll scope ms →
    (qualify n k.name, k) ∈ nestedAll scope ms
  | [] => fun h => by
      rw [nestedAll] at h
      exact nomatch h
  | x :: rest => fun h => by
      rw [nestedAll] at h ⊢
      rcases List.mem_append.mp h with h | h
      · exact List.mem_append_left _ (messages_nested hk x h)
      · exact List.mem_append_right _ (nestedAll_nested hk rest h)

end

/-- **The collected messages are those of the file**, at whatever depth. -/
theorem mem_allMessages {n : String} {m : DescMessage} :
    (n, m) ∈ c.allMessages ↔ HasMessage c n m := by
  constructor
  · exact nestedAll_hasMessage c.messages (fun m hm => .top hm) (n, m)
  · intro h
    induction h with
    | top hm => exact mem_nestedAll hm
    | nested _ hk ih => exact nestedAll_nested hk c.messages ih

theorem mem_allScoped {own : DescFile → List δ} {nested : DescMessage → List δ}
    {name : δ → Ident} {n : String} {x : δ} :
    (n, x) ∈ DescFile.allScoped own nested name c
      ↔ ∃ scope, Scoped own nested c scope x ∧ n = qualify scope (name x) := by
  rw [DescFile.allScoped, List.mem_append, List.mem_map, List.mem_flatMap]
  constructor
  · rintro (⟨y, hy, heq⟩ | ⟨nm, hm, hx⟩)
    · obtain ⟨rfl, rfl⟩ := Prod.mk.inj heq
      exact ⟨c.package, .top hy, rfl⟩
    · obtain ⟨y, hy, heq⟩ := List.mem_map.mp hx
      obtain ⟨rfl, rfl⟩ := Prod.mk.inj heq
      exact ⟨nm.1, .nested (mem_allMessages.mp hm) hy, rfl⟩
  · rintro ⟨scope, h, rfl⟩
    cases h with
    | top hx => exact Or.inl ⟨x, hx, rfl⟩
    | nested hm hx =>
        exact Or.inr ⟨_, mem_allMessages.mpr hm, List.mem_map.mpr ⟨x, hx, rfl⟩⟩

theorem mem_allServices {n : String} {s : DescService} :
    (n, s) ∈ c.allServices ↔ s ∈ c.services ∧ n = qualify c.package s.name := by
  rw [DescFile.allServices, List.mem_map]
  constructor
  · rintro ⟨s', hs, heq⟩
    obtain ⟨rfl, rfl⟩ := Prod.mk.inj heq
    exact ⟨hs, rfl⟩
  · rintro ⟨hs, rfl⟩
    exact ⟨s, hs, rfl⟩

variable {registry : Registry F} {part : DescFile → List (String × δ)}

theorem mem_all {d : Desc F δ} :
    d ∈ registry.all part
      ↔ d.file ∈ registry.files ∧ (d.typeName, d.desc) ∈ part (registry.contents d.file) := by
  rw [Registry.all, List.mem_flatMap]
  constructor
  · rintro ⟨file, hfile, hd⟩
    obtain ⟨nd, hnd, rfl⟩ := List.mem_map.mp hd
    exact ⟨hfile, hnd⟩
  · rintro ⟨hfile, hd⟩
    exact ⟨d.file, hfile, List.mem_map.mpr ⟨_, hd, rfl⟩⟩

theorem lookup_some {symbol : String} {d : Desc F δ} (h : registry.lookup part symbol = some d) :
    d.file ∈ registry.files ∧ (symbol, d.desc) ∈ part (registry.contents d.file) := by
  rw [Registry.lookup] at h
  have hfound := List.find?_some h
  have hname : d.typeName = symbol := of_decide_eq_true hfound
  exact hname ▸ mem_all.mp (List.mem_of_find?_eq_some h)

theorem lookup_none {symbol : String} (h : registry.lookup part symbol = none) {file : F}
    (hfile : file ∈ registry.files) (x : δ) : (symbol, x) ∉ part (registry.contents file) := by
  intro hx
  have hd : (⟨file, symbol, x⟩ : Desc F δ) ∈ registry.all part := mem_all.mpr ⟨hfile, hx⟩
  exact List.find?_eq_none.mp h _ hd (decide_eq_true rfl)

/-! ## What is found is declared -/

/-- A descriptor with a name declares it. -/
theorem findDesc_some {symbol : String} {file : F} (h : findDesc registry symbol = some file) :
    file ∈ registry.files ∧ ∃ d, Declares (registry.contents file) d symbol := by
  rw [findDesc, Option.or_eq_some_iff, Option.or_eq_some_iff, Option.or_eq_some_iff] at h
  rcases h with (h | ⟨-, h⟩) | ⟨-, h | ⟨-, h⟩⟩
  · obtain ⟨m, hm, rfl⟩ := Option.map_eq_some_iff.mp h
    obtain ⟨hfile, hmem⟩ := lookup_some hm
    exact ⟨hfile, _, .message (mem_allMessages.mp hmem)⟩
  · obtain ⟨e, he, rfl⟩ := Option.map_eq_some_iff.mp h
    obtain ⟨hfile, hmem⟩ := lookup_some he
    obtain ⟨scope, hscope, rfl⟩ := mem_allScoped.mp hmem
    exact ⟨hfile, _, .enum hscope⟩
  · obtain ⟨s, hs, rfl⟩ := Option.map_eq_some_iff.mp h
    obtain ⟨hfile, hmem⟩ := lookup_some hs
    obtain ⟨hservice, rfl⟩ := mem_allServices.mp hmem
    exact ⟨hfile, _, .service hservice⟩
  · obtain ⟨x, hx, rfl⟩ := Option.map_eq_some_iff.mp h
    obtain ⟨hfile, hmem⟩ := lookup_some hx
    obtain ⟨scope, hscope, rfl⟩ := mem_allScoped.mp hmem
    exact ⟨hfile, _, .extension hscope⟩

/-- The service, if there is one. -/
theorem service_some {parent : String} {svc : Desc F DescService}
    (h : registry.service parent = some svc) :
    svc.file ∈ registry.files ∧ Declares (registry.contents svc.file) (.service svc.desc) parent
      ∧ svc.desc ∈ (registry.contents svc.file).services
      ∧ parent = qualify (registry.contents svc.file).package svc.desc.name := by
  obtain ⟨hfile, hmem⟩ := lookup_some h
  obtain ⟨hservice, rfl⟩ := mem_allServices.mp hmem
  exact ⟨hfile, .service hservice, hservice, rfl⟩

/-- The message, if there is one. -/
theorem message_some {parent : String} {msg : Desc F DescMessage}
    (h : registry.message parent = some msg) :
    msg.file ∈ registry.files ∧ HasMessage (registry.contents msg.file) parent msg.desc := by
  obtain ⟨hfile, hmem⟩ := lookup_some h
  exact ⟨hfile, mem_allMessages.mp hmem⟩

/-- The scan finds a value of an enum that is declared in the parent. -/
theorem findValue_some {parent member : String} {file : F}
    (h : findValue registry parent member = some file) :
    file ∈ registry.files ∧ ∃ e v, HasEnum (registry.contents file) parent e ∧ v ∈ e.values
      ∧ v.text = member := by
  rw [findValue] at h
  obtain ⟨d, hd, rfl⟩ := Option.map_eq_some_iff.mp h
  have hfound := List.find?_some hd
  obtain ⟨hparent, v, hv, hmember⟩ := of_decide_eq_true hfound
  obtain ⟨hfile, hmem⟩ := mem_all.mp (List.mem_of_find?_eq_some hd)
  obtain ⟨scope, hscope, hname⟩ := mem_allScoped.mp hmem
  rw [hname, rpartition_qualify] at hparent
  exact ⟨hfile, d.desc, v, hparent ▸ hscope, hv, hmember⟩

/-- And finds one for each of them. -/
theorem findValue_isSome {file : F} (hfile : file ∈ registry.files) {scope : String} {e : DescEnum}
    (h : HasEnum (registry.contents file) scope e) {v : Ident} (hv : v ∈ e.values) :
    (findValue registry scope v.text).isSome = true := by
  rw [findValue, Option.isSome_map, List.find?_isSome]
  refine ⟨⟨file, qualify scope e.name, e⟩, mem_all.mpr ⟨hfile, ?_⟩, decide_eq_true ⟨?_, ?_⟩⟩
  · exact mem_allScoped.mpr ⟨scope, h, rfl⟩
  · rw [rpartition_qualify]
  · exact ⟨v, hv, rfl⟩

/-- Behind the cut: a member that is found is declared under its full name, or the parent
    is empty and the member a value of an enum outside all packages. -/
theorem findMember_some {parent member : String} {file : F}
    (h : findMember registry parent member = some file) :
    file ∈ registry.files ∧ ∃ v : Ident, v.text = member ∧
      ((parent ≠ "" ∧ ∃ d, Declares (registry.contents file) d (qualify parent v))
        ∨ ∃ e, HasEnum (registry.contents file) parent e ∧ v ∈ e.values) := by
  have hvalue : findValue registry parent member = some file → file ∈ registry.files ∧
      ∃ v : Ident, v.text = member ∧
        ((parent ≠ "" ∧ ∃ d, Declares (registry.contents file) d (qualify parent v))
          ∨ ∃ e, HasEnum (registry.contents file) parent e ∧ v ∈ e.values) := by
    intro h
    obtain ⟨hfile, e, v, he, hv, hmember⟩ := findValue_some h
    exact ⟨hfile, v, hmember, Or.inr ⟨e, he, hv⟩⟩
  rw [findMember] at h
  split at h
  · exact nomatch h
  -- The parent is a service, a message, or neither.
  · cases hservice : registry.service parent with
    | some svc =>
        rw [hservice] at h
        obtain ⟨hfile, -, hmem, hparent⟩ := service_some hservice
        dsimp only at h
        split at h
        · next hmethod =>
            obtain ⟨v, hv, hmember⟩ := hmethod
            obtain rfl := Option.some.inj h
            refine ⟨hfile, v, hmember, Or.inl ⟨?_, .method, ?_⟩⟩
            · exact hparent ▸ qualify_ne_empty _ _
            · exact hparent ▸ .method hmem hv
        · exact nomatch h
    | none =>
        rw [hservice] at h
        cases hmessage : registry.message parent with
        | none =>
            rw [hmessage] at h
            exact hvalue h
        | some msg =>
            rw [hmessage] at h
            obtain ⟨hfile, hmem⟩ := message_some hmessage
            obtain ⟨scope, hparent⟩ := hmem.qualified
            have hne : parent ≠ "" := hparent ▸ qualify_ne_empty _ _
            dsimp only at h
            split at h
            · next hmember =>
                obtain rfl := Option.some.inj h
                -- A field comes before a oneof.
                rcases hmember with ⟨v, hv, hmember⟩ | ⟨v, hv, hmember⟩
                · exact ⟨hfile, v, hmember, Or.inl ⟨hne, .field, .field hmem hv⟩⟩
                · exact ⟨hfile, v, hmember, Or.inl ⟨hne, .oneof, .oneof hmem hv⟩⟩
            · exact hvalue h

/-- A dot, and behind it a value of an enum outside all packages and messages. -/
def Unscoped (registry : Registry F) (symbol : String) : Prop :=
  ∃ file ∈ registry.files, ∃ e, HasEnum (registry.contents file) "" e ∧
    ∃ v ∈ e.values, symbol = String.singleton '.' ++ v.text

theorem findFileForSymbol_desc {symbol : String} {file : F}
    (h : findDesc registry symbol = some file) : findFileForSymbol registry symbol = some file := by
  rw [findFileForSymbol, h]

theorem findFileForSymbol_member {symbol parent member : String}
    (h : findDesc registry symbol = none) (hcut : rpartition '.' symbol = (parent, member)) :
    findFileForSymbol registry symbol = findMember registry parent member := by
  rw [findFileForSymbol, h, hcut]

/-- **What is found is declared**, or it is a value with a dot in front. -/
theorem findFileForSymbol_some {symbol : String} {file : F}
    (h : findFileForSymbol registry symbol = some file) :
    file ∈ registry.files
      ∧ ((∃ d, Declares (registry.contents file) d symbol) ∨ Unscoped registry symbol) := by
  cases hdesc : findDesc registry symbol with
  | some found =>
      obtain rfl := Option.some.inj ((findFileForSymbol_desc hdesc).symm.trans h)
      obtain ⟨hfile, hd⟩ := findDesc_some hdesc
      exact ⟨hfile, Or.inl hd⟩
  | none =>
      obtain ⟨parent, member, hcut⟩ : ∃ parent member, rpartition '.' symbol = (parent, member) :=
        ⟨_, _, rfl⟩
      rw [findFileForSymbol_member hdesc hcut] at h
      obtain ⟨hfile, v, rfl, hv⟩ := findMember_some h
      refine ⟨hfile, ?_⟩
      rcases qualify_eq_of_rpartition hcut with hsymbol | ⟨rfl, hsymbol⟩
      · rcases hv with ⟨-, d, hd⟩ | ⟨e, he, hv⟩
        · exact Or.inl ⟨d, hsymbol ▸ hd⟩
        · exact Or.inl ⟨.value, hsymbol ▸ .value he hv⟩
      · rcases hv with ⟨hne, -⟩ | ⟨e, he, hv⟩
        · exact absurd rfl hne
        · exact Or.inr ⟨file, hfile, e, he, v, hv, hsymbol⟩

/-! ## What is declared is found -/

/-- The names of a registry are unique, those of packages too: what has a name is declared
    in one file, as one thing, and is no package. -/
structure Lawful (registry : Registry F) : Prop where
  unique : ∀ {file file' d d' n}, file ∈ registry.files → file' ∈ registry.files →
    Declares (registry.contents file) d n → Declares (registry.contents file') d' n →
    file = file' ∧ d = d'
  packages : ∀ {file file' d}, file ∈ registry.files → file' ∈ registry.files →
    ¬ Declares (registry.contents file) d (registry.contents file').package

/-- A name without a descriptor is none of the four kinds. -/
theorem findDesc_none {symbol : String} (h : findDesc registry symbol = none) {file : F}
    (hfile : file ∈ registry.files) {d : Decl} (hd : Declares (registry.contents file) d symbol) :
    d = .method ∨ d = .field ∨ d = .oneof ∨ d = .value := by
  rw [findDesc, Option.or_eq_none_iff, Option.or_eq_none_iff, Option.or_eq_none_iff,
    Option.map_eq_none_iff, Option.map_eq_none_iff, Option.map_eq_none_iff,
    Option.map_eq_none_iff] at h
  obtain ⟨⟨hmessage, henum⟩, hservice, hextension⟩ := h
  cases hd with
  | message hm => exact absurd (mem_allMessages.mpr hm) (lookup_none hmessage hfile _)
  | enum he => exact absurd (mem_allScoped.mpr ⟨_, he, rfl⟩) (lookup_none henum hfile _)
  | service hs => exact absurd (mem_allServices.mpr ⟨hs, rfl⟩) (lookup_none hservice hfile _)
  | extension hx => exact absurd (mem_allScoped.mpr ⟨_, hx, rfl⟩) (lookup_none hextension hfile _)
  | method => exact Or.inl rfl
  | field => exact Or.inr (Or.inl rfl)
  | oneof => exact Or.inr (Or.inr (Or.inl rfl))
  | value => exact Or.inr (Or.inr (Or.inr rfl))

namespace Lawful

variable {file : F} (h : Lawful registry) (hfile : file ∈ registry.files)

include h hfile

/-- The service of a full name is the one that is declared. -/
theorem service_eq {s : DescService} {n : String}
    (hs : Declares (registry.contents file) (.service s) n) :
    ∃ svc, registry.service n = some svc ∧ svc.desc = s := by
  cases hn : registry.service n with
  | none =>
      cases hs with
      | service hmem => exact absurd (mem_allServices.mpr ⟨hmem, rfl⟩) (lookup_none hn hfile _)
  | some svc =>
      obtain ⟨hfile', hd, -⟩ := service_some hn
      obtain ⟨-, heq⟩ := h.unique hfile hfile' hs hd
      exact ⟨svc, rfl, (Decl.service.inj heq).symm⟩

/-- The message of a full name is the one that is declared, and no service has the name. -/
theorem message_eq {m : DescMessage} {n : String} (hm : HasMessage (registry.contents file) n m) :
    registry.service n = none ∧ ∃ msg, registry.message n = some msg ∧ msg.desc = m := by
  constructor
  · cases hn : registry.service n with
    | none => rfl
    | some svc =>
        obtain ⟨hfile', hd, -⟩ := service_some hn
        exact nomatch (h.unique hfile hfile' (.message hm) hd).2
  · cases hn : registry.message n with
    | none => exact absurd (mem_allMessages.mpr hm) (lookup_none hn hfile _)
    | some msg =>
        obtain ⟨hfile', hd⟩ := message_some hn
        obtain ⟨-, heq⟩ := h.unique hfile hfile' (.message hm) (.message hd)
        exact ⟨msg, rfl, (Decl.message.inj heq).symm⟩

/-- What enums are declared in is no service. -/
theorem service_scope {scope : String} {e : DescEnum}
    (he : HasEnum (registry.contents file) scope e) : registry.service scope = none := by
  rcases he.scoped with rfl | ⟨m, hm⟩
  · cases hn : registry.service (registry.contents file).package with
    | none => rfl
    | some svc =>
        obtain ⟨hfile', hd, -⟩ := service_some hn
        exact absurd hd (h.packages hfile' hfile)
  · exact (h.message_eq hfile hm).1

/-- A value is found, be its scope a message with other members or none. -/
theorem findMember_value {scope : String} {e : DescEnum} {v : Ident}
    (he : HasEnum (registry.contents file) scope e) (hv : v ∈ e.values) :
    (findMember registry scope v.text).isSome = true := by
  rw [findMember, if_neg v.nonempty, h.service_scope hfile he]
  dsimp only
  cases registry.message scope with
  | none => exact findValue_isSome hfile he hv
  | some msg =>
      dsimp only
      split
      · rfl
      · exact findValue_isSome hfile he hv

/-- **What is declared is found.** -/
theorem findFileForSymbol_isSome {d : Decl} {symbol : String}
    (hd : Declares (registry.contents file) d symbol) :
    (findFileForSymbol registry symbol).isSome = true := by
  cases hdesc : findDesc registry symbol with
  | some found => rw [findFileForSymbol_desc hdesc, Option.isSome_some]
  | none =>
      have hkind := findDesc_none hdesc hfile hd
      cases hd with
      | message | enum | service | extension => exact absurd hkind (by simp)
      | @method s v hs hv =>
          rw [findFileForSymbol_member hdesc (rpartition_qualify _ v)]
          obtain ⟨svc, hsvc, rfl⟩ := h.service_eq hfile (.service hs)
          rw [findMember, if_neg v.nonempty, hsvc]
          dsimp only
          rw [if_pos ⟨v, hv, rfl⟩, Option.isSome_some]
      | @field n m v hm hv =>
          rw [findFileForSymbol_member hdesc (rpartition_qualify _ v)]
          obtain ⟨hservice, msg, hmsg, rfl⟩ := h.message_eq hfile hm
          rw [findMember, if_neg v.nonempty, hservice, hmsg]
          dsimp only
          rw [if_pos (Or.inl ⟨v, hv, rfl⟩), Option.isSome_some]
      | @oneof n m v hm hv =>
          rw [findFileForSymbol_member hdesc (rpartition_qualify _ v)]
          obtain ⟨hservice, msg, hmsg, rfl⟩ := h.message_eq hfile hm
          rw [findMember, if_neg v.nonempty, hservice, hmsg]
          dsimp only
          rw [if_pos (Or.inr ⟨v, hv, rfl⟩), Option.isSome_some]
      | @value scope e v he hv =>
          rw [findFileForSymbol_member hdesc (rpartition_qualify _ v)]
          exact h.findMember_value hfile he hv

end Lawful

/-! ## Exactly the declared symbols -/

/-- The file of what is declared, and no other. -/
structure FindsExactly (registry : Registry F) (symbol : String) : Prop where
  some_iff : ∀ file, findFileForSymbol registry symbol = some file
    ↔ file ∈ registry.files ∧ ∃ d, Declares (registry.contents file) d symbol
  none_iff : findFileForSymbol registry symbol = none
    ↔ ∀ file ∈ registry.files, ∀ d, ¬ Declares (registry.contents file) d symbol

/-- A value with a dot in front is found, but not declared. -/
theorem Unscoped.found (h : Lawful registry) {symbol : String}
    (hsymbol : Unscoped registry symbol) :
    (findFileForSymbol registry symbol).isSome = true
      ∧ ∀ file d, ¬ Declares (registry.contents file) d symbol := by
  obtain ⟨file, hfile, e, he, v, hv, rfl⟩ := hsymbol
  have hnot : ∀ file d, ¬ Declares (registry.contents file) d (String.singleton '.' ++ v.text) := by
    intro file d hd
    obtain ⟨scope, name, hname⟩ := hd.qualified
    exact qualify_ne_dotted scope name v hname.symm
  refine ⟨?_, hnot⟩
  have hdesc : findDesc registry (String.singleton '.' ++ v.text) = none := by
    cases hdesc : findDesc registry (String.singleton '.' ++ v.text) with
    | none => rfl
    | some found =>
        obtain ⟨-, d, hd⟩ := findDesc_some hdesc
        exact absurd hd (hnot found d)
  have hcut : rpartition '.' (String.singleton '.' ++ v.text) = ("", v.text) := by
    have happend := rpartition_append "" v.undotted
    rwa [String.empty_append] at happend
  rw [findFileForSymbol_member hdesc hcut]
  exact h.findMember_value hfile he hv

/-- **Lookup finds exactly the declared symbols**, unless a dot stands in front of a value
    of an enum outside all packages and messages. -/
theorem finds_exactly_iff (h : Lawful registry) (symbol : String) :
    FindsExactly registry symbol ↔ ¬ Unscoped registry symbol := by
  constructor
  · intro hexact hsymbol
    obtain ⟨hfound, hnot⟩ := hsymbol.found h
    obtain ⟨file, hfile⟩ := Option.isSome_iff_exists.mp hfound
    obtain ⟨-, d, hd⟩ := (hexact.some_iff file).mp hfile
    exact hnot file d hd
  · intro hsymbol
    have hsound : ∀ file, findFileForSymbol registry symbol = some file →
        file ∈ registry.files ∧ ∃ d, Declares (registry.contents file) d symbol := by
      intro file hfound
      obtain ⟨hfile, hd⟩ := findFileForSymbol_some hfound
      exact ⟨hfile, hd.resolve_right hsymbol⟩
    refine ⟨fun file => ⟨hsound file, ?_⟩, ?_, ?_⟩
    · rintro ⟨hfile, d, hd⟩
      obtain ⟨found, hfound⟩ := Option.isSome_iff_exists.mp (h.findFileForSymbol_isSome hfile hd)
      obtain ⟨hfile', d', hd'⟩ := hsound found hfound
      rw [hfound, (h.unique hfile' hfile hd' hd).1]
    · intro hnone file hfile d hd
      have hsome := h.findFileForSymbol_isSome hfile hd
      rw [hnone] at hsome
      exact nomatch hsome
    · intro hnone
      cases hfound : findFileForSymbol registry symbol with
      | none => rfl
      | some file =>
          obtain ⟨hfile, d, hd⟩ := hsound file hfound
          exact absurd hd (hnone file hfile d)

/-! ## A file with an enum beside a message -/

namespace Colors

def color : DescEnum := ⟨⟨"Color", by decide, by decide⟩, [⟨"RED", by decide, by decide⟩]⟩

def paint : DescMessage :=
  .mk ⟨"Paint", by decide, by decide⟩ [⟨"color", by decide, by decide⟩] [] [] [] []

def file : DescFile := ⟨"colors.proto", "", [paint], [color], [], []⟩

def files : Registry Unit := ⟨fun _ => file, [()]⟩

theorem hasMessage {n : String} {m : DescMessage} (h : HasMessage file n m) :
    n = "Paint" ∧ m = paint := by
  induction h with
  | top hm =>
      obtain rfl := List.mem_singleton.mp hm
      exact ⟨by decide, rfl⟩
  | nested _ hk ih =>
      obtain ⟨-, rfl⟩ := ih
      exact nomatch hk

theorem hasEnum {scope : String} {e : DescEnum} (h : HasEnum file scope e) :
    scope = "" ∧ e = color := by
  cases h with
  | top he => exact ⟨rfl, List.mem_singleton.mp he⟩
  | nested hm he =>
      obtain ⟨-, rfl⟩ := hasMessage hm
      exact nomatch he

theorem hasExtension {scope : String} {x : DescExtension} : ¬ HasExtension file scope x := by
  intro h
  cases h with
  | top hx => exact nomatch hx
  | nested hm hx =>
      obtain ⟨-, rfl⟩ := hasMessage hm
      exact nomatch hx

/-- The names of the file. -/
def declarations : List (Decl × String) :=
  [(.message paint, "Paint"), (.enum color, "Color"), (.field, "Paint.color"), (.value, "RED")]

theorem declares {d : Decl} {n : String} (h : Declares file d n) : (d, n) ∈ declarations := by
  cases h with
  | message hm =>
      obtain ⟨rfl, rfl⟩ := hasMessage hm
      exact List.mem_cons_self
  | enum he =>
      obtain ⟨rfl, rfl⟩ := hasEnum he
      exact List.mem_cons_of_mem _ List.mem_cons_self
  | service hs => exact nomatch hs
  | extension hx => exact absurd hx hasExtension
  | method hs => exact nomatch hs
  | field hm hv =>
      obtain ⟨rfl, rfl⟩ := hasMessage hm
      obtain rfl := List.mem_singleton.mp hv
      exact List.mem_cons_of_mem _ (List.mem_cons_of_mem _ List.mem_cons_self)
  | oneof hm hv =>
      obtain ⟨-, rfl⟩ := hasMessage hm
      exact nomatch hv
  | value he hv =>
      obtain ⟨rfl, rfl⟩ := hasEnum he
      obtain rfl := List.mem_singleton.mp hv
      exact List.mem_cons_of_mem _ (List.mem_cons_of_mem _ (List.mem_cons_of_mem _
        List.mem_cons_self))

theorem lawful : Lawful files where
  unique := by
    intro _ _ d d' n _ _ h h'
    have hnodup : (declarations.map Prod.snd).Nodup := by decide
    have heq : (d, n) = (d', n) :=
      List.inj_on_of_nodup_map hnodup (declares h) (declares h') rfl
    exact ⟨rfl, congrArg Prod.fst heq⟩
  packages := by
    intro _ _ d _ _ h
    have hnames : "" ∉ declarations.map Prod.snd := by decide
    exact hnames (List.mem_map.mpr ⟨_, declares h, rfl⟩)

end Colors

/-- The value is found under its name, and the field too. -/
theorem finds_exactly_iff_colors :
    (FindsExactly Colors.files "RED" ↔ ¬ Unscoped Colors.files "RED")
      ∧ findFileForSymbol Colors.files "RED" = some ()
      ∧ findFileForSymbol Colors.files "Paint.color" = some () :=
  ⟨finds_exactly_iff Colors.lawful "RED", by decide, by decide⟩

/-- But also with a dot in front. -/
theorem finds_exactly_dotted :
    Lawful Colors.files ∧ findFileForSymbol Colors.files ".RED" = some ()
      ∧ (∀ d, ¬ Declares Colors.file d ".RED") ∧ ¬ FindsExactly Colors.files ".RED" := by
  have hfound : findFileForSymbol Colors.files ".RED" = some () := by decide
  have hnot : ∀ d, ¬ Declares Colors.file d ".RED" := by
    intro d h
    have hnames : ".RED" ∉ Colors.declarations.map Prod.snd := by decide
    exact hnames (List.mem_map.mpr ⟨_, Colors.declares h, rfl⟩)
  refine ⟨Colors.lawful, hfound, hnot, fun hexact => ?_⟩
  obtain ⟨-, d, hd⟩ := (hexact.some_iff ()).mp hfound
  exact hnot d hd

end ConnectSymbols
