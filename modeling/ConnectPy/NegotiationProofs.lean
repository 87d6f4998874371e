import ConnectPy.ClientRequestProofs
import ConnectPy.TrailersWireProofs
import ConnectPy.UnaryRequestProofs

/-! # Compression negotiation

    A client lists the compressions it accepts, in order; the server answers with
    the first of them it supports.  Both sides look names up in a dictionary of
    theirs that always has `identity`, so the server's choice is in the client's
    list (`negotiateCompression_accepted`) and the client resolves the name that
    the response declares (`handleResponseCompression_chosen`). -/

namespace ConnectNegotiation

open Utf8 (Bytes)
open OrderedDict ConnectErrors ConnectPlatform ConnectHeaders ConnectTrailersWire
open ConnectUnaryRequest ConnectClientRequest

variable {p : Platform}

/-! ## The functions -/

/-- `resolve_compressions`, where `gzip` is `_gzip`. -/
def resolveCompressions (gzip : Compression) : Option (List Compression) → Compressions
  | none => (Dict.empty.insert "gzip" gzip).insert "identity" .identity
  -- Identity is always supported.
  | some compressions => (Dict.byKey Compression.name compressions).insert "identity" .identity

/-- `",".join(compressions.keys())`. -/
def acceptHeader (compressions : Compressions) : String :=
  String.intercalate "," compressions.keys

/-- `negotiate_compression`. -/
def negotiateCompression (acceptEncoding : String) (compressions : Compressions) : Compression :=
  (((acceptEncoding.toList.splitOn ',').map String.ofList).findSome? fun accept =>
    compressions.get? (Utf8.strip accept)).getD .identity

/-- The header in which a client of the protocol lists what it accepts. -/
def acceptCompressionHeader : ServerProtocol → String
  | .connect => "connect-accept-encoding"
  | .grpc => "grpc-accept-encoding"
  | .grpcWeb => "grpc-accept-encoding"

/-- `negotiate_stream_compression`. -/
def negotiateStreamCompression (protocol : ServerProtocol) (headers : Headers p)
    (compressions : Compressions) : Option Compression × Compression :=
  (compressions.get? (orIdentity (headers.get? protocol.compressionHeaderName)),
    negotiateCompression ((headers.get? (acceptCompressionHeader protocol)).getD "") compressions)

/-- `handle_response_compression`. -/
def handleResponseCompression (protocol : ClientProtocol) (stream : Bool)
    (headers : p.HTTPHeaders) (compressions : Compressions) : Except Exc Compression :=
  match p.getHeader headers (protocol.compressionHeader stream) with
  | none => .ok .identity
  | some encoding =>
      if encoding = "" then .ok .identity
      else
        match compressions.get? encoding with
        | some compression => .ok compression
        | none =>
            let accepted := String.intercalate ", " compressions.keys
            .error (.connect .internal
              s!"unknown encoding '{encoding}'; accepted encodings are {accepted}")

/-! ## Dictionaries of compressions -/

/-- Compressions under their own names, among them `identity`. -/
structure Resolved (compressions : Compressions) : Prop where
  name     : ∀ {name c}, compressions.get? name = some c → c.name = name
  identity : compressions.get? "identity" = some .identity

theorem resolved_insert_identity {d : Compressions}
    (hd : ∀ name c, d.get? name = some c → c.name = name) :
    Resolved (d.insert "identity" .identity) where
  name := fun {_ c} h => Dict.key_of_get?_insert (v := c) hd .identity h
  identity := Dict.get?_insert_self _ _ _

theorem resolved_resolveCompressions {gzip : Compression} (hgzip : gzip.name = "gzip")
    (compressions : Option (List Compression)) :
    Resolved (resolveCompressions gzip compressions) := by
  cases compressions with
  | none =>
      refine resolved_insert_identity ?_
      rw [← hgzip]
      exact fun name c h =>
        Dict.key_of_get?_insert (d := Dict.empty) (fun _ _ h => nomatch h) gzip h
  | some compressions => exact resolved_insert_identity fun _ _ h => Dict.key_of_get?_byKey _ h

/-- Only the built-in compression is found under the name `identity`. -/
theorem Resolved.isIdentity_iff {compressions : Compressions} (h : Resolved compressions)
    {name : String} {c : Compression} (hc : compressions.get? name = some c) :
    c.isIdentity = true ↔ name = "identity" := by
  constructor
  · intro hi
    rw [← h.name hc]
    cases c with
    | identity => rfl
    | custom c => exact nomatch hi
  · rintro rfl
    rw [h.identity] at hc
    exact Option.some.inj hc ▸ rfl

theorem Resolved.keys_ne_nil {compressions : Compressions} (h : Resolved compressions) :
    compressions.keys ≠ [] := by
  intro hnil
  have hmem : "identity" ∈ compressions.keys :=
    (Dict.contains_iff _ _).mp (by rw [Dict.contains, h.identity]; rfl)
  rw [hnil] at hmem
  cases hmem

/-- Names that survive joining with commas, splitting and stripping. -/
def Listable (names : List String) : Prop :=
  ∀ name ∈ names, name ≠ "" ∧ ',' ∉ name.toList ∧ Utf8.Stripped name

/-- Listable compressions are a listable dictionary. -/
theorem listable_resolveCompressions {gzip : Compression}
    {compressions : Option (List Compression)}
    (h : ∀ cs ∈ compressions, Listable (cs.map Compression.name)) :
    Listable (resolveCompressions gzip compressions).keys := by
  have hidentity : "identity" ≠ "" ∧ ',' ∉ "identity".toList ∧ Utf8.Stripped "identity" := by
    decide
  intro name hname
  cases compressions with
  | none =>
      rw [resolveCompressions, Dict.mem_keys_insert, Dict.mem_keys_insert] at hname
      rcases hname with rfl | rfl | hname
      · exact hidentity
      · decide
      · exact nomatch hname
  | some compressions =>
      rw [resolveCompressions, Dict.mem_keys_insert, Dict.mem_keys_byKey] at hname
      rcases hname with rfl | hname
      · exact hidentity
      · exact h compressions rfl name hname

/-! ## The server's choice -/

/-- What the server reads from the accept header is what the client listed. -/
theorem split_acceptHeader {compressions : Compressions} (hne : compressions.keys ≠ [])
    (h : Listable compressions.keys) :
    ((acceptHeader compressions).toList.splitOn ',').map String.ofList = compressions.keys := by
  have hlist : (acceptHeader compressions).toList
      = [','].intercalate (compressions.keys.map String.toList) := by
    rw [acceptHeader, String.toList_intercalate]
    rfl
  rw [hlist, List.splitOn_intercalate]
  · rw [List.map_map]
    exact List.map_id'' (fun _ => String.ofList_toList) _
  · intro l hl
    obtain ⟨name, hname, rfl⟩ := List.mem_map.mp hl
    exact (h name hname).2.1
  · simpa using hne

/-- The first of some names that a dictionary has, and what it has there. -/
theorem findSome?_get? (compressions : Compressions) (names : List String)
    (h : ∀ name ∈ names, Utf8.Stripped name) :
    names.findSome? (fun name => compressions.get? (Utf8.strip name))
      = (names.find? compressions.contains).bind compressions.get? := by
  induction names with
  | nil => rfl
  | cons name names ih =>
      rw [List.findSome?_cons, List.find?_cons, Utf8.strip_of_stripped (h name (by simp)),
        Dict.contains]
      cases hc : compressions.get? name with
      | some c =>
          dsimp only [Option.isSome_some, Option.bind_some]
          exact hc.symm
      | none => exact ih fun n hn => h n (List.mem_cons_of_mem _ hn)

/-- **The server's choice** is the first name of the client's list that the server
    supports; there is one, since both know `identity`. -/
theorem negotiateCompression_accepted {client server : Compressions} (hclient : Resolved client)
    (hlist : Listable client.keys) (hserver : Resolved server) :
    ∃ name ∈ client.keys, client.keys.find? server.contains = some name
      ∧ server.get? name = some (negotiateCompression (acceptHeader client) server)
      ∧ (negotiateCompression (acceptHeader client) server).name = name := by
  have hidentity : "identity" ∈ client.keys :=
    (Dict.contains_iff _ _).mp (by rw [Dict.contains, hclient.identity]; rfl)
  have hsome : (client.keys.find? server.contains).isSome = true := by
    rw [List.find?_isSome]
    exact ⟨"identity", hidentity, by rw [Dict.contains, hserver.identity]; rfl⟩
  obtain ⟨name, hfind⟩ := Option.isSome_iff_exists.mp hsome
  have hcontains : server.contains name = true := List.find?_some hfind
  obtain ⟨c, hc⟩ := Option.isSome_iff_exists.mp hcontains
  have hchoice : negotiateCompression (acceptHeader client) server = c := by
    rw [negotiateCompression, split_acceptHeader hclient.keys_ne_nil hlist,
      findSome?_get? _ _ fun n hn => (hlist n hn).2.2, hfind, Option.bind_some, hc]
    rfl
  rw [hchoice]
  exact ⟨name, List.mem_of_find?_eq_some hfind, hfind, hc, hserver.name hc⟩

/-- **The client resolves** the name that the response declares. -/
theorem handleResponseCompression_declared {client : Compressions} (hclient : Resolved client)
    (hlist : Listable client.keys) {protocol : ClientProtocol} {stream : Bool}
    {headers : p.HTTPHeaders} {name : String} (hname : name ∈ client.keys)
    (hheader : p.getHeader headers (protocol.compressionHeader stream) = some name) :
    ∃ c, handleResponseCompression protocol stream headers client = .ok c ∧ c.name = name
      ∧ (c.isIdentity = true ↔ name = "identity") := by
  have hcontains : client.contains name = true := (Dict.contains_iff _ _).mpr hname
  obtain ⟨c, hc⟩ := Option.isSome_iff_exists.mp hcontains
  refine ⟨c, ?_, hclient.name hc, hclient.isIdentity_iff hc⟩
  rw [handleResponseCompression, hheader]
  dsimp only
  rw [if_neg (hlist name hname).1, hc]

end ConnectNegotiation
