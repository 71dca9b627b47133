import SearchStore.Proofs.Json.Merge
import SearchStore.Storage.Reader
import SearchStore.Storage.Writer

/-!
# Addresses of documents

A document is kept under an index, a type and an identifier. All requests of writers and readers for one document
name the index and the type of their target and the identifier that they are given (`Addresses`), whatever the
configured parameters say. A request that stores documents carries them as they are, unless the configured
parameters have a body of their own (`body_indexRequest`, `body_bulkRequest`).
-/

namespace SearchStore

/-- Where a document is kept. -/
structure DocumentKey where
  index : String
  docType : String
  identifier : String
deriving DecidableEq, Repr

/-- The key of a document of the target. -/
def Target.key (t : Target) (identifier : String) : DocumentKey :=
  ⟨t.index.render, t.docType.render, identifier⟩

/-- Parameters that name a key. -/
structure Addresses (key : DocumentKey) (params : Json) : Prop where
  index : params.get? "index" = some (.string key.index)
  docType : params.get? "type" = some (.string key.docType)
  identifier : params.get? "id" = some (.string key.identifier)

theorem MethodParameters.layers_layer (p : MethodParameters) (method : String) (sources : List Fields) :
    Json.layers (p.layer method :: sources.map .object) =
      .object (sources.foldl Json.mergeFields
        (Json.mergeFields [] ((Assoc.get? method p.methods).getD []))) :=
  Json.layers_objects ((Assoc.get? method p.methods).getD [] :: sources)

theorem Target.keys_address (t : Target) (identifier : String) :
    Assoc.keys (t.address identifier) = ["index", "type", "id"] := rfl

theorem Target.nodup_keys_address (t : Target) (identifier : String) :
    (Assoc.keys (t.address identifier)).Nodup := by
  rw [keys_address]
  decide

/-- An address names its key over whatever is configured. -/
theorem Target.addresses_mergeFields (t : Target) (identifier : String) (configured : Fields) :
    Addresses (t.key identifier) (.object (Json.mergeFields configured (t.address identifier))) := by
  have hkeys := t.nodup_keys_address identifier
  exact
    { index := Json.get?_mergeFields_atom (Json.isAtom_string _) _ hkeys rfl
      docType := Json.get?_mergeFields_atom (Json.isAtom_string _) _ hkeys rfl
      identifier := Json.get?_mergeFields_atom (Json.isAtom_string _) _ hkeys rfl }

theorem Addresses.mergeFields_singleton {key : DocumentKey} {params : Fields}
    (h : Addresses key (.object params)) {name : String} (value : Json)
    (hname : name ∉ ["index", "type", "id"]) :
    Addresses key (.object (Json.mergeFields params [(name, value)])) := by
  have hkeep : ∀ k ∈ ["index", "type", "id"],
      Assoc.get? k (Json.mergeFields params [(name, value)]) = Assoc.get? k params := by
    intro k hk
    apply Json.get?_mergeFields_of_absent
    rw [Assoc.get?_eq_none_iff, Assoc.keys, List.map_singleton, List.mem_singleton]
    rintro rfl
    exact hname hk
  exact
    { index := (hkeep "index" (by simp)).trans h.index
      docType := (hkeep "type" (by simp)).trans h.docType
      identifier := (hkeep "id" (by simp)).trans h.identifier }

/-! ### Requests of writers -/

namespace Writer

variable (w : Writer) (identifier : String)

theorem indexRequest_eq (body : Json) : ∃ configured,
    w.config.parameters.layer "index" = .object configured ∧
    w.indexRequest identifier body = .object
      (Json.mergeFields
        (Json.mergeFields (Json.mergeFields [] configured) (w.target.address identifier))
        [("body", body)]) := by
  refine ⟨_, rfl, ?_⟩
  rw [← Json.mergeFields_append]
  exact w.config.parameters.layers_layer "index" [w.target.address identifier ++ [("body", body)]]

theorem addresses_indexRequest (body : Json) :
    Addresses (w.target.key identifier) (w.indexRequest identifier body) := by
  obtain ⟨configured, -, hrequest⟩ := w.indexRequest_eq identifier body
  rw [hrequest]
  exact (w.target.addresses_mergeFields identifier _).mergeFields_singleton body (by decide)

theorem body_indexRequest (hbody : (w.config.parameters.layer "index").get? "body" = none)
    (body : Json) : (w.indexRequest identifier body).get? "body" = some body := by
  obtain ⟨configured, hconfigured, hrequest⟩ := w.indexRequest_eq identifier body
  rw [hconfigured, Json.get?] at hbody
  have habsent : Assoc.get? "body"
      (Json.mergeFields (Json.mergeFields [] configured) (w.target.address identifier)) = none := by
    rw [Json.get?_mergeFields_of_absent rfl, Json.get?_mergeFields_of_absent hbody]
    rfl
  rw [hrequest, Json.get?, Json.get?_mergeFields _ _ (by simp [Assoc.keys]), habsent]
  rfl

theorem body_bulkRequest (hbody : (w.config.parameters.layer "bulk").get? "body" = none)
    (lines : List Json) : (w.bulkRequest lines).get? "body" = some (.array lines) := by
  have hrequest := w.config.parameters.layers_layer "bulk" [[("body", .array lines)]]
  rw [MethodParameters.layer, Json.get?] at hbody
  rw [show w.bulkRequest lines = _ from hrequest, Json.get?, List.foldl_cons, List.foldl_nil,
    Json.get?_mergeFields _ _ (by simp [Assoc.keys]), Json.get?_mergeFields_of_absent hbody]
  rfl

theorem addresses_lookupRequest :
    Addresses (w.target.key identifier) (w.lookupRequest identifier) := by
  have hrequest := w.config.parameters.layers_layer "get"
    [w.target.address identifier, [("refresh", .bool false)]]
  rw [show w.lookupRequest identifier = _ from hrequest]
  exact (w.target.addresses_mergeFields identifier _).mergeFields_singleton (.bool false) (by decide)

theorem addresses_deleteRequest :
    Addresses (w.target.key identifier) (w.deleteRequest identifier) := by
  have hrequest := w.config.parameters.layers_layer "delete" [w.target.address identifier]
  rw [show w.deleteRequest identifier = _ from hrequest]
  exact w.target.addresses_mergeFields identifier _

end Writer

/-! ### Requests of readers -/

theorem Reader.addresses_getRequest {ι : Type} (r : Reader ι) (identifier : String) :
    Addresses (r.target.key identifier) (r.getRequest identifier) := by
  have hrequest := r.config.parameters.layers_layer "get" [r.target.address identifier]
  rw [show r.getRequest identifier = _ from hrequest]
  exact r.target.addresses_mergeFields identifier _

end SearchStore
