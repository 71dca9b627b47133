import SearchStore.Engine.Script
import SearchStore.Proofs.Finder.Calls
import SearchStore.Proofs.Json.Layers

/-!
# What finders address

The target of a finder lies on top of the layers of each of its requests, but the names in it are lists. So a
request names, in front of the indices and types of the finder, whatever items the configured parameters and the
query bring along as lists under the same keys. `targets_iff` says of all operations what their requests name, and
that these are the names of the finder alone exactly if no items come from below.
-/

namespace SearchStore

variable {ι σ : Type}

namespace Finder

/-- Parameters that name the indices and types of the finder, and no others. -/
structure Targets (f : Finder ι) (params : Json) : Prop where
  index : params.get? "index" = some f.index.toJson
  docType : params.get? "type" = some f.docType.toJson

/-- The configured parameters of a method. -/
def configured (f : Finder ι) (method : String) : Fields :=
  (Assoc.get? method f.config.parameters.methods).getD []

end Finder

namespace FinderCall

/-- The layers below the target: the configured parameters, and the query if the operation takes one. -/
def lower (f : Finder ι) : FinderCall → List Fields
  | get _ => [f.configured "get"]
  | mget _ => [f.configured "mget"]
  | search query | searchByTemplate query | openScroll query => [f.configured "search", query]

/-- The layer on top: the target, and what the operation adds to it. -/
def own (f : Finder ι) : FinderCall → Fields
  | get identifier => f.target ++ [("id", .string identifier)]
  | mget identifiers =>
    f.target ++
      [("body", .object [("ids", Json.strings identifiers), ("size", .natural Finder.mgetSize)])]
  | search _ | searchByTemplate _ => f.target
  | openScroll _ => f.target ++ [f.scrollEntry, ("sort", Finder.scrollSort)]

theorem params_call (f : Finder ι) (c : FinderCall) :
    (c.call f).params = Json.layers ((c.lower f ++ [c.own f]).map .object) := by
  cases c <;> rfl

theorem nodup_keys_own (f : Finder ι) (c : FinderCall) : (Assoc.keys (c.own f)).Nodup := by
  have hkeys : ∃ others ∈ [[], ["id"], ["body"], ["scroll", "sort"]],
      Assoc.keys (c.own f) = ["index", "type"] ++ others := by
    cases c <;> simp [own, Assoc.keys, Finder.target, Finder.scrollEntry]
  have hnodup : ∀ others ∈ [[], ["id"], ["body"], ["scroll", "sort"]],
      (["index", "type"] ++ others).Nodup := by decide
  obtain ⟨others, hothers, heq⟩ := hkeys
  rw [heq]
  exact hnodup others hothers

theorem get?_call {f : Finder ι} {c : FinderCall}
    (hunique : ∀ layer ∈ c.lower f, (Assoc.keys layer).Nodup) {key : String} {names : Selection}
    (hkey : Assoc.get? key (c.own f) = some names.toJson) :
    (c.call f).params.get? key =
      some (.array (Json.itemsBelow key (c.lower f) ++ names.names.map .string)) := by
  rw [params_call]
  exact Json.get?_layers_array hunique (c.nodup_keys_own f) hkey

end FinderCall

/-- **What requests of finders name.** The request of an operation names the indices and the types of the finder
behind the items that the configured parameters and the query bring under `index` and `type`. It names exactly
those of the finder if and only if there are no such items: at each of the two keys, a value that is no list hides
what lies below it, and the lists above the last such value are empty. -/
theorem targets_iff {f : Finder ι} {c : FinderCall}
    (hunique : ∀ layer ∈ c.lower f, (Assoc.keys layer).Nodup) (engine : Engine σ) (state : σ) :
    ∀ call ∈ ((c.perform f).execute engine state).calls,
      call.params.get? "index" =
        some (.array (Json.itemsBelow "index" (c.lower f) ++ f.index.names.map .string)) ∧
      call.params.get? "type" =
        some (.array (Json.itemsBelow "type" (c.lower f) ++ f.docType.names.map .string)) ∧
      (f.Targets call.params ↔ ∀ key ∈ ["index", "type"], Json.itemsBelow key (c.lower f) = []) := by
  intro call hcall
  obtain rfl := FinderCall.eq_call_of_mem hcall
  have hown : Assoc.get? "index" (c.own f) = some f.index.toJson ∧
      Assoc.get? "type" (c.own f) = some f.docType.toJson := by
    cases c <;> exact ⟨rfl, rfl⟩
  have hindex := FinderCall.get?_call hunique hown.1
  have htype := FinderCall.get?_call hunique hown.2
  refine ⟨hindex, htype, ?_⟩
  constructor
  · intro htargets key hkey
    have hsame := htargets.index.symm.trans hindex
    have hsame' := htargets.docType.symm.trans htype
    simp only [Selection.toJson, Json.strings, Option.some.injEq, Json.array.injEq,
      List.self_eq_append_left] at hsame hsame'
    simp only [List.mem_cons, List.not_mem_nil, or_false] at hkey
    rcases hkey with rfl | rfl
    · exact hsame
    · exact hsame'
  · intro hnone
    rw [hnone "index" (by simp), List.nil_append] at hindex
    rw [hnone "type" (by simp), List.nil_append] at htype
    exact ⟨hindex, htype⟩

/-- A query with an index of its own that is no list, over configured parameters with a type that is one. -/
theorem targets_library :
    let parameters : MethodParameters :=
      ⟨[("search", [("index", Json.strings ["archive"]), ("preference", .string "_local")])]⟩
    let f : Finder Json :=
      { connector := {}, mapper := .source
        config := { index := some ⟨["library"]⟩, docType := some ⟨["book"]⟩, parameters } }
    let query : Fields := [("from", .natural 20), ("index", .string "archive")]
    (∀ layer ∈ (FinderCall.search query).lower f, (Assoc.keys layer).Nodup) ∧
    ∃ call, ((f.find (.object query)).execute Script.engine {}).calls = [call] ∧ f.Targets call.params := by
  intro parameters f query
  have hunique : ∀ layer ∈ (FinderCall.search query).lower f, (Assoc.keys layer).Nodup := by decide
  obtain ⟨call, hcalls⟩ : ∃ call, ((f.find (.object query)).execute Script.engine {}).calls = [call] :=
    ⟨_, rfl⟩
  have hmem : call ∈ (((FinderCall.search query).perform f).execute Script.engine {}).calls := by
    rw [FinderCall.perform, hcalls]
    exact List.mem_singleton_self call
  have htargets := (targets_iff hunique Script.engine {} call hmem).2.2
  exact ⟨hunique, call, hcalls, htargets.mpr (by decide +kernel)⟩

/-- A query with a list of indices is a search of these indices too, and so is a configured list of indices. -/
theorem not_targets_archive :
    let archive : Fields := [("index", Json.strings ["archive"])]
    let config : FinderConfig := { index := some ⟨["library"]⟩, docType := some ⟨["book"]⟩ }
    let f : Finder Json := { connector := {}, mapper := .source, config }
    let g : Finder Json := { f with config := { config with parameters := ⟨[("get", archive)]⟩ } }
    (∃ call ∈ ((f.find (.object archive)).execute Script.engine {}).calls,
      call.params.get? "index" = some (Json.strings ["archive", "library"]) ∧ ¬ f.Targets call.params) ∧
    ∃ call ∈ ((g.getByIdentifier "dune").execute Script.engine {}).calls,
      call.params.get? "index" = some (Json.strings ["archive", "library"]) ∧ ¬ g.Targets call.params := by
  intro archive config f g
  have hindex : ∀ {h : Finder Json} {params : Json}, h.index = ⟨["library"]⟩ →
      params.get? "index" = some (Json.strings ["archive", "library"]) → ¬ h.Targets params := by
    intro h params hlibrary hparams htargets
    have hnames := htargets.index.symm.trans hparams
    rw [hlibrary] at hnames
    revert hnames
    decide
  have hfind : ((f.find (.object archive)).execute Script.engine {}).calls =
      [⟨.search, f.searchRequest (.object archive)⟩] := rfl
  have hget : ((g.getByIdentifier "dune").execute Script.engine {}).calls =
      [⟨.get, g.getRequest "dune"⟩] := rfl
  rw [hfind, hget]
  have hsearched : (f.searchRequest (.object archive)).get? "index" =
      some (Json.strings ["archive", "library"]) := by decide +kernel
  have hfetched : (g.getRequest "dune").get? "index" = some (Json.strings ["archive", "library"]) := by
    decide +kernel
  exact ⟨⟨_, List.mem_singleton_self _, hsearched, hindex rfl hsearched⟩,
    ⟨_, List.mem_singleton_self _, hfetched, hindex rfl hfetched⟩⟩

end SearchStore
