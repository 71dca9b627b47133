import SearchStore.Proofs.Json.Merge

/-!
# What becomes of values under other layers

Two kinds of values behave differently under a layer that has a value of its own at their key. A list is kept: it
stands in front of the list that is laid over it, so the upper layer does not decide alone what is at the key
(`get?_layers_array`, with `itemsBelow` for what the lower ones bring). An atom replaces what it is laid over. Both
hold at the end of a chain of keys too, where objects are merged on the way (`path?_layers_atom`,
`path?_layers_array`).
-/

namespace SearchStore.Json

/-! ### Lists under lists -/

/-- The items of a list; any other value has none, nor has a missing one. -/
def listItems (value : Option Json) : List Json := (value.bind asArray?).getD []

theorem eq_array_of_mem_listItems {value : Option Json} {item : Json} (h : item ∈ listItems value) :
    value = some (.array (listItems value)) := by
  cases value with
  | none => cases h
  | some value =>
    cases value with
    | array items => rfl
    | null | bool _ | number _ | string _ | object _ => cases h

/-- The items at a key once a layer was laid over those below: a list goes behind them, any other value replaces
them, and a layer without the key leaves them. -/
def itemsUnder (key : String) (below : List Json) (layer : Fields) : List Json :=
  match Assoc.get? key layer with
  | none => below
  | some (.array items) => below ++ items
  | some _ => []

/-- The items at a key of layers that are laid over one another, first to last. -/
def itemsBelow (key : String) (layers : List Fields) : List Json := layers.foldl (itemsUnder key) []

theorem listItems_mergeFields (key : String) (target : Fields) {source : Fields}
    (h : (Assoc.keys source).Nodup) :
    listItems (Assoc.get? key (mergeFields target source)) =
      itemsUnder key (listItems (Assoc.get? key target)) source := by
  rw [get?_mergeFields key target h, itemsUnder]
  cases Assoc.get? key source with
  | none => rfl
  | some value =>
    cases Assoc.get? key target with
    | none => cases value <;> rfl
    | some lower => cases value <;> cases lower <;> simp [listItems, merge, asArray?]

theorem listItems_foldl (key : String) {layers : List Fields}
    (h : ∀ layer ∈ layers, (Assoc.keys layer).Nodup) (target : Fields) :
    listItems (Assoc.get? key (layers.foldl mergeFields target)) =
      layers.foldl (itemsUnder key) (listItems (Assoc.get? key target)) := by
  induction layers generalizing target with
  | nil => rfl
  | cons layer rest ih =>
    obtain ⟨hlayer, hrest⟩ := List.forall_mem_cons.mp h
    rw [List.foldl_cons, List.foldl_cons, ih hrest, listItems_mergeFields key target hlayer]

/-- A list on top of layers stands behind the items that they bring. -/
theorem get?_layers_array {key : String} {layers : List Fields}
    (h : ∀ layer ∈ layers, (Assoc.keys layer).Nodup) {own : Fields} (hown : (Assoc.keys own).Nodup)
    {items : List Json} (hkey : Assoc.get? key own = some (.array items)) :
    (Json.layers ((layers ++ [own]).map .object)).get? key =
      some (.array (itemsBelow key layers ++ items)) := by
  have hbelow := listItems_foldl key h []
  rw [layers_objects, List.foldl_append, List.foldl_cons, List.foldl_nil, Json.get?,
    get?_mergeFields key _ hown, hkey]
  unfold itemsBelow
  rw [show ([] : List Json) = listItems (Assoc.get? key ([] : Fields)) from rfl, ← hbelow]
  cases Assoc.get? key (layers.foldl mergeFields []) with
  | none => rfl
  | some lower => cases lower <;> simp [listItems, merge, asArray?]

/-! ### Values at the end of a chain of keys -/

theorem path?_layer {fields : Fields} (h : (Assoc.keys fields).Nodup) (key : String) (rest : List String) :
    (Json.layers [.object fields]).path? (key :: rest) = (Json.object fields).path? (key :: rest) := by
  rw [show Json.layers [.object fields] = _ from layers_objects [fields]]
  rw [List.foldl_cons, List.foldl_nil, Json.path?, Json.path?, Json.get?, Json.get?,
    get?_mergeFields key [] h]
  cases Assoc.get? key fields with
  | none => rfl
  | some value => rfl

/-- A chain of keys that starts with a key that the layer on top does not have leads to what it leads to
below. -/
theorem path?_layers_of_absent {key : String} {own : Fields} (h : Assoc.get? key own = none)
    (layers : List Fields) (rest : List String) :
    (Json.layers ((layers ++ [own]).map .object)).path? (key :: rest) =
      (Json.layers (layers.map .object)).path? (key :: rest) := by
  rw [layers_objects, layers_objects, List.foldl_append, List.foldl_cons, List.foldl_nil]
  rw [Json.path?, Json.path?, Json.get?, Json.get?, get?_mergeFields_of_absent h]

/-- The value stands at the end of a chain of keys, each of which its object carries once. -/
inductive Carries (value : Json) : List String → Json → Prop
  | here : Carries value [] value
  | there {key : String} {rest : List String} {fields : Fields} {inner : Json}
      (unique : (Assoc.keys fields).Nodup) (entry : Assoc.get? key fields = some inner)
      (below : Carries value rest inner) : Carries value (key :: rest) (.object fields)

theorem Carries.path? {value source : Json} {keys : List String} (h : Carries value keys source) :
    source.path? keys = some value := by
  induction h with
  | here => rfl
  | there unique entry below ih =>
    rw [Json.path?, Json.get?, entry, Option.bind_some]
    exact ih

/-- The value at the end of a chain of keys is laid over what was there, whatever stands on the way to it. -/
theorem path?_merge_of_carries {value source : Json} {keys : List String} (h : Carries value keys source)
    (target : Json) :
    (merge target source).path? keys =
      some (((target.path? keys).map fun lower => merge lower value).getD value) := by
  induction h generalizing target with
  | here => rfl
  | @there key rest fields inner unique entry below ih =>
    -- An object is merged with what is below, and replaces anything else, with the rest of the chain.
    cases htarget : target.asObject? with
    | none =>
      have hnone : target.get? key = none := by
        cases target <;> first | rfl | cases htarget
      rw [merge_object_of_none htarget, (Carries.there unique entry below).path?, Json.path?, hnone]
      rfl
    | some entries =>
      obtain rfl := eq_object_of_asObject? htarget
      rw [merge_object, Json.path?, Json.path?, Json.get?, Json.get?, get?_mergeFields key entries unique,
        entry]
      cases Assoc.get? key entries with
      | none => exact below.path?
      | some lower => exact ih lower

theorem path?_layers_atom {value : Json} (hvalue : value.IsAtom) {keys : List String} {source : Fields}
    (h : Carries value keys (.object source)) (lower : Json) :
    (Json.layers [lower, .object source]).path? keys = some value := by
  refine (path?_merge_of_carries h (merge empty lower)).trans ?_
  cases (merge empty lower).path? keys with
  | none => rfl
  | some below => rw [Option.map_some, Option.getD_some, merge_atom below hvalue]

theorem path?_layers_array {items : List Json} {keys : List String} {source : Fields}
    (h : Carries (.array items) keys (.object source)) (lower : Json) :
    (Json.layers [lower, .object source]).path? keys =
      some (.array (listItems ((Json.layers [lower]).path? keys) ++ items)) := by
  refine (path?_merge_of_carries h (merge empty lower)).trans ?_
  rw [show Json.layers [lower] = merge empty lower from rfl]
  cases (merge empty lower).path? keys with
  | none => rfl
  | some below => cases below <;> simp [listItems, merge, asArray?]

end SearchStore.Json
