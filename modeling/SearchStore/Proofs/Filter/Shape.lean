import SearchStore.Clause.Leaf

/-!
# Shapes and their clauses

The clause of a shape has the path of the attribute as a key. For boxes and polygons it stands alone; for circles and
rings it stands beside the keys of the radii (`Geometry.fixedKeys`), and a path that is one of these overwrites a
radius. With any other path the whole shape is read back from its clause (`shapeOf?_shapeClause`).
`determinesShape_iff` says that no other shape has the same clause exactly for these paths.

How points are written is not looked into: all that is asked of it is that the points in question have different
texts.
-/

namespace SearchStore

open Clause (shapeClause spatialClause)

namespace Geometry

/-- The points of a shape, in order. -/
def points : Geometry → List Point
  | circle center _ => [center]
  | annulus center _ _ => [center]
  | box topLeft bottomRight => [topLeft, bottomRight]
  | polygon vertices => vertices

/-- The keys that stand beside the path in the clause of a shape. -/
def fixedKeys : Geometry → List String
  | circle _ _ => ["distance"]
  | annulus _ _ _ => ["from", "to"]
  | box _ _ => []
  | polygon _ => []

end Geometry

/-! ### Reading a shape back -/

section
variable (point? : String → Option Point)

/-- The text at a chain of keys. -/
def textAt? (clause : Json) (keys : List String) : Option String := (clause.path? keys).bind Json.asString?

/-- The point whose text stands at a chain of keys. -/
def pointAt? (clause : Json) (keys : List String) : Option Point := (textAt? clause keys).bind point?

/-- The circle of a clause. -/
def circleOf? (path : String) (clause : Json) : Option Geometry := do
  let center ← pointAt? point? clause ["geo_distance", path]
  let radius ← textAt? clause ["geo_distance", "distance"]
  some (.circle center radius)

/-- The ring of a clause. -/
def annulusOf? (path : String) (clause : Json) : Option Geometry := do
  let center ← pointAt? point? clause ["geo_distance_range", path]
  let inner ← textAt? clause ["geo_distance_range", "from"]
  let outer ← textAt? clause ["geo_distance_range", "to"]
  some (.annulus center inner outer)

/-- The box of a clause. -/
def boxOf? (path : String) (clause : Json) : Option Geometry := do
  let topLeft ← pointAt? point? clause ["geo_bounding_box", path, "top_left"]
  let bottomRight ← pointAt? point? clause ["geo_bounding_box", path, "bottom_right"]
  some (.box topLeft bottomRight)

/-- The polygon of a clause. -/
def polygonOf? (path : String) (clause : Json) : Option Geometry := do
  let items ← (clause.path? ["geo_polygon", path, "points"]).bind Json.asArray?
  let vertices ← items.mapM fun item => item.asString?.bind point?
  some (.polygon vertices)

/-- Reads the shape of a clause, given how points are read. -/
def shapeOf? (path : String) (clause : Json) : Option Geometry :=
  circleOf? point? path clause <|> annulusOf? point? path clause <|> boxOf? point? path clause <|>
    polygonOf? point? path clause

variable {point?}

theorem mapM_eq_self {f : Point → Option Point} {vertices : List Point} (h : ∀ p ∈ vertices, f p = some p) :
    vertices.mapM f = some vertices := by
  induction vertices with
  | nil => rfl
  | cons p rest ih =>
    obtain ⟨hp, hrest⟩ := List.forall_mem_cons.mp h
    simp [ih hrest, hp]

theorem path?_entry (key other : String) (body : Json) (keys : List String) :
    (Json.object [(key, body)]).path? (other :: keys) = if key = other then body.path? keys else none := by
  by_cases h : key = other <;> simp [Json.path?, Json.get?, Assoc.get?, h]

theorem textAt?_entry (key : String) (body : Json) (keys : List String) :
    textAt? (.object [(key, body)]) (key :: keys) = textAt? body keys := by
  rw [textAt?, path?_entry, if_pos rfl, textAt?]

theorem textAt?_field {key text : String} {fields : List (String × Json)}
    (h : Assoc.get? key fields = some (.string text)) : textAt? (.object fields) [key] = some text := by
  simp [textAt?, Json.path?, Json.get?, h, Json.asString?]

variable {path key : String} {body : Json}

theorem circleOf?_of_ne (h : key ≠ "geo_distance") : circleOf? point? path (.object [(key, body)]) = none := by
  simp [circleOf?, pointAt?, textAt?, path?_entry, h]

theorem annulusOf?_of_ne (h : key ≠ "geo_distance_range") :
    annulusOf? point? path (.object [(key, body)]) = none := by
  simp [annulusOf?, pointAt?, textAt?, path?_entry, h]

theorem boxOf?_of_ne (h : key ≠ "geo_bounding_box") : boxOf? point? path (.object [(key, body)]) = none := by
  simp [boxOf?, pointAt?, textAt?, path?_entry, h]

theorem circleOf?_shapeClause {center : Point} {radius : String} (hpath : "distance" ≠ path)
    (hcenter : point? center.render = some center) :
    circleOf? point? path (shapeClause path (.circle center radius)) = some (.circle center radius) := by
  have hplace : textAt? (shapeClause path (.circle center radius)) ["geo_distance", path] = some center.render := by
    rw [shapeClause, textAt?_entry]
    apply textAt?_field
    simp only [Assoc.ofList, List.foldl, Assoc.get?_insert, if_true]
  have hradius : textAt? (shapeClause path (.circle center radius)) ["geo_distance", "distance"] = some radius := by
    rw [shapeClause, textAt?_entry]
    apply textAt?_field
    simp only [Assoc.ofList, List.foldl, Assoc.get?_insert, if_neg hpath, if_true]
  rw [circleOf?, pointAt?, hplace, Option.bind_some, hcenter, hradius]
  rfl

theorem annulusOf?_shapeClause {center : Point} {inner outer : String} (hfrom : "from" ≠ path) (hto : "to" ≠ path)
    (hcenter : point? center.render = some center) :
    annulusOf? point? path (shapeClause path (.annulus center inner outer)) = some (.annulus center inner outer) := by
  have hplace : textAt? (shapeClause path (.annulus center inner outer)) ["geo_distance_range", path] =
      some center.render := by
    rw [shapeClause, textAt?_entry]
    apply textAt?_field
    simp only [Assoc.ofList, List.foldl, Assoc.get?_insert, if_true]
  have hinner : textAt? (shapeClause path (.annulus center inner outer)) ["geo_distance_range", "from"] =
      some inner := by
    have hne : "from" ≠ "to" := by decide
    rw [shapeClause, textAt?_entry]
    apply textAt?_field
    simp only [Assoc.ofList, List.foldl, Assoc.get?_insert, if_neg hfrom, if_neg hne, if_true]
  have houter : textAt? (shapeClause path (.annulus center inner outer)) ["geo_distance_range", "to"] =
      some outer := by
    rw [shapeClause, textAt?_entry]
    apply textAt?_field
    simp only [Assoc.ofList, List.foldl, Assoc.get?_insert, if_neg hto, if_true]
  rw [annulusOf?, pointAt?, hplace, Option.bind_some, hcenter, hinner, houter]
  rfl

theorem boxOf?_shapeClause {topLeft bottomRight : Point} (hfirst : point? topLeft.render = some topLeft)
    (hsecond : point? bottomRight.render = some bottomRight) :
    boxOf? point? path (shapeClause path (.box topLeft bottomRight)) = some (.box topLeft bottomRight) := by
  have htop : textAt? (shapeClause path (.box topLeft bottomRight)) ["geo_bounding_box", path, "top_left"] =
      some topLeft.render := by
    rw [shapeClause, textAt?_entry, textAt?_entry]
    apply textAt?_field
    simp only [Assoc.get?, if_true]
  have hbottom : textAt? (shapeClause path (.box topLeft bottomRight)) ["geo_bounding_box", path, "bottom_right"] =
      some bottomRight.render := by
    have hne : "top_left" ≠ "bottom_right" := by decide
    rw [shapeClause, textAt?_entry, textAt?_entry]
    apply textAt?_field
    simp only [Assoc.get?, if_neg hne, if_true]
  rw [boxOf?, pointAt?, pointAt?, htop, hbottom, Option.bind_some, Option.bind_some, hfirst, hsecond]
  rfl

theorem polygonOf?_shapeClause {vertices : List Point} (hpoints : ∀ p ∈ vertices, point? p.render = some p) :
    polygonOf? point? path (shapeClause path (.polygon vertices)) = some (.polygon vertices) := by
  have hvertices : vertices.mapM ((fun item => item.asString?.bind point?) ∘ Json.string ∘ Point.render) =
      some vertices := mapM_eq_self hpoints
  have hitems : (shapeClause path (.polygon vertices)).path? ["geo_polygon", path, "points"] =
      some (Json.strings (vertices.map Point.render)) := by
    simp only [shapeClause, path?_entry, if_true]
    rfl
  simp [polygonOf?, hitems, Json.strings, Json.asArray?, hvertices]

/-- A shape is read back from its clause, unless the path is one of the keys beside it. -/
theorem shapeOf?_shapeClause {shape : Geometry} (hpath : path ∉ shape.fixedKeys)
    (hpoints : ∀ p ∈ shape.points, point? p.render = some p) :
    shapeOf? point? path (shapeClause path shape) = some shape := by
  cases shape with
  | circle center radius =>
    have hne : "distance" ≠ path := by
      simpa [Geometry.fixedKeys, eq_comm] using hpath
    have hcenter := hpoints center (by simp [Geometry.points])
    rw [shapeOf?, circleOf?_shapeClause hne hcenter]
    rfl
  | annulus center inner outer =>
    obtain ⟨hfrom, hto⟩ : "from" ≠ path ∧ "to" ≠ path := by
      simpa [Geometry.fixedKeys, eq_comm] using hpath
    have hcenter := hpoints center (by simp [Geometry.points])
    have hcircle : circleOf? point? path (shapeClause path (.annulus center inner outer)) = none :=
      circleOf?_of_ne (by decide)
    rw [shapeOf?, hcircle, annulusOf?_shapeClause hfrom hto hcenter]
    rfl
  | box topLeft bottomRight =>
    have hfirst := hpoints topLeft (by simp [Geometry.points])
    have hsecond := hpoints bottomRight (by simp [Geometry.points])
    have hcircle : circleOf? point? path (shapeClause path (.box topLeft bottomRight)) = none :=
      circleOf?_of_ne (by decide)
    have hring : annulusOf? point? path (shapeClause path (.box topLeft bottomRight)) = none :=
      annulusOf?_of_ne (by decide)
    rw [shapeOf?, hcircle, hring, boxOf?_shapeClause hfirst hsecond]
    rfl
  | polygon vertices =>
    have hcircle : circleOf? point? path (shapeClause path (.polygon vertices)) = none :=
      circleOf?_of_ne (by decide)
    have hring : annulusOf? point? path (shapeClause path (.polygon vertices)) = none :=
      annulusOf?_of_ne (by decide)
    have hbox : boxOf? point? path (shapeClause path (.polygon vertices)) = none :=
      boxOf?_of_ne (by decide)
    have hpolygon : polygonOf? point? path (shapeClause path (.polygon vertices)) = some (.polygon vertices) :=
      polygonOf?_shapeClause hpoints
    rw [shapeOf?, hcircle, hring, hbox, hpolygon]
    rfl

end

/-! ### Shapes with the same clause -/

/-- Different points of the list have different texts. -/
def RendersApart (points : List Point) : Prop := ∀ p ∈ points, ∀ q ∈ points, p.render = q.render → p = q

theorem find?_render {points : List Point} (h : RendersApart points) {p : Point} (hp : p ∈ points) :
    points.find? (fun q => q.render == p.render) = some p := by
  have hfound : (points.find? fun q => q.render == p.render).isSome :=
    List.find?_isSome.mpr ⟨p, hp, beq_self_eq_true _⟩
  obtain ⟨q, hq⟩ := Option.isSome_iff_exists.mp hfound
  have hsame : q.render = p.render := by simpa using List.find?_some hq
  rw [hq, h q (List.mem_of_find?_eq_some hq) p hp hsame]

/-- No other shape has the same clause under the path, as far as points have different texts. -/
def DeterminesShape (path : String) (shape : Geometry) : Prop :=
  ∀ other : Geometry, RendersApart (shape.points ++ other.points) →
    spatialClause path (.within other) = spatialClause path (.within shape) → other = shape

theorem spatialClause_within (path : String) (shape : Geometry) :
    spatialClause path (.within shape) = .ok (shapeClause path shape) := by
  simp [spatialClause, Comparison.within]

theorem fixedKeys_eq_of_shapeClause_eq {path : String} {shape other : Geometry}
    (h : shapeClause path other = shapeClause path shape) : other.fixedKeys = shape.fixedKeys := by
  cases shape <;> cases other <;> first | rfl | simp [shapeClause] at h

/-- A path that is the key of a radius overwrites it, so a shape with another radius there has the same clause. -/
theorem exists_ne_of_mem_fixedKeys {path : String} {shape : Geometry} (h : path ∈ shape.fixedKeys) :
    ∃ other : Geometry, other ≠ shape ∧ RendersApart (shape.points ++ other.points) ∧
      shapeClause path other = shapeClause path shape := by
  cases shape with
  | circle center radius =>
    obtain rfl : path = "distance" := by simpa [Geometry.fixedKeys] using h
    exact ⟨.circle center (radius ++ "m"), by simp, by simp [RendersApart, Geometry.points], rfl⟩
  | annulus center inner outer =>
    obtain rfl | rfl : path = "from" ∨ path = "to" := by simpa [Geometry.fixedKeys] using h
    · exact ⟨.annulus center (inner ++ "m") outer, by simp, by simp [RendersApart, Geometry.points], rfl⟩
    · exact ⟨.annulus center inner (outer ++ "m"), by simp, by simp [RendersApart, Geometry.points], rfl⟩
  | box topLeft bottomRight => simp [Geometry.fixedKeys] at h
  | polygon vertices => simp [Geometry.fixedKeys] at h

/-- **When a clause keeps the whole shape.** The clause of a shape determines it exactly if the path of the attribute
is none of the keys that stand beside it: `distance` for circles, `from` and `to` for rings, and none for boxes and
polygons. Then the shape is read back from the clause by whatever reads back its points. -/
theorem determinesShape_iff (path : String) (shape : Geometry) :
    (DeterminesShape path shape ↔ path ∉ shape.fixedKeys) ∧
    (path ∉ shape.fixedKeys → ∀ point? : String → Option Point, (∀ p ∈ shape.points, point? p.render = some p) →
      ∃ clause, spatialClause path (.within shape) = .ok clause ∧ shapeOf? point? path clause = some shape) := by
  refine ⟨⟨?_, ?_⟩, ?_⟩
  · intro hdetermines hmem
    obtain ⟨other, hne, hapart, hclause⟩ := exists_ne_of_mem_fixedKeys hmem
    apply hne
    apply hdetermines other hapart
    rw [spatialClause_within, spatialClause_within, hclause]
  · intro hpath other hapart hsame
    rw [spatialClause_within, spatialClause_within] at hsame
    have hclause := Except.ok.inj hsame
    have hother : path ∉ other.fixedKeys := by rwa [fixedKeys_eq_of_shapeClause_eq hclause]
    let point? := fun text => (shape.points ++ other.points).find? fun q => q.render == text
    have hread : shapeOf? point? path (shapeClause path shape) = some shape :=
      shapeOf?_shapeClause hpath fun p hp => find?_render hapart (List.mem_append_left _ hp)
    have hread' : shapeOf? point? path (shapeClause path other) = some other :=
      shapeOf?_shapeClause hother fun p hp => find?_render hapart (List.mem_append_right _ hp)
    rw [hclause, hread] at hread'
    exact (Option.some.inj hread').symm
  · intro hpath point? hpoints
    exact ⟨shapeClause path shape, spatialClause_within path shape, shapeOf?_shapeClause hpath hpoints⟩

/-- A ring around the origin under a path of its own. -/
theorem determinesShape_place :
    let ring : Geometry := .annulus ⟨⟨0⟩, ⟨0⟩⟩ "1km" "5km"
    let point? : String → Option Point := fun text => if text = "0,0" then some ⟨⟨0⟩, ⟨0⟩⟩ else none
    let clause : Json :=
      .object
        [("geo_distance_range",
          .object [("from", .string "1km"), ("to", .string "5km"), ("place", .string "0,0")])]
    "place" ∉ ring.fixedKeys ∧ (∀ p ∈ ring.points, point? p.render = some p) ∧
      spatialClause "place" (.within ring) = .ok clause ∧ shapeOf? point? "place" clause = some ring := by
  intro ring point? clause
  have hpath : "place" ∉ ring.fixedKeys := by decide
  have hpoints : ∀ p ∈ ring.points, point? p.render = some p := by decide +kernel
  have hclause : shapeClause "place" ring = clause := by decide +kernel
  have hown := (spatialClause_within "place" ring).trans (congrArg Except.ok hclause)
  obtain ⟨found, hfound, hread⟩ := (determinesShape_iff "place" ring).2 hpath point? hpoints
  obtain rfl : clause = found := Except.ok.inj (hown.symm.trans hfound)
  exact ⟨hpath, hpoints, hown, hread⟩

/-- Two circles with one center and different radii have the same clause under the path `distance`, and the radius
is not in it. -/
theorem not_determinesShape_distance :
    let near : Geometry := .circle ⟨⟨0⟩, ⟨0⟩⟩ "5km"
    let far : Geometry := .circle ⟨⟨0⟩, ⟨0⟩⟩ "10km"
    let clause : Json := .object [("geo_distance", .object [("distance", .string "0,0")])]
    spatialClause "distance" (.within near) = .ok clause ∧ spatialClause "distance" (.within far) = .ok clause ∧
      near ≠ far ∧ ¬ DeterminesShape "distance" near := by
  intro near far clause
  have hshapes : shapeClause "distance" near = clause ∧ shapeClause "distance" far = clause := by decide +kernel
  have hnear := (spatialClause_within "distance" near).trans (congrArg Except.ok hshapes.1)
  have hfar := (spatialClause_within "distance" far).trans (congrArg Except.ok hshapes.2)
  have hne : near ≠ far := by decide
  have hapart : RendersApart (near.points ++ far.points) := by
    simp [RendersApart, Geometry.points, near, far]
  refine ⟨hnear, hfar, hne, ?_⟩
  intro hdetermines
  exact hne (hdetermines far hapart (hfar.trans hnear.symm)).symm

end SearchStore
