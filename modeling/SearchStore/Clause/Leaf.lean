import SearchStore.Config.Query
import SearchStore.Error
import SearchStore.Clause.Bound

/-!
# Clauses of single criteria

Each criterion that is not a container has one clause. Comparisons of attributes become `term`, `terms` or
`missing` clauses, under `not` where they are negated; spatial comparisons become the clause of their
shape.
-/

namespace SearchStore.Clause

/-- The comparand that asks for documents without a value. -/
def emptyMarker : String := "__empty"

/-- The complement of a clause, if it is asked for. -/
def underNot (negated : Bool) (clause : Json) : Json :=
  if negated then .object [("not", clause)] else clause

/-- A value without the exclamation mark that negates it, and whether there was one. -/
def splitMark : Json → Bool × Json
  | .string s =>
    match s.toList with
    | '!' :: rest => (true, .string (String.ofList rest))
    | _ => (false, .string s)
  | value => (false, value)

/-- The clause for documents without a value. -/
def missingClause (path : String) : Json :=
  .object
    [("missing",
      .object [("field", .string path), ("existence", .bool true), ("null_value", .bool true)])]

/-- The clause for documents with one value; attributes with sub-fields are compared in theirs. -/
def termClause (config : CriteriaConfig) (path : String) (value : Json) : Json :=
  let field := if config.hasSubfields path then path ++ ".filter" else path
  .object [("term", .object [(field, value)])]

/-- The clause for documents with one of several values. -/
def termsClause (path : String) (values : List Json) : Json :=
  .object [("terms", .object [(path, .array values)])]

/-- The clause of a comparison. -/
def attributeClause (config : CriteriaConfig) (path : String) (comparison : Comparison) :
    Except QueryError Json :=
  match comparison.comparand with
  | .list values => .ok (underNot comparison.inverted (termsClause path values))
  | .scalar value =>
    let (marked, value) := splitMark value
    let clause :=
      if value = .string emptyMarker then missingClause path else termClause config path value
    .ok (underNot (comparison.inverted || marked) clause)
  | .geometry _ => .error (.geometry path .spatialOnly)

/-- The clause of a shape. The path stands as a key beside the radii of circles, and wins over them. -/
def shapeClause (path : String) : Geometry → Json
  | .circle center radius =>
    .object
      [("geo_distance",
        .object
          (Assoc.ofList [("distance", .string radius), (path, .string center.render)]))]
  | .annulus center inner outer =>
    .object
      [("geo_distance_range",
        .object
          (Assoc.ofList
            [("from", .string inner), ("to", .string outer), (path, .string center.render)]))]
  | .box topLeft bottomRight =>
    .object
      [("geo_bounding_box",
        .object
          [(path,
            .object
              [("top_left", .string topLeft.render),
                ("bottom_right", .string bottomRight.render)])])]
  | .polygon points =>
    .object
      [("geo_polygon",
        .object [(path, .object [("points", Json.strings (points.map Point.render))])])]

/-- The clause of a spatial comparison, which has to be `in` a shape. -/
def spatialClause (path : String) (comparison : Comparison) : Except QueryError Json :=
  if comparison.operator ≠ .isIn then .error (.spatialOperator path comparison.operator)
  else
    match comparison.comparand with
    | .geometry shape => .ok (shapeClause path shape)
    | .scalar _ | .list _ => .error (.geometry path .noGeometry)

/-- The clause of a criterion that is not a container. -/
def leafClause (config : CriteriaConfig) : Criteria → Except QueryError Json
  | .attribute path comparison => attributeClause config path comparison
  | .range path bounds => .ok (rangeClause path bounds)
  | .spatial path comparison => spatialClause path comparison
  | .custom clause => .ok clause
  | .search _ _ => .error (.unsupportedFilter .search)
  | .container _ _ => .error (.unsupportedFilter .container)

end SearchStore.Clause
