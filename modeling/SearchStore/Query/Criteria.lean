import SearchStore.Json.Basic
import SearchStore.Query.Geometry

/-!
# Criteria

A query is built from criteria: comparisons of attributes, ranges, spatial tests, phrases to search
for and native clauses, nested in lists that are joined by `and` or `or`.
-/

namespace SearchStore

/-- How the entries of a list are joined. -/
inductive Connective where
  | and
  | or
deriving DecidableEq, Repr

/-- The filter key of an operator. -/
def Connective.name : Connective → String
  | .and => "and"
  | .or => "or"

/-- How an attribute is compared. -/
inductive Comparator where
  | equals
  | isIn
  | greaterThan
  | greaterOrEqual
  | lessThan
  | lessOrEqual
deriving DecidableEq, Repr

/-- The short name of a comparator, which is also its key in a range. -/
def Comparator.name : Comparator → String
  | .equals => "eq"
  | .isIn => "in"
  | .greaterThan => "gt"
  | .greaterOrEqual => "gte"
  | .lessThan => "lt"
  | .lessOrEqual => "lte"

/-- What an attribute is compared with. -/
inductive Comparand where
  | scalar (value : Json)
  | list (values : List Json)
  | geometry (shape : Geometry)
deriving DecidableEq, Repr

/-- A comparator with its comparand, possibly negated. -/
structure Comparison where
  operator : Comparator
  comparand : Comparand
  inverted : Bool := false
deriving DecidableEq, Repr

namespace Comparison

/-- Equality with a value, or membership in the items of an array. -/
def equals : Json → Comparison
  | .array values => { operator := .equals, comparand := .list values }
  | value => { operator := .equals, comparand := .scalar value }

/-- Membership in a list of values. -/
def oneOf (values : List Json) : Comparison :=
  { operator := .isIn, comparand := .list values }

/-- Containment in a shape. -/
def within (shape : Geometry) : Comparison :=
  { operator := .isIn, comparand := .geometry shape }

/-- Comparison with a single value. -/
def scalar (operator : Comparator) (value : Json) : Comparison :=
  { operator, comparand := .scalar value }

/-- The negated comparison. -/
def invert (c : Comparison) : Comparison :=
  { c with inverted := !c.inverted }

theorem invert_invert (c : Comparison) : c.invert.invert = c := by
  cases c; simp [invert]

end Comparison

/-- The kinds of criteria. -/
inductive CriteriaKind where
  | attribute
  | range
  | spatial
  | search
  | custom
  | container
deriving DecidableEq, Repr

/-- The name of a kind of criteria. -/
def CriteriaKind.name : CriteriaKind → String
  | .attribute => "attribute"
  | .range => "range"
  | .spatial => "spatial"
  | .search => "search"
  | .custom => "custom"
  | .container => "container"

/-- One node of a criteria tree. Attributes are given by their dotted paths. -/
inductive Criteria where
  | attribute (path : String) (comparison : Comparison)
  | range (path : String) (bounds : List Comparison)
  | spatial (path : String) (comparison : Comparison)
  /-- A phrase to search for, in one attribute or, for the empty path, in all. -/
  | search (phrase path : String)
  /-- A native clause. -/
  | custom (clause : Json)
  | container (operator : Connective) (items : List Criteria)
deriving Repr

/-- The kind of a node. -/
def Criteria.kind : Criteria → CriteriaKind
  | .attribute _ _ => .attribute
  | .range _ _ => .range
  | .spatial _ _ => .spatial
  | .search _ _ => .search
  | .custom _ => .custom
  | .container _ _ => .container

/-- Criteria joined by one operator. -/
structure CriteriaList where
  operator : Connective := .and
  items : List Criteria := []
deriving Repr

namespace CriteriaList

/-- The list as a node of another one. -/
def toCriteria (list : CriteriaList) : Criteria :=
  .container list.operator list.items

/-- The list with one more entry at its end. -/
def push (list : CriteriaList) (criteria : Criteria) : CriteriaList :=
  { list with items := list.items ++ [criteria] }

/-- The entries joined by `and`. -/
def ofList (items : List Criteria) : CriteriaList :=
  { items }

end CriteriaList

end SearchStore
