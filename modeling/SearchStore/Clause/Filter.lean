import SearchStore.Clause.Leaf
import SearchStore.Json.Merge

/-!
# Filters of criteria lists

A list of criteria becomes `{operator: [clauses]}`, or an empty object if no clause lies anywhere below
it. The clauses are gathered from left to right. A nested list brings the filter that it is translated to:
it stands on its own if it is the first of its operator, and is merged into the first one otherwise; an
empty one leaves nothing behind.
-/

namespace SearchStore.Clause

/-- Clauses joined by an operator. -/
def joined (operator : Connective) (clauses : List Json) : Json :=
  .object [(operator.name, .array clauses)]

/-- The filter of clauses, an empty object if there are none. -/
def joinedOrEmpty (operator : Connective) (clauses : List Json) : Json :=
  if clauses.isEmpty then Json.empty else joined operator clauses

/-- The clauses of the criteria read so far. -/
structure Gathered where
  clauses : List Json := []
  /-- Where the filter of the nested lists of an operator stands. -/
  place : Connective → Option Nat := fun _ => none

namespace Gathered

/-- Adds the clause of a criterion. -/
def push (g : Gathered) (clause : Json) : Gathered :=
  { g with clauses := g.clauses ++ [clause] }

/-- Adds the filter of a nested list. -/
def nest (g : Gathered) (operator : Connective) (filter : Json) : Gathered :=
  if filter = Json.empty then g
  else
    match g.place operator with
    | some position =>
      { g with clauses := g.clauses.modify position fun first => Json.merge first filter }
    | none =>
      { clauses := g.clauses ++ [filter]
        place := fun other =>
          if other = operator then some g.clauses.length else g.place other }

end Gathered

/-- Reads a list of criteria behind those that were read before. -/
def gather (config : CriteriaConfig) (g : Gathered) :
    List Criteria → Except QueryError Gathered
  | [] => .ok g
  | .container operator items :: rest =>
    match gather config {} items with
    | .ok nested => gather config (g.nest operator (joinedOrEmpty operator nested.clauses)) rest
    | .error e => .error e
  | leaf :: rest =>
    match leafClause config leaf with
    | .ok clause => gather config (g.push clause) rest
    | .error e => .error e

/-- The filter of a list of criteria, an empty object if it has no clause. -/
def filter (config : CriteriaConfig) (list : CriteriaList) : Except QueryError Json :=
  (gather config {} list.items).map fun g => joinedOrEmpty list.operator g.clauses

end SearchStore.Clause
