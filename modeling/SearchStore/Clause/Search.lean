import SearchStore.Config.Query
import SearchStore.Error
import SearchStore.Pattern.Search

/-!
# Clauses of phrase searches

The first criterion of a search decides its clause. A phrase that matches the pattern of suggestions asks
for completions of one attribute, any other phrase is searched as it is.
-/

namespace SearchStore.Clause

/-- The field that holds the text of all attributes. -/
def catchAllField : String := "_all"

/-- How many completions of a suggestion are tried. -/
def maxExpansions : UInt64 := 15

/-- Every other item, the first included. -/
def everyOther {α : Type} : List α → List α
  | [] => []
  | [a] => [a]
  | a :: _ :: rest => a :: everyOther rest

/-- The field of completions. Every second segment of a path qualifies the type of the one before it
and is not part of the field. -/
def completionField (path : String) : String :=
  Text.join "." (everyOther (Text.split '.' path)) ++ ".suggest"

/-- The clause for completions of a text in an attribute. -/
def completionClause (path term : String) : Json :=
  .object
    [("match_phrase_prefix",
      .object
        [(completionField path,
          .object [("query", .string term), ("max_expansions", .natural maxExpansions)])])]

/-- The clause for a phrase in an attribute, or in all of them for a blank path. -/
def matchClause (config : CriteriaConfig) (phrase path : String) : Json :=
  let trimmed := Text.trim path
  let field := if trimmed = "" then catchAllField else trimmed
  let settings := Assoc.insertAll [("type", .string "phrase_prefix")] config.searchQuerySettings
  .object
    [("match", .object [(field, .object (Assoc.insert "query" (.string phrase) settings))])]

/-- The clause of a phrase. -/
def phraseClause (config : CriteriaConfig) (pattern : Pattern) (phrase path : String) : Json :=
  match pattern.find? phrase with
  | some found => completionClause ((found.group? 1).getD "") ((found.group? 2).getD "")
  | none => matchClause config phrase path

/-- The clause of the search criteria; without any, every document matches. -/
def searchClause (config : CriteriaConfig) (pattern : Pattern) :
    List Criteria → Except QueryError Json
  | [] => .ok (.object [("match_all", Json.empty)])
  | .search phrase path :: _ => .ok (phraseClause config pattern phrase path)
  | other :: _ => .error (.unsupportedSearch other.kind)

end SearchStore.Clause
