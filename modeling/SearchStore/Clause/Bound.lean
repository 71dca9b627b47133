import SearchStore.Decimal.Literal
import SearchStore.Query.Criteria
import SearchStore.Time.Reading

/-!
# Bounds of ranges

The bounds of a range share one object, keyed by comparator, so a comparator that is given twice keeps its
last comparand. A text that is a date is brought to UTC, and the format of dates is set beside it;
a text that is a number is left alone.
-/

namespace SearchStore.Clause

/-- The date format that the engine is told. -/
def dateFormat : String := "yyyy-MM-dd'T'HH:mm:ssZ"

/-- The moment a text names, if it is a date: in the strict notation, as a date and a time, or as a date
alone. -/
def moment? (text : String) : Option Moment :=
  let cs := (Text.trim text).toList
  if cs.isEmpty || Decimal.isNumber cs then none
  else Time.rfc3339? cs <|> Time.dateTime? cs <|> Time.date? cs

/-- The text in UTC of a value that is a date. -/
def dateText? (value : Json) : Option String :=
  value.asString?.bind fun text => (moment? text).map Moment.offsetText

/-- The value a bound is compared with; a shape bounds nothing. -/
def boundValue? : Comparand → Option Json
  | .scalar value => some value
  | .list values => some (.array values)
  | .geometry _ => none

/-- Writes one bound into the object of bounds. -/
def addBound (bounds : Fields) (comparison : Comparison) : Fields :=
  match boundValue? comparison.comparand with
  | none => bounds
  | some value =>
    match dateText? value with
    | some text =>
      Assoc.insert comparison.operator.name (.string text)
        (Assoc.insert "format" (.string dateFormat) bounds)
    | none => Assoc.insert comparison.operator.name value bounds

/-- The clause of a range. -/
def rangeClause (path : String) (bounds : List Comparison) : Json :=
  .object [("range", .object [(path, .object (bounds.foldl addBound []))])]

end SearchStore.Clause
