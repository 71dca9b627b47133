import SearchStore.Decimal.Shortest

/-!
# Layouts of decimal numbers

How the shortest digits of a number are set in text. A layout is one record; `Layout.render` lays
the digits out positionally for the exponents that the layout takes positionally, and as
`d.ddde±n` otherwise.
-/

namespace SearchStore.Decimal

/-- The choices of a number format. -/
structure Layout where
  /-- How a number midway between two shortest candidates is settled. -/
  tie : Tie
  /-- Whether a number with this decimal exponent is written without an exponent. -/
  positional : Int → Bool
  /-- Whether a whole number written positionally ends in `.0`. -/
  pointZero : Bool

/-- Digits with the decimal point where the exponent puts it. -/
def positionalText (pointZero : Bool) (d : Digits) : List Char :=
  match d.exponent with
  | .ofNat e =>
    let whole := d.digits.take (e + 1) ++ List.replicate (e + 1 - d.digits.length) '0'
    match d.digits.drop (e + 1) with
    | [] => whole ++ if pointZero then ['.', '0'] else []
    | fraction => whole ++ '.' :: fraction
  | .negSucc n => '0' :: '.' :: List.replicate n '0' ++ d.digits

/-- One digit, the others behind the point, and the exponent without a plus sign. -/
def exponentText (d : Digits) : List Char :=
  let mantissa :=
    match d.digits with
    | [] => []
    | [digit] => [digit]
    | digit :: rest => digit :: '.' :: rest
  mantissa ++ 'e' :: (toString d.exponent).toList

/-- The text of a finite number. -/
def Layout.render (layout : Layout) (x : Binary64) : String :=
  let d := shortest layout.tie x
  let unsigned :=
    if layout.positional d.exponent then positionalText layout.pointZero d else exponentText d
  String.ofList (if x.isNegative then '-' :: unsigned else unsigned)

end SearchStore.Decimal
