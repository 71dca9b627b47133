/-!
# Texts that are numbers

Whether a text is a decimal number: an optional sign, digits with an optional point among or around
them, and an optional exponent; or one of the words for infinity and for what is not a number.
-/

namespace SearchStore.Decimal

/-- The words that are numbers, in lower case. -/
def numberWords : List String := ["inf", "infinity", "nan"]

/-- The text without one sign in front. -/
def dropSign : List Char → List Char
  | '+' :: rest => rest
  | '-' :: rest => rest
  | cs => cs

/-- Nothing, or an exponent: its letter, an optional sign, and digits. -/
def isExponent : List Char → Bool
  | [] => true
  | c :: rest =>
    let digits := dropSign rest
    (c == 'e' || c == 'E') && !digits.isEmpty && digits.all Char.isDigit

/-- Digits with an optional point, at least one digit in all, and an optional exponent. -/
def isUnsignedDecimal (cs : List Char) : Bool :=
  let whole := cs.takeWhile Char.isDigit
  match cs.dropWhile Char.isDigit with
  | '.' :: rest =>
    let fraction := rest.takeWhile Char.isDigit
    !(whole.isEmpty && fraction.isEmpty) && isExponent (rest.dropWhile Char.isDigit)
  | rest => !whole.isEmpty && isExponent rest

/-- Whether the text is a number. -/
def isNumber (text : List Char) : Bool :=
  let unsigned := dropSign text
  isUnsignedDecimal unsigned || numberWords.contains (String.ofList (unsigned.map Char.toLower))

end SearchStore.Decimal
