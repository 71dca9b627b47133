import SearchStore.Http.DomainName
import SearchStore.Text.Percent

/-!
# Hosts

The host of a URL is a domain name or an address. A name whose last label is a number is an IPv4 address, in one
of its many spellings; an IPv6 address stands in brackets. Each host has one text.
-/

namespace SearchStore.Http

/-- Why a text is no URL. -/
inductive UrlFault where
  | noScheme
  /-- The text stands behind a URL below which there are no paths. -/
  | noBase
  | emptyHost
  | badDomainName
  | badCharacter
  | badAddress4
  | badAddress6
  | badSocket
deriving DecidableEq, Repr

/-- The text of a fault. -/
def UrlFault.message : UrlFault → String
  | noScheme => "relative URL without a base"
  | noBase => "relative URL with a cannot-be-a-base base"
  | emptyHost => "empty host"
  | badDomainName => "invalid international domain name"
  | badCharacter => "invalid domain character"
  | badAddress4 => "invalid IPv4 address"
  | badAddress6 => "invalid IPv6 address"
  | badSocket => "invalid port number"

/-- The host of a URL. -/
inductive Host where
  | name (text : String)
  /-- An IPv4 address. -/
  | address4 (value : Nat)
  /-- An IPv6 address: eight groups of 16 bits. -/
  | address6 (groups : List Nat)
deriving DecidableEq, Repr

namespace Host

/-- The value of a digit to a base up to 16. -/
def digit? (base : Nat) (c : Char) : Option Nat :=
  (Text.hexDigitValue? c).filter (· < base)

/-- The value of digits to a base up to 16; no digits are zero. -/
def value? (base : Nat) (digits : List Char) : Option Nat :=
  digits.foldlM (fun n c => (digit? base c).map (n * base + ·)) 0

/-! ### IPv4 addresses -/

/-- The value of a part of an address: in hexadecimal behind `0x`, in octal behind `0`, else in decimal. -/
def part4? : List Char → Option Nat
  | [] => none
  | '0' :: 'x' :: digits => value? 16 digits
  | '0' :: 'X' :: digits => value? 16 digits
  | '0' :: d :: digits => value? 8 (d :: digits)
  | digits => value? 10 digits

/-- The labels of a name; a full stop at the end does not count. -/
def labels (domain : List Char) : List (List Char) :=
  let all := Text.splitChars '.' domain
  if all.getLast? = some [] && 1 < all.length then all.dropLast else all

/-- Whether the last label of a name is a number. -/
def endsInNumber (domain : List Char) : Bool :=
  match (labels domain).getLast? with
  | none => false
  | some last => (!last.isEmpty && last.all Char.isDigit) || (part4? last).isSome

/-- The address of a name that ends in a number: each part but the last is one byte, and the last one takes the
bytes that are left. -/
def address4? (domain : List Char) : Option Nat := do
  let parts ← (labels domain).mapM part4?
  let last ← parts.getLast?
  let front := parts.dropLast
  let left := 4 - front.length
  if front.length < 4 && last < Nat.pow 256 left && front.all (· < 256) then
    some (front.foldl (fun n part => n * 256 + part) 0 * Nat.pow 256 left + last)
  else none

/-- The text of an IPv4 address. -/
def text4 (value : Nat) : String :=
  Text.join "." ([3, 2, 1, 0].map fun i => toString (value / Nat.pow 256 i % 256))

/-! ### IPv6 addresses -/

/-- The value of a byte in decimal without a needless zero. -/
def octet? (cs : List Char) : Option Nat := do
  let value ← value? 10 cs
  if !cs.isEmpty && value < 256 && (toString value).length = cs.length then some value else none

/-- The value of a group of an address. -/
def group? (cs : List Char) : Option Nat :=
  if cs.isEmpty || 4 < cs.length then none else value? 16 cs

/-- The groups that fields stand for; the last one may be an IPv4 address. -/
def groups? : (dotted : Bool) → List (List Char) → Option (List Nat)
  | _, [] => some []
  | dotted, field :: rest =>
    match group? field with
    | some value => (groups? dotted rest).map (value :: ·)
    | none =>
      match (Text.splitChars '.' field).mapM octet? with
      | some [a, b, c, d] =>
        if dotted && rest.isEmpty then some [a * 256 + b, c * 256 + d] else none
      | _ => none

/-- The fields between colons, none for an empty text. -/
def fields (cs : List Char) : List (List Char) :=
  if cs.isEmpty then [] else Text.splitChars ':' cs

/-- What stands before and behind the first pair of colons. -/
def splitGap : List Char → Option (List Char × List Char)
  | ':' :: ':' :: rest => some ([], rest)
  | c :: rest => (splitGap rest).map fun (before, behind) => (c :: before, behind)
  | [] => none

/-- The groups of an IPv6 address; a pair of colons stands for as many zeros as are missing. -/
def address6? (cs : List Char) : Option (List Nat) :=
  match splitGap cs with
  | some (before, behind) => do
    let front ← groups? false (fields before)
    let back ← groups? true (fields behind)
    let missing := 8 - (front.length + back.length)
    if missing = 0 then none else some (front ++ List.replicate missing 0 ++ back)
  | none => (groups? true (fields cs)).filter (·.length = 8)

/-- How many zeros each group starts. -/
def zeroRuns : List Nat → List Nat
  | [] => []
  | g :: rest =>
    let runs := zeroRuns rest
    (if g = 0 then runs.head?.getD 0 + 1 else 0) :: runs

/-- A group in hexadecimal. -/
def groupText (group : Nat) : String := String.ofList (Nat.toDigits 16 group)

/-- The text of an IPv6 address. The first one of the longest runs of several zeros is left out. -/
def text6 (groups : List Nat) : String :=
  let runs := zeroRuns groups
  let longest := runs.foldl max 0
  let all (part : List Nat) : String := Text.join ":" (part.map groupText)
  if longest < 2 then "[" ++ all groups ++ "]"
  else
    let start := runs.findIdx (· = longest)
    "[" ++ all (groups.take start) ++ "::" ++ all (groups.drop (start + longest)) ++ "]"

/-! ### Hosts -/

/-- The text of a host. -/
def text : Host → String
  | name text => text
  | address4 value => text4 value
  | address6 groups => text6 groups

/-- Reads an address in brackets, from behind the opening one. -/
def parseBracketed (cs : List Char) : Except UrlFault Host :=
  match cs.getLast?, address6? cs.dropLast with
  | some ']', some groups => .ok (.address6 groups)
  | _, _ => .error .badAddress6

/-- Reads the host of a URL whose scheme names one. -/
def parse (cs : List Char) : Except UrlFault Host :=
  match cs with
  | [] => .error .emptyHost
  | '[' :: rest => parseBracketed rest
  | cs =>
    match (Text.percentDecode? cs).bind DomainName.ascii? with
    | none => .error .badDomainName
    | some [] => .error .emptyHost
    | some domain =>
      if endsInNumber domain then
        match address4? domain with
        | some value => .ok (.address4 value)
        | none => .error .badAddress4
      else .ok (.name (String.ofList domain))

/-- The characters that may not stand in the host of a URL of any scheme. -/
def reserved : List Char :=
  [Char.ofNat 0, ' ', '#', '/', ':', '<', '>', '?', '@', '[', '\\', ']', '^', '|']

/-- Reads the host of a URL of another scheme, which is kept as it is. -/
def parseOpaque (cs : List Char) : Except UrlFault Host :=
  match cs with
  | '[' :: rest => parseBracketed rest
  | cs =>
    if cs.any reserved.contains then .error .badCharacter
    else .ok (.name (Text.percentEncode (fun c => 0x20 ≤ c.toNat && c.toNat < 0x7F) (String.ofList cs)))

end Host

end SearchStore.Http
