import SearchStore.Http.Host

/-!
# Nodes

A node is given by its URL. Reading it drops what a client does not need, so that a node is where to connect,
as whom, and the path under which all requests go. From there `Node.follow` says where a reference leads: most
often below that path, but one that starts with a scheme or with backslashes may lead elsewhere.
-/

namespace SearchStore.Http

/-- Where an engine is. -/
structure Node where
  scheme : String
  /-- Host, and the socket unless it is the usual one; none if the URL names no host. -/
  authority : Option String
  /-- The path in front of all requests, with a slash at either end; none if the URL has no path, but a text of
  its own kind. -/
  path : Option String
  /-- Name and password. -/
  user : Option (String × String)
deriving DecidableEq, Repr

namespace Node

/-- The schemes whose URLs name a host, with their usual sockets. -/
def hostSchemes : List (String × Nat) :=
  [("http", 80), ("https", 443), ("ws", 80), ("wss", 443), ("ftp", 21)]

/-! ### Taking a URL apart -/

/-- Whether a character may be dropped at either end of a URL. -/
def isEdge (c : Char) : Bool := c.toNat ≤ 0x20

/-- The text without control characters and spaces at either end, and without line breaks and tabs. -/
def clean (cs : List Char) : List Char :=
  let inner := ((cs.dropWhile isEdge).reverse.dropWhile isEdge).reverse
  inner.filter fun c => !(c = '\t' || c = '\n' || c = '\r')

/-- Whether a character may stand behind the first one of a scheme. -/
def isSchemeChar (c : Char) : Bool := c.isAlphanum || ['+', '-', '.'].contains c

/-- The scheme in lower case, and what follows its colon. -/
def scheme? (cs : List Char) : Option (String × List Char) :=
  let name := cs.takeWhile isSchemeChar
  match name, cs.dropWhile isSchemeChar with
  | first :: _, ':' :: rest =>
    if first.isAlpha then some (String.ofList (name.map Char.toLower), rest) else none
  | _, _ => none

/-- Whether a character is a slash, of which there are two kinds where the scheme names a host. -/
def isSlash (named : Bool) (c : Char) : Bool := c = '/' || (named && c = '\\')

/-- Whether a character ends the name of a host with its socket. -/
def endsAuthority (named : Bool) (c : Char) : Bool := isSlash named c || c = '?' || c = '#'

/-- The user in front of the last at sign, if there is one, and what follows it. -/
def splitUser (cs : List Char) : Option (List Char) × List Char :=
  if cs.contains '@' then
    let behind := (cs.reverse.takeWhile (· ≠ '@')).reverse
    (some (cs.take (cs.length - behind.length - 1)), behind)
  else (none, cs)

/-- The host, in brackets or up to a colon, and what follows it. -/
def splitHost : (bracketed : Bool) → List Char → List Char × List Char
  | _, [] => ([], [])
  | bracketed, c :: rest =>
    if c = ':' && !bracketed then ([], c :: rest)
    else
      let inside := if c = '[' then true else if c = ']' then false else bracketed
      let (host, behind) := splitHost inside rest
      (c :: host, behind)

/-! ### Parts of a URL -/

/-- The number of the socket behind the colon, none if nothing is there. -/
def socket? (cs : List Char) : Except UrlFault (Option Nat) :=
  match cs with
  | ':' :: [] => .ok none
  | ':' :: digits =>
    let number := (String.ofList digits).toNat?
    match digits.all Char.isDigit, number with
    | true, some n => if n < UInt16.size then .ok (some n) else .error .badSocket
    | _, _ => .error .badSocket
  | _ => .ok none

/-- Name and password, which are separated by the first colon. -/
def credentials? (user : List Char) : Option (String × String) := do
  let name ← Text.percentDecode? (user.takeWhile (· ≠ ':'))
  let password ← Text.percentDecode? ((user.dropWhile (· ≠ ':')).drop 1)
  if name.isEmpty && password.isEmpty then none
  else some (String.ofList name, String.ofList password)

/-- Whether a segment stands for the path that it is in. -/
def isDot (segment : List Char) : Bool :=
  [".", "%2e"].contains (String.ofList (segment.map Char.toLower))

/-- Whether a segment stands for the path above. -/
def isDoubleDot (segment : List Char) : Bool :=
  ["..", ".%2e", "%2e.", "%2e%2e"].contains (String.ofList (segment.map Char.toLower))

/-- The segments of a path without those that stand for another path, behind the segments `above`, the last one
first. -/
def resolve : (above : List (List Char)) → List (List Char) → List (List Char)
  | above, [] => above.reverse
  | above, segment :: rest =>
    let above :=
      if isDoubleDot segment then above.tail else if isDot segment then above else segment :: above
    let closed := rest.isEmpty && (isDoubleDot segment || isDot segment)
    resolve (if closed then [] :: above else above) rest

/-- The characters with each kind of slash as the usual one. -/
def withSlashes (named : Bool) (cs : List Char) : List Char :=
  cs.map fun c => if isSlash named c then '/' else c

/-- The path of a URL up to its last slash, behind which one is put unless a query or a fragment follows. -/
def pathText (named : Bool) (cs : List Char) : String :=
  let endsPath (c : Char) : Bool := c = '?' || c = '#'
  let path := withSlashes named (cs.takeWhile fun c => !endsPath c)
  let below := if path.head? = some '/' then path.tail else path
  let whole := '/' :: ['/'].intercalate (resolve [] (Text.splitChars '/' below))
  let closed := if cs.any endsPath || whole.getLast? = some '/' then whole else whole ++ ['/']
  let upToSlash := (closed.reverse.dropWhile (· ≠ '/')).reverse
  Text.percentEncode Text.isPathChar (String.ofList upToSlash)

/-- Where segments lead from the path of a node, which ends in a slash. -/
def below (named : Bool) (path : String) (cs : List Char) : String :=
  let above := (Text.splitChars '/' path.toList).tail.dropLast.reverse
  String.ofList
    ('/' :: ['/'].intercalate (resolve above (Text.splitChars '/' (withSlashes named cs))))

/-- Host and socket, without a usual one. -/
def authorityText (scheme : String) (host : Host) (socket : Option Nat) : String :=
  match socket with
  | some n => if hostSchemes.lookup scheme = some n then host.text else host.text ++ ":" ++ toString n
  | none => host.text

/-- The path of a URL with all of its segments. -/
def wholePath (named : Bool) (cs : List Char) : String := below named "/" (cs.drop 1)

/-! ### Reading -/

/-- Where a URL leads to, up to its path. -/
structure Site where
  authority : String
  user : Option (String × String)
  /-- The path and what is behind it, as they stand in the URL. -/
  rest : List Char

/-- Reads a URL behind the slashes in front of its host. -/
def readSite (scheme : String) (named : Bool) (cs : List Char) : Except UrlFault Site := do
  let (user, address) := splitUser (cs.takeWhile fun c => !endsAuthority named c)
  let rest := cs.dropWhile fun c => !endsAuthority named c
  let (hostText, tail) := splitHost false address
  let needsHost :=
    match user with
    | some user => !user.isEmpty || !rest.isEmpty
    | none => false
  if hostText.isEmpty && (named || needsHost || !tail.isEmpty) then throw .emptyHost
  let host ← if named then Host.parse hostText else Host.parseOpaque hostText
  let socket ← socket? tail
  .ok { authority := authorityText scheme host socket, user := user.bind credentials?, rest }

/-- The node of a site. -/
def ofSite (scheme : String) (named : Bool) (site : Site) : Node :=
  { scheme, authority := some site.authority, path := some (pathText named site.rest), user := site.user }

/-- Reads the URL of a node. -/
def parse (text : String) : Except UrlFault Node :=
  match scheme? (clean text.toList) with
  | none => .error .noScheme
  | some (scheme, rest) =>
    if (hostSchemes.lookup scheme).isSome then
      (readSite scheme true (rest.dropWhile (isSlash true))).map (ofSite scheme true)
    else
      match rest with
      | '/' :: '/' :: behind => (readSite scheme false behind).map (ofSite scheme false)
      | '/' :: _ => .ok { scheme, authority := none, path := some (pathText false rest), user := none }
      | [] => .ok { scheme, authority := none, path := some "/", user := none }
      | _ => .ok { scheme, authority := none, path := none, user := none }

end Node

/-! ### Following references -/

/-- The end of a reference: a URL without query and fragment. -/
structure Destination where
  scheme : String
  authority : Option String
  path : String
  user : Option (String × String)
deriving DecidableEq, Repr

namespace Destination

/-- Scheme and authority, with which the URL starts. -/
def origin (d : Destination) : String := d.scheme ++ ":" ++ d.authority.elim "" ("//" ++ ·)

/-- The destination at a site. -/
def ofSite (scheme : String) (named : Bool) (site : Node.Site) : Destination :=
  { scheme
    authority := some site.authority
    path := Node.wholePath named site.rest
    user := site.user }

end Destination

namespace Node

/-- A path at the site of a node. -/
def place (node : Node) (path : String) : Destination :=
  { scheme := node.scheme, authority := node.authority, path, user := node.user }

/-- The end of a reference without a scheme: below the path of the node, or below its root behind one slash, or
behind two slashes at another site. -/
def followPath (node : Node) (cs : List Char) : Except UrlFault Destination :=
  let named := (hostSchemes.lookup node.scheme).isSome
  let behind := cs.dropWhile (isSlash named)
  match node.path with
  | none => .error .noBase
  | some base =>
    match cs.length - behind.length with
    | 0 => .ok (node.place (below named base cs))
    | 1 => .ok (node.place (below named "/" behind))
    | _ => (readSite node.scheme named behind).map (Destination.ofSite node.scheme named)

/-- The end of a reference. The scheme of the node with less than two slashes behind it counts as none. -/
def follow (node : Node) (cs : List Char) : Except UrlFault Destination :=
  match scheme? cs with
  | none => node.followPath cs
  | some (scheme, rest) =>
    if (hostSchemes.lookup scheme).isSome then
      let behind := rest.dropWhile (isSlash true)
      if scheme = node.scheme && rest.length < behind.length + 2 then node.followPath rest
      else (readSite scheme true behind).map (Destination.ofSite scheme true)
    else
      match rest with
      | '/' :: '/' :: behind => (readSite scheme false behind).map (Destination.ofSite scheme false)
      | '/' :: _ => .ok { scheme, authority := none, path := wholePath false rest, user := none }
      | _ => .ok { scheme, authority := none, path := String.ofList rest, user := none }

end Node

end SearchStore.Http
