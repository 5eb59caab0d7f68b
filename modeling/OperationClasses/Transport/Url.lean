/-
Module: OperationClasses.Transport.Url
Purpose: Addresses of servers in their normal form, and the name and password they may carry.
Main exports: Url, UrlFault, Url.read, Url.text, Url.user, Url.password, Url.withoutUser, Url.target
-/
import OperationClasses.Text.Integer
import OperationClasses.Transport.Address
import OperationClasses.Transport.HostName
import OperationClasses.Transport.Bytes

namespace OperationClasses

/-- An address in normal form. The user part is a name and, after a colon, a password. An empty scheme or
    host is none. -/
structure Url where
  scheme : String
  userPart : String
  host : String
  port : Option Int
  path : String
  query : Option String
  fragment : Option String
deriving DecidableEq, Repr, Inhabited

/-- Why a text is no address. -/
inductive UrlFault where
  | tooLong
  /-- a part of an address, by its name, that is too long -/
  | partTooLong (part : String)
  /-- a control character and how many characters stand before it -/
  | control (char : Char) (position : Nat)
  /-- four numbers that are no address -/
  | numbers (host : String)
  /-- groups in brackets that are no address -/
  | groups (host : String)
  /-- a host name with characters that none may have -/
  | hostName (host : String)
  /-- a port that is no number -/
  | port (text : String)
  /-- a path behind a server that does not begin with a slash -/
  | pathBesideServer
  /-- a path of its own that begins with a text which makes it another part -/
  | pathStart (start : String)
deriving DecidableEq, Repr, Inhabited

/-- The message of a text that is no address. -/
def UrlFault.message : UrlFault → String
  | .tooLong => "URL too long"
  | .partTooLong part => "URL component '" ++ part ++ "' too long"
  | .control c position =>
    "Invalid non-printable ASCII character in URL, " ++ Text.quoted (String.singleton c)
      ++ " at position " ++ toString position ++ "."
  | .numbers host => "Invalid IPv4 address: " ++ Text.quoted host
  | .groups host => "Invalid IPv6 address: " ++ Text.quoted host
  | .hostName host => "Invalid IDNA hostname: " ++ Text.quoted host
  | .port text => "Invalid port: " ++ Text.quoted text
  | .pathBesideServer => "For absolute URLs, path must be empty or begin with '/'"
  | .pathStart start => "Relative URLs cannot have a path starting with '" ++ start ++ "'"

/-- How many characters an address may have. -/
def maxUrlLength : Nat := 65536

/-- The ports that need not be given. -/
def defaultPort : String → Option Int
  | "ftp" => some 21
  | "http" => some 80
  | "https" => some 443
  | "ws" => some 80
  | "wss" => some 443
  | _ => none

/-- Splits a text at the first character of a class, which the second part begins with. -/
def splitBefore (stop : Char → Bool) (cs : List Char) : List Char × List Char :=
  (cs.takeWhile (!stop ·), cs.dropWhile (!stop ·))

/-- The parts of an address as they are written. -/
structure UrlParts where
  scheme : List Char
  authority : List Char
  path : List Char
  query : Option (List Char)
  fragment : Option (List Char)
deriving Repr, Inhabited

/-- Reads a scheme and its colon. -/
def readScheme (cs : List Char) : List Char × List Char :=
  let (name, rest) := splitBefore (fun c => !(c.isAlphanum || c == '+' || c == '.' || c == '-')) cs
  match rest with
  | ':' :: rest => if name.isEmpty || name.head?.any Char.isAlpha then (name, rest) else ([], cs)
  | _ => ([], cs)

/-- Splits an address into its parts. -/
def UrlParts.split (cs : List Char) : UrlParts :=
  let (scheme, rest) := readScheme cs
  let (authority, rest) :=
    match rest with
    | '/' :: '/' :: rest => splitBefore (fun c => c == '/' || c == '?' || c == '#') rest
    | rest => ([], rest)
  let (path, rest) := splitBefore (fun c => c == '?' || c == '#') rest
  let (query, rest) :=
    match rest with
    | '?' :: rest =>
      let (query, rest) := splitBefore (· == '#') rest
      (some query, rest)
    | rest => (none, rest)
  ⟨scheme, authority, path, query, if rest.isEmpty then none else some rest.tail⟩

/-- Reads the user part of an authority, which the last at sign ends. -/
def readUserPart (cs : List Char) : List Char × List Char :=
  if cs.contains '@' then
    let after := (cs.reverse.takeWhile (· != '@')).reverse
    (cs.take (cs.length - after.length - 1), after)
  else ([], cs)

/-- Reads the host of an authority: up to a colon, or in brackets up to the last closing one. -/
def readHost (cs : List Char) : List Char × List Char :=
  if cs.head? = some '[' && cs.contains ']' then
    let after := (cs.reverse.takeWhile (· != ']')).reverse
    (cs.take (cs.length - after.length), after)
  else splitBefore (· == ':') cs

/-- The characters that a user part encodes. -/
def userPartUnsafe : String := " \"#<>?`\x7b\x7d/;=@[\\]^|"

/-- The characters that a path encodes. -/
def pathUnsafe : String := " \"#<>?`\x7b\x7d"

/-- The characters that a query encodes. -/
def queryUnsafe : String := " \"#<>"

/-- The characters that a fragment encodes. -/
def fragmentUnsafe : String := " \"<>`"

/-- The characters that a host encodes. -/
def hostUnsafe : String := " #<>?/:@[]^"

/-- A host in its normal form: an address of four numbers or of groups, without the brackets of the
    latter, or a name in small ASCII letters. -/
def normalHost (cs : List Char) : Except UrlFault String :=
  let host := String.ofList cs
  if cs.isEmpty then return ""
  else if looksLikeFourNumbers cs then
    if isFourNumbers cs then return host else throw (.numbers host)
  else if cs.head? = some '[' && 2 ≤ cs.length && cs.getLast? = some ']' then
    if isGroups cs.tail.dropLast then return String.ofList cs.tail.dropLast else throw (.groups host)
  else if cs.all (·.toNat < 0x80) then
    return percentEncode hostUnsafe (String.ofList (cs.map Char.toLower))
  else
    match HostName.encode cs with
    | some name => return name
    | none => throw (.hostName host)

/-- The port of a text, unless it is the usual one of the scheme. -/
def readPort (scheme : String) (cs : List Char) : Except UrlFault (Option Int) :=
  if cs.isEmpty then return none
  else
    match Text.readDecimal (String.ofList cs) with
    | some port => return if defaultPort scheme = some port then none else some port
    | none => throw (.port (String.ofList cs))

/-- The segments of a path without those that mean the same place or the place above. -/
def normalSegments (segments : List (List Char)) : List (List Char) :=
  segments.foldl (fun kept segment =>
    if segment = ['.'] then kept
    else if segment = ['.', '.'] then if kept = [[]] then kept else kept.dropLast
    else kept ++ [segment]) []

/-- A path without segments that mean the same place or the place above. -/
def normalPath (cs : List Char) : List Char :=
  List.intercalate ['/'] (normalSegments (cs.splitOn '/'))

/-- What keeps a path from standing beside a scheme or server, or without them. -/
def pathFault? (hasScheme hasServer : Bool) (path : List Char) : Option UrlFault :=
  if hasServer then
    if path.isEmpty || path.head? = some '/' then none else some .pathBesideServer
  else if hasScheme then none
  else if "//".toList.isPrefixOf path then some (.pathStart "//")
  else if path.head? = some ':' then some (.pathStart ":")
  else none

namespace Url

/-- The address that parts make, with the given user part if there is one. -/
def ofParts (parts : UrlParts) (userPart : Option (List Char)) : Except UrlFault Url := do
  let (ownUserPart, server) := readUserPart parts.authority
  let (host, port) := readHost server
  let userPart := percentEncode userPartUnsafe (String.ofList (userPart.getD ownUserPart))
  let host ← normalHost host
  let port ← readPort (String.ofList parts.scheme) (if port.head? = some ':' then port.tail else port)
  let hasScheme := !parts.scheme.isEmpty
  let hasServer := userPart != "" || host != "" || port.isSome
  match pathFault? hasScheme hasServer parts.path with
  | some fault => throw fault
  | none => pure ()
  let path := if hasScheme || hasServer then normalPath parts.path else parts.path
  return {
    scheme := String.ofList (parts.scheme.map Char.toLower)
    userPart := userPart
    host := host
    port := port
    path := percentEncode pathUnsafe (String.ofList path)
    query := parts.query.map fun q => percentEncode queryUnsafe (String.ofList q)
    fragment := parts.fragment.map fun f => percentEncode fragmentUnsafe (String.ofList f) }

/-- Reads an address. -/
def read (text : String) : Except UrlFault Url := do
  let cs := text.toList
  if maxUrlLength < cs.length then throw .tooLong
  let isControl (c : Char) := c.toNat < 0x20 || c.toNat = 0x7F
  match cs.find? isControl with
  | some c => throw (.control c (cs.takeWhile (!isControl ·)).length)
  | none => ofParts (UrlParts.split cs) none

/-- The host and the port of an address. Groups stand in brackets. -/
def server (u : Url) : String :=
  (if u.host.toList.contains ':' then "[" ++ u.host ++ "]" else u.host)
    ++ (u.port.map fun p => ":" ++ toString p).getD ""

/-- The user part and the server of an address. -/
def authority (u : Url) : String :=
  (if u.userPart = "" then "" else u.userPart ++ "@") ++ u.server

/-- The path and the query of an address. -/
def place (u : Url) : String := u.path ++ (u.query.map ("?" ++ ·)).getD ""

/-- The text of an address. -/
def text (u : Url) : String :=
  (if u.scheme = "" then "" else u.scheme ++ ":")
    ++ (if u.authority = "" then "" else "//" ++ u.authority) ++ u.place
    ++ (u.fragment.map ("#" ++ ·)).getD ""

/-- The name in an address, or an empty text. -/
def user (u : Url) : String :=
  percentDecode (String.ofList (splitBefore (· == ':') u.userPart.toList).1)

/-- The password in an address, or an empty text. -/
def password (u : Url) : String :=
  percentDecode (String.ofList (splitBefore (· == ':') u.userPart.toList).2.tail)

/-- The first part, by its name, that is longer than a whole address may be. -/
def partFault? (parts : List (String × String)) : Option UrlFault :=
  (parts.find? fun (_, part) => maxUrlLength < part.length).map fun (name, _) => .partTooLong name

/-- The address without name and password. -/
def withoutUser (u : Url) : Except UrlFault Url :=
  let long := partFault? [("scheme", u.scheme), ("authority", u.authority), ("path", u.path),
    ("query", u.query.getD ""), ("fragment", u.fragment.getD "")]
  match long with
  | some fault => throw fault
  | none =>
    ofParts ⟨u.scheme.toList, u.authority.toList, u.path.toList, u.query.map (·.toList),
      u.fragment.map (·.toList)⟩ (some [])

/-- Whether an address says where the server is. -/
def isAbsolute (u : Url) : Bool := u.scheme != "" && u.host != ""

/-- The address that a request goes to. Of an address without a server only the path and the query are left,
    with one slash in front. -/
def target (u : Url) : Except UrlFault Url :=
  if u.isAbsolute then return u
  else
    let place := UrlParts.split ('/' :: u.place.toList.dropWhile (· == '/'))
    let long := partFault? [("path", String.ofList place.path),
      ("query", String.ofList (place.query.getD []))]
    match long with
    | some fault => throw fault
    | none => ofParts place none

end Url

end OperationClasses
