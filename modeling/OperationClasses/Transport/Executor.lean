/-
Module: OperationClasses.Transport.Executor
Purpose: How operations are sent to a server, with which headers, and what becomes of its answers.
Main exports: statusPhrase, Authentication, Executor, Executor.start, Executor.requestHeaders, Executor.request,
  RequestFault, Request.addressFault?, ServerAnswer, AnswerFault, ServerAnswer.result
-/
import OperationClasses.Json.Reader
import OperationClasses.Json.Writer
import OperationClasses.Text.Encoding
import OperationClasses.Transport.Bytes
import OperationClasses.Transport.Url

namespace OperationClasses

/-- The phrases of the response codes that have one. -/
def statusPhrases : List (Nat × String) := [
  (100, "Continue"), (101, "Switching Protocols"), (102, "Processing"), (103, "Early Hints"),
  (200, "OK"), (201, "Created"), (202, "Accepted"), (203, "Non-Authoritative Information"),
  (204, "No Content"), (205, "Reset Content"), (206, "Partial Content"), (207, "Multi-Status"),
  (208, "Already Reported"), (226, "IM Used"),
  (300, "Multiple Choices"), (301, "Moved Permanently"), (302, "Found"), (303, "See Other"),
  (304, "Not Modified"), (305, "Use Proxy"), (307, "Temporary Redirect"),
  (308, "Permanent Redirect"),
  (400, "Bad Request"), (401, "Unauthorized"), (402, "Payment Required"), (403, "Forbidden"),
  (404, "Not Found"), (405, "Method Not Allowed"), (406, "Not Acceptable"),
  (407, "Proxy Authentication Required"), (408, "Request Timeout"), (409, "Conflict"),
  (410, "Gone"), (411, "Length Required"), (412, "Precondition Failed"),
  (413, "Request Entity Too Large"), (414, "Request-URI Too Long"),
  (415, "Unsupported Media Type"), (416, "Requested Range Not Satisfiable"),
  (417, "Expectation Failed"), (418, "I'm a teapot"), (421, "Misdirected Request"),
  (422, "Unprocessable Entity"), (423, "Locked"), (424, "Failed Dependency"), (425, "Too Early"),
  (426, "Upgrade Required"), (428, "Precondition Required"), (429, "Too Many Requests"),
  (431, "Request Header Fields Too Large"), (451, "Unavailable For Legal Reasons"),
  (500, "Internal Server Error"), (501, "Not Implemented"), (502, "Bad Gateway"),
  (503, "Service Unavailable"), (504, "Gateway Timeout"), (505, "HTTP Version Not Supported"),
  (506, "Variant Also Negotiates"), (507, "Insufficient Storage"), (508, "Loop Detected"),
  (510, "Not Extended"), (511, "Network Authentication Required")]

/-- The phrase of a response code, or an empty text. -/
def statusPhrase (code : Nat) : String := (statusPhrases.lookup code).getD ""

/-- Headers in the order they were set. A name stands in them once, upper and lower case apart. -/
abbrev Headers := List (String × String)

/-- Headers with others set on top of them. -/
def Headers.update (headers others : Headers) : Headers :=
  others.foldl (fun hs (name, value) => setKey name value hs) headers

/-- How an executor shows who it is. -/
inductive Authentication where
  | bearer (token : String)
  | headers (headers : Headers)
deriving DecidableEq, Repr, Inhabited

/-- The headers of an authentication. -/
def Authentication.toHeaders : Authentication → Headers
  | .bearer token => [("Authorization", "Bearer " ++ token)]
  | .headers given => given

/-- Sends operations to one address. `basic` is the name and password of the address it was made from. -/
structure Executor where
  url : String
  basic : Option (String × String)
  auth : Option Authentication
  headers : Headers
deriving Inhabited

/-- A request for an operation. -/
structure Request where
  url : Url
  payload : Json
  headers : Headers
deriving Inhabited

/-- Why a request is not sent, or its answer not taken. -/
inductive RequestFault where
  | url (fault : UrlFault)
  /-- a name or value of a header with characters beyond ASCII -/
  | header (text : String)
  /-- a number that is not finite among the variables -/
  | infiniteNumber
  /-- an address without a server -/
  | noServer (address : String)
deriving DecidableEq, Repr, Inhabited

/-- A character by its number. -/
def numberedChar (c : Char) : String :=
  String.ofList <|
    if c.toNat ≤ 0xFF then '\\' :: 'x' :: Text.hexDigits 2 c.toNat
    else if c.toNat ≤ 0xFFFF then '\\' :: 'u' :: Text.hexDigits 4 c.toNat
    else '\\' :: 'U' :: Text.hexDigits 8 c.toNat

/-- Where the first characters beyond ASCII are in a text. -/
def beyondAscii (cs : List Char) : String :=
  let before := (cs.takeWhile (·.toNat < 0x80)).length
  match (cs.drop before).takeWhile (0x80 ≤ ·.toNat) with
  | [c] => "character '" ++ numberedChar c ++ "' in position " ++ toString before
  | found =>
    "characters in position " ++ toString before ++ "-" ++ toString (before + found.length - 1)

/-- The message of a request that is not sent. -/
def RequestFault.message : RequestFault → String
  | .url fault => fault.message
  | .header text =>
    "'ascii' codec can't encode " ++ beyondAscii text.toList ++ ": ordinal not in range(128)"
  | .infiniteNumber => "Out of range float values are not JSON compliant"
  | .noServer address => "unknown url type: " ++ Text.quoted address

namespace Executor

/-- An executor for an address. A name in the address, with its password, is taken out of it. -/
def start (address : String) (auth : Option Authentication) (headers : Headers) :
    Except UrlFault Executor := do
  let place ← Url.read address
  if place.user = "" then return ⟨place.text, none, auth, headers⟩
  else return ⟨(← place.withoutUser).text, some (place.user, place.password), auth, headers⟩

/-- The headers of a request: the usual ones, those of the executor, those of the authentication and
    those of the request, each set on top of the ones before. -/
def requestHeaders (e : Executor) (options : Headers) : Headers :=
  let usual : Headers := [("Content-Type", "application/json"), ("Accept", "application/json")]
  let fixed := Headers.update usual e.headers
  let known := (e.auth.map fun a => Headers.update fixed a.toHeaders).getD fixed
  Headers.update known options

/-- The name and password that are sent to an address: those taken out of the address, else those left
    in it. -/
def credentials (e : Executor) (url : Url) : Option (String × String) :=
  match e.basic with
  | some given => some given
  | none => if url.user = "" && url.password = "" then none else some (url.user, url.password)

/-- The header that shows a name and password. -/
def basicHeader (user password : String) : String := "Basic " ++ base64 (user ++ ":" ++ password)

/-- Headers with names in lower case, where the values of one name are joined. -/
def joinHeaders (headers : Headers) : Headers :=
  headers.foldl (fun hs (name, value) =>
    let name := String.ofList (name.toList.map Char.toLower)
    let value := ((hs.lookup name).map fun before => before ++ ", " ++ value).getD value
    setKey name value hs) []

/-- The headers that every request has unless they are given. -/
def standingHeaders (url : Url) (body : String) : Headers := [
  ("host", url.server), ("accept-encoding", "gzip, deflate"), ("connection", "keep-alive"),
  ("user-agent", "python-httpx/0.28.1"), ("content-length", toString body.utf8ByteSize)]

/-- The headers as they are sent: names in lower case, values of one name joined, and the name and
    password in the place of any authorization. -/
def sentHeaders (e : Executor) (url : Url) (body : String) (options : Headers) : Headers :=
  let given := joinHeaders (e.requestHeaders options)
  let joined := given ++ (standingHeaders url body).filter fun (name, _) =>
    (given.lookup name).isNone && (name != "host" || url.host != "")
  match e.credentials url with
  | some (user, password) => setKey "authorization" (basicHeader user password) joined
  | none => joined

/-- The first name or value of headers that has characters beyond ASCII. -/
def headerFault? (headers : Headers) : Option RequestFault :=
  (headers.flatMap fun (name, value) => [name, value]).findSome? fun text =>
    if text.toList.all (·.toNat < 0x80) then none else some (.header text)

/-- The request for an operation. Variables are left out if there are none. -/
def request (e : Executor) (query operationName : String) (values : Json) (options : Headers) :
    Except RequestFault Request := do
  let target ← ((Url.read e.url).bind Url.target).mapError RequestFault.url
  let payload := Json.obj ([("query", .str query), ("operationName", .str operationName)]
    ++ if values.isTruthy then [("variables", values)] else [])
  match headerFault? (e.requestHeaders options) with
  | some fault => throw fault
  | none =>
    if payload.isFinite then return ⟨target, payload, e.sentHeaders target payload.write options⟩
    else throw .infiniteNumber

end Executor

/-- Why the answer to a request is not taken: cookies are only taken from a server with an address. -/
def Request.addressFault? (r : Request) : Option RequestFault :=
  if r.url.isAbsolute then none else some (.noServer r.url.text)

/-- What a server answers. -/
structure ServerAnswer where
  status : Nat
  body : String
deriving DecidableEq, Repr, Inhabited

/-- Why the body of an answer is no JSON. -/
inductive AnswerFault where
  | undecodable (fault : Text.DecodeFault)
  | malformed (fault : Json.Malformed)
deriving DecidableEq, Repr, Inhabited

/-- The message of a body that is no JSON. -/
def AnswerFault.message : AnswerFault → String
  | .undecodable fault => fault.message
  | .malformed fault => fault.message

/-- The JSON in a body. A mark that says in which order the bytes come is left out; without one the null
    bytes say how they are encoded. -/
def readBody (body : String) : Except AnswerFault Json := do
  let chars ← match body.toList with
    | c :: rest =>
      if c.toNat = 0xFEFF then pure rest
      else
        let bytes := Text.utf8Bytes (c :: rest)
        match Text.Encoding.ofNulls bytes with
        | .utf8 => pure (c :: rest)
        | encoding => (encoding.decode bytes).mapError .undecodable
    | [] => pure []
  (Json.readChars chars).mapError .malformed

/-- The errors that stand for an answer which is no response to an operation. -/
def transportErrors (status : Nat) : Json :=
  .obj [("errors", .arr [.obj [("message", .str (toString status ++ " " ++ statusPhrase status))]])]

/-- The response in an answer: its JSON body if the server took the request or found it faulty, else errors
    that say what the server answered. -/
def ServerAnswer.result (a : ServerAnswer) : Except AnswerFault Json :=
  if a.status = 200 ∨ a.status = 400 then readBody a.body
  else return transportErrors a.status

end OperationClasses
