import HeptaBao.Durable.Validate
import HeptaBao.Wire.Value

namespace HeptaBao.Http

open Wire Std Durable List

def maxHeaders : Nat := 16 * 1024
def maxBody : Nat := 256 * 1024
def maxSnapshotBody : Nat := 32 * 1024 * 1024
def bufferBytes : Nat := 4096

structure Request where
  method : Str
  path : Str
  nspace : Str
  token : Str
  body : Value

structure ParseError where
  status : Nat
  message : Str
deriving DecidableEq

def bad (message : String) : ParseError := ⟨400, str message⟩

-- The errors of a request whose bytes have arrived.
inductive Rejection where
  | headersNotAscii
  | missingRequestLine
  | methodOrVersion
  | notApi
  | headerFraming
  | invalidHeader
  | headerBytes
  | duplicateHeaders
  | hostRequired
  | headerSemantics
  | streamedBody
  | contentLength
  | bodyTooLarge
  | ambiguousNamespace
  | tokenTooLong
  | contentType
  | trailingBytes
  | invalidJson
  | objectRequired
  | encodedPath
  | queryValue
  | unsupportedQuery
  | duplicateQuery
  | numericQuery
  | queryEscape
  | queryBytes
  | queryText
  | listNotBoolean
deriving DecidableEq

def Rejection.error : Rejection → ParseError
  | headersNotAscii => bad "headers must be ASCII"
  | missingRequestLine => bad "missing request line"
  | methodOrVersion => bad "unsupported HTTP method or version"
  | notApi => bad "request must use /v1/ API"
  | headerFraming => bad "invalid header framing"
  | invalidHeader => bad "invalid header"
  | headerBytes => bad "invalid header bytes"
  | duplicateHeaders => bad "duplicate headers are not supported"
  | hostRequired => bad "Host header is required"
  | headerSemantics => ⟨501, str "requested OpenBao header semantics are not implemented"⟩
  | streamedBody => bad "streamed request bodies are not supported"
  | contentLength => bad "invalid content length"
  | bodyTooLarge => ⟨413, str "request body exceeds limit"⟩
  | ambiguousNamespace => bad "ambiguous namespace segments"
  | tokenTooLong => bad "token header exceeds limit"
  | contentType => bad "JSON content type required"
  | trailingBytes => bad "pipelining and trailing bytes are not supported"
  | invalidJson => bad "invalid JSON object"
  | objectRequired => bad "JSON object required"
  | encodedPath => bad "ambiguous encoded paths are not supported"
  | queryValue => bad "query parameters require values"
  | unsupportedQuery => bad "unsupported query parameter; request fields belong in JSON body"
  | duplicateQuery => bad "duplicate body/query parameter"
  | numericQuery => bad "invalid numeric query"
  | queryEscape => bad "invalid query escape"
  | queryBytes => bad "invalid query bytes"
  | queryText => bad "invalid query text"
  | listNotBoolean => bad "list parameter must be boolean"

def headersTooLarge : ParseError := bad "headers too large"
def incompleteHeaders : ParseError := bad "incomplete headers"
def incompleteBody : ParseError := bad "incomplete body"

def require (condition : Bool) (rejection : Rejection) : Except Rejection Unit :=
  if condition = true then .ok () else .error rejection

def headerEnd : Bytes := [13, 10, 13, 10]

-- bytes.windows(4).position(..)
def findEnd : Bytes → Option Nat
  | [] => none
  | byte :: rest => if headerEnd.isPrefixOf (byte :: rest) = true then some 0 else (findEnd rest).map (· + 1)

def splitLines : Bytes → List Bytes
  | [] => [[]]
  | [byte] => [[byte]]
  | first :: second :: rest =>
    if first = 13 ∧ second = 10 then [] :: splitLines rest
    else
      match splitLines (second :: rest) with
      | [] => [[first]]
      | line :: lines => (first :: line) :: lines

def methods : List Str := ["GET", "POST", "PUT", "DELETE", "LIST", "SCAN", "PATCH", "HEAD"].map str

def requestLine (line : Bytes) : Except Rejection (Str × Str) :=
  match line.splitOn 32 with
  | [method, target, version] =>
    if version = str "HTTP/1.1" ∧ method ∈ methods then
      if 8192 < target.length ∨ (str "/v1/").isPrefixOf target = false then .error .notApi else .ok (method, target)
    else .error .methodOrVersion
  | _ => .error .methodOrVersion

abbrev Fields := ExtTreeMap Str Str

def readFields : Nat → List Bytes → Fields → Except Rejection Fields
  | _, [], fields => .ok fields
  | count, line :: lines, fields =>
    if 100 ≤ count ∨ line.head? = some 32 ∨ line.head? = some 9 then .error .headerFraming
    else
      match splitOnce 58 line with
      | none => .error .invalidHeader
      | some (name, value) =>
        if name = [] ∨ name.all (fun byte => asciiAlphanumeric byte || byte == 45) = false ∨
            value.any (fun byte => byte < 32 && byte != 9) = true then .error .headerBytes
        else if name.map asciiLower ∈ fields then .error .duplicateHeaders
        else readFields (count + 1) lines (fields.insert (name.map asciiLower) (trim value))

def foreignHeader (name : Str) : Bool :=
  ((str "x-vault-").isPrefixOf name || (str "x-bao-").isPrefixOf name) &&
    !(["x-vault-token", "x-vault-namespace", "x-vault-request"].map str).contains name

def contentLength (fields : Fields) : Except Rejection Nat :=
  match fields[str "content-length"]? with
  | none => .ok 0
  | some text =>
    if text = [] ∨ text.all asciiDigit = false then .error .contentLength
    else
      match parseU64 text with
      | none => .error .contentLength
      | some length => .ok length

def maximumBody (target : Str) : Nat := if (str "/v1/sys/storage/raft/snapshot").isPrefixOf target then maxSnapshotBody else maxBody

def namespaceOf (fields : Fields) : Except Rejection Str :=
  let raw := (fields[str "x-vault-namespace"]?).getD []
  if raw = str "/" ∨ containsText (str "//") raw = true then .error .ambiguousNamespace else .ok ((stripSuffix (str "/") raw).getD raw)

def jsonContent (fields : Fields) : Bool :=
  match fields[str "content-type"]? with
  | none => true
  | some text => [some (str "application/json"), some (str "application/merge-patch+json")].contains (text.splitOn 59).head?

structure Head where
  method : Str
  target : Str
  length : Nat
  nspace : Str
  token : Str

def parseHead (headers : Bytes) : Except Rejection Head := do
  require (headers.all (· < 128)) .headersNotAscii
  match splitLines (headers.take (headers.length - 4)) with
  | [] => .error .missingRequestLine
  | line :: lines => do
    let (method, target) ← requestLine line
    let fields ← readFields 0 lines ∅
    require (fields.contains (str "host")) .hostRequired
    require (!fields.keys.any foreignHeader) .headerSemantics
    require (!(fields.contains (str "transfer-encoding") || fields.contains (str "expect"))) .streamedBody
    let length ← contentLength fields
    require (length ≤ maximumBody target) .bodyTooLarge
    let nspace ← namespaceOf fields
    let token := (fields[str "x-vault-token"]?).getD []
    require (token.length ≤ 16 * 1024) .tokenTooLong
    require (length = 0 || jsonContent fields) .contentType
    .ok ⟨method, target, length, nspace, token⟩

def hexValue (byte : UInt8) : Option Nat :=
  if asciiDigit byte = true then some (byte.toNat - 48)
  else if 97 ≤ byte ∧ byte ≤ 102 then some (byte.toNat - 87)
  else if 65 ≤ byte ∧ byte ≤ 70 then some (byte.toNat - 55)
  else none

-- u8::from_str_radix of two characters takes a leading plus sign.
def hexPair (first second : UInt8) : Option UInt8 :=
  if first = 43 then (hexValue second).map UInt8.ofNat
  else do
    let high ← hexValue first
    let low ← hexValue second
    some (UInt8.ofNat (16 * high + low))

def unescape : Bytes → Except Rejection Bytes
  | [] => .ok []
  | 37 :: first :: second :: rest =>
    match hexPair first second with
    | none => .error .queryEscape
    | some byte => (unescape rest).map (byte :: ·)
  | byte :: rest =>
    if byte = 37 then .error .queryEscape
    else (unescape rest).map ((if byte = 43 then 32 else byte) :: ·)

def decodeQuery (text : Bytes) : Except Rejection Bytes := do
  let bytes ← unescape text
  require (!bytes.any fun byte => byte < 32 || byte == 127) .queryBytes
  require (utf8Valid bytes) .queryText
  .ok bytes

abbrev Members := List (Bytes × Value)

def queryNames : List Str := ["version", "depth", "limit", "list", "after", "exclude_deleted"].map str
def numericNames : List Str := ["version", "depth", "limit"].map str

def queryParameter (key value : Str) : Except Rejection Value :=
  if key ∈ numericNames then
    match parseU64 value with
    | none => .error .numericQuery
    | some number => .ok (.ofNat number)
  else if value = str "true" then .ok (.bool true)
  else if value = str "false" then .ok (.bool false)
  else .ok (.string value)

def addQuery : List Bytes → Members → Except Rejection Members
  | [], members => .ok members
  | pair :: pairs, members =>
    match splitOnce 61 pair with
    | none => .error .queryValue
    | some (rawKey, rawValue) => do
      let key ← decodeQuery rawKey
      let value ← decodeQuery rawValue
      require (queryNames.contains key) .unsupportedQuery
      require (!members.any (·.1 == key)) .duplicateQuery
      let parsed ← queryParameter key value
      addQuery pairs ((insertMember key parsed members).getD members)

def readBody (readJson : Bytes → Option Value) (length : Nat) (bytes : Bytes) : Except Rejection Members :=
  match if length = 0 then some (.object []) else (readJson bytes).bind strict with
  | none => .error .invalidJson
  | some (.object members) => .ok members
  | some _ => .error .objectRequired

def listed (members : Members) : Option Value := (members.find? (·.1 == str "list")).map (·.2)

def asListing (method : Str) (members : Members) : Except Rejection (Str × Members) :=
  if method = str "GET" then
    match listed members with
    | none => .ok (method, members)
    | some (.bool true) => .ok (str "LIST", members.filter (·.1 != str "list"))
    | some (.bool false) => .ok (method, members)
    | some _ => .error .listNotBoolean
  else .ok (method, members)

def finish (readJson : Bytes → Option Value) (head : Head) (headEnd : Nat) (bytes : Bytes) : Except Rejection Request := do
  require (bytes.length = headEnd + head.length) .trailingBytes
  let members ← readBody readJson head.length (bytes.drop headEnd)
  let (path, query) := (splitOnce 63 (head.target.drop 4)).getD (head.target.drop 4, [])
  require (!(path.contains 37 || path.contains 35)) .encodedPath
  let members ← addQuery ((query.splitOn 38).filter (· ≠ [])) members
  let (method, members) ← asListing head.method members
  .ok ⟨method, path, head.nspace, head.token, .object members⟩

-- One read into a buffer of that many bytes; what did not fit is read next time.
def readSome (limit : Nat) : List Bytes → Bytes × List Bytes
  | [] => ([], [])
  | chunk :: chunks => if chunk.length ≤ limit then (chunk, chunks) else (chunk.take limit, chunk.drop limit :: chunks)

def headLoop (bytes : Bytes) (chunks : List Bytes) : Except ParseError (Nat × Bytes × List Bytes) :=
  match findEnd bytes with
  | some index => if maxHeaders < index then .error headersTooLarge else .ok (index + 4, bytes, chunks)
  | none =>
    if _large : maxHeaders < bytes.length then .error headersTooLarge
    else
      match readSome bufferBytes chunks with
      | ([], _) => .error incompleteHeaders
      | (byte :: more, rest) => headLoop (bytes ++ byte :: more) rest
termination_by maxHeaders + 1 - bytes.length
decreasing_by
  rw [length_append, length_cons]
  omega

def bodyLoop (needed : Nat) (bytes : Bytes) (chunks : List Bytes) : Except ParseError Bytes :=
  if _enough : needed ≤ bytes.length then .ok bytes
  else
    match readSome (min (needed - bytes.length) bufferBytes) chunks with
    | ([], _) => .error incompleteBody
    | (byte :: more, rest) => bodyLoop needed (bytes ++ byte :: more) rest
termination_by needed - bytes.length
decreasing_by
  rw [length_append, length_cons]
  omega

-- The two checks of the deadline are left out: no time passes here.
def readRequest (readJson : Bytes → Option Value) (chunks : List Bytes) : Except ParseError Request := do
  let (headEnd, bytes, rest) ← headLoop [] chunks
  let head ← (parseHead (bytes.take headEnd)).mapError Rejection.error
  let bytes ← bodyLoop (headEnd + head.length) bytes rest
  (finish readJson head headEnd bytes).mapError Rejection.error

end HeptaBao.Http
