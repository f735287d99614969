import JetSocket.Transport.Protocol

/- The opening handshake (`_core.pyx`, `Handshake` and `parse_deflate_params`): the
   request, the checks of the response, and the parameters of permessage-deflate.
   SHA-1 and Base64 are a parameter: `acceptKey key` is what the server owes for `key`.

   A Python text is a list of characters here, and the text operations follow Python's:
   `strip` and `isSpace` know its white space, `pyInt` its `int(text)`, every decimal digit
   and the limit of 4300 digits included. `lower` is exact on the characters whose lower
   case has an ASCII letter in it, and leaves the others: the code compares its results with
   ASCII texts only. -/
namespace JetSocket.Transport
open JetSocket.Core

abbrev Text := List Char

/-! ## Text operations -/

/-- `c.isspace()`. -/
def isSpace (c : Char) : Bool :=
  let n := c.toNat
  (0x09 ≤ n && n ≤ 0x0D) || (0x1C ≤ n && n ≤ 0x20) || n == 0x85 || n == 0xA0 || n == 0x1680 ||
    (0x2000 ≤ n && n ≤ 0x200A) || n == 0x2028 || n == 0x2029 || n == 0x202F || n == 0x205F ||
    n == 0x3000

/-- `text.strip()`. -/
def strip (text : Text) : Text :=
  ((text.dropWhile isSpace).reverse.dropWhile isSpace).reverse

/-- `c.lower()`. -/
def lowerChar (c : Char) : Text :=
  if 'A' ≤ c ∧ c ≤ 'Z' then [Char.ofNat (c.toNat + 32)]
  else if c.toNat = 0x212A then ['k']
  else if c.toNat = 0x130 then ['i', Char.ofNat 0x307]
  else [c]

/-- `text.lower()`. -/
def lower (text : Text) : Text := text.flatMap lowerChar

/-- `sub in text`. -/
def isIn (sub text : Text) : Bool := text.tails.any (fun t => sub.isPrefixOf t)

/-- `text.split(sep)` from inside a piece: `skip` characters of a separator are left, and
`piece` is what was read of the piece, reversed. -/
def splitFrom (sep : Text) : Nat → Text → Text → List Text
  | _, piece, [] => [piece.reverse]
  | skip + 1, piece, _ :: rest => splitFrom sep skip piece rest
  | 0, piece, c :: rest =>
    if sep.isPrefixOf (c :: rest) then piece.reverse :: splitFrom sep (sep.length - 1) [] rest
    else splitFrom sep 0 (c :: piece) rest

/-- `text.split(sep)`, for a separator that is not empty. -/
def split (sep text : Text) : List Text := splitFrom sep 0 [] text

/-- `text.split(sep, n)`, for one character. -/
def splitAtMost (sep : Char) : Nat → Text → List Text
  | 0, text => [text]
  | n + 1, text =>
    match text.span (fun c => c != sep) with
    | (piece, []) => [piece]
    | (piece, _ :: rest) => piece :: splitAtMost sep n rest

/-- The zeros of the decimal digits of Unicode; each begins a run of ten. -/
def decimalZeros : List Nat :=
  [0x30, 0x660, 0x6F0, 0x7C0, 0x966, 0x9E6, 0xA66, 0xAE6, 0xB66, 0xBE6, 0xC66, 0xCE6, 0xD66,
   0xDE6, 0xE50, 0xED0, 0xF20, 0x1040, 0x1090, 0x17E0, 0x1810, 0x1946, 0x19D0, 0x1A80, 0x1A90,
   0x1B50, 0x1BB0, 0x1C40, 0x1C50, 0xA620, 0xA8D0, 0xA900, 0xA9D0, 0xA9F0, 0xAA50, 0xABF0,
   0xFF10, 0x104A0, 0x10D30, 0x11066, 0x110F0, 0x11136, 0x111D0, 0x112F0, 0x11450, 0x114D0,
   0x11650, 0x116C0, 0x11730, 0x118E0, 0x11950, 0x11C50, 0x11D50, 0x11DA0, 0x16A60, 0x16AC0,
   0x16B50, 0x1D7CE, 0x1D7D8, 0x1D7E2, 0x1D7EC, 0x1D7F6, 0x1E140, 0x1E2F0, 0x1E950, 0x1FBF0]

def digitValue (c : Char) : Option Nat :=
  (decimalZeros.find? (fun z => z ≤ c.toNat && c.toNat < z + 10)).map (fun z => c.toNat - z)

/-- Digits, single underscores between them. -/
def readDigits : Text → Option (List Nat)
  | [] => none
  | [c] => (digitValue c).map (fun d => [d])
  | c :: '_' :: rest => (digitValue c).bind (fun d => (readDigits rest).map (fun ds => d :: ds))
  | c :: rest => (digitValue c).bind (fun d => (readDigits rest).map (fun ds => d :: ds))

/-- The blanks that `int` passes over: in an ASCII text those of C, which has fewer. -/
def isIntSpace (ascii : Bool) (c : Char) : Bool :=
  if ascii then (0x09 ≤ c.toNat && c.toNat ≤ 0x0D) || c.toNat == 0x20 else isSpace c

/-- `int(text)`, or `none` where it raises `ValueError`. -/
def pyInt (text : Text) : Option Int :=
  let blank := isIntSpace (text.all (fun c => c.toNat < 0x80))
  let value (digits : Text) : Option Nat :=
    match readDigits digits with
    | none => none
    | some ds => if ds.length ≤ 4300 then some (ds.foldl (fun n d => n * 10 + d) 0) else none
  match ((text.dropWhile blank).reverse.dropWhile blank).reverse with
  | '-' :: digits => (value digits).map (fun n => -(n : Int))
  | '+' :: digits => (value digits).map (fun n => (n : Int))
  | digits => (value digits).map (fun n => (n : Int))

/-- The characters of at most `fuel` sequences, if all are well formed. -/
def decodeStrictFuel : Nat → Bytes → Option Text
  | 0, _ => some []
  | _ + 1, [] => some []
  | fuel + 1, b :: rest =>
    match utf8Next (b :: rest) with
    | (none, _) => none
    | (some c, n) => (decodeStrictFuel fuel ((b :: rest).drop n)).map (fun cs => c :: cs)

/-- `data.decode("utf-8")`, or `none` where it raises. -/
def decodeStrict (data : Bytes) : Option Text := decodeStrictFuel data.length data

/-! ## The handshake -/

structure Handshake where
  key : String
  host : String
  path : String
  origin : Option String
  subprotocols : List String
  extensions : List String
  extraHeaders : List (String × String)
  deriving DecidableEq, Repr

/-- `HandshakeResult`; in `headers` the latest entry of a name stands first. -/
structure HandshakeResult where
  status : Int
  headers : List (Text × Text)
  subprotocol : Option Text
  extensions : List Text
  deriving DecidableEq, Repr

/-- `build_request`. -/
def Handshake.buildRequest (h : Handshake) : Bytes :=
  let offered := String.intercalate ", " h.subprotocols
  let extensions := String.intercalate "; " h.extensions
  let lines : List String :=
    [s!"GET {h.path} HTTP/1.1", s!"Host: {h.host}", "Upgrade: websocket", "Connection: Upgrade",
      s!"Sec-WebSocket-Key: {h.key}", "Sec-WebSocket-Version: 13"] ++
    (match h.origin with
      | some o => if o.isEmpty then [] else [s!"Origin: {o}"]
      | none => []) ++
    (if h.subprotocols.isEmpty then []
      else [s!"Sec-WebSocket-Protocol: {offered}"]) ++
    (if h.extensions.isEmpty then []
      else [s!"Sec-WebSocket-Extensions: {extensions}"]) ++
    h.extraHeaders.map (fun (name, value) => s!"{name}: {value}") ++ ["", ""]
  encodeUtf8 (String.intercalate "\r\n" lines)

/-- The header lines, read into a dictionary. -/
def readHeaders (lines : List Text) : List (Text × Text) :=
  lines.foldl (fun headers line =>
    match splitAtMost ':' 1 line with
    | [name, value] => (lower (strip name), strip value) :: headers
    | _ => headers) []

/-- `headers.get(name)`. -/
def header (headers : List (Text × Text)) (name : String) : Option Text :=
  headers.lookup name.toList

def validateAccept (acceptKey : String → String) (key : String) (accept : Text) : Bool :=
  (acceptKey key).toList == accept

/-- `parse_response`; what it raises are `ValueError`s, given by their texts. -/
def Handshake.parseResponse (acceptKey : String → String) (h : Handshake) (response : Bytes) :
    Except String HandshakeResult := do
  let some headerLength := findSub headerEnd response | throw "Invalid HTTP response"
  let some headerSection := decodeStrict (response.take headerLength)
    | throw "Invalid HTTP response"
  let lines := split "\r\n".toList headerSection
  let parts := splitAtMost ' ' 2 (lines.headD [])
  let some statusText := parts[1]? | throw "Invalid HTTP response"
  let some status := pyInt statusText | throw "Invalid HTTP response"
  if status ≠ 101 then
    throw s!"HTTP {status}: {String.ofList (parts.getD 2 [])}"
  let headers := readHeaders lines.tail
  if lower ((header headers "upgrade").getD []) ≠ "websocket".toList then
    throw "Invalid Upgrade header"
  if ¬ isIn "upgrade".toList (lower ((header headers "connection").getD [])) then
    throw "Invalid Connection header"
  let some accept := header headers "sec-websocket-accept"
    | throw "Missing Sec-WebSocket-Accept header"
  if ¬ validateAccept acceptKey h.key accept then
    throw "Invalid Sec-WebSocket-Accept"
  let extensions := (header headers "sec-websocket-extensions").getD []
  return { status, headers, subprotocol := header headers "sec-websocket-protocol",
           extensions := if extensions.isEmpty then [] else (split [';'] extensions).map strip }

/-! ## permessage-deflate -/

/-- What `parse_deflate_params` returns. -/
structure DeflateParams where
  clientNoContextTakeover : Bool := false
  serverNoContextTakeover : Bool := false
  clientMaxWindowBits : Int := 15
  serverMaxWindowBits : Int := 15
  deriving DecidableEq, Repr

/-- `int(value)`. -/
def readInt (value : Text) : Except Exc Int :=
  match pyInt value with
  | some n => .ok n
  | none => .error (.valueError
      s!"invalid literal for int() with base 10: '{String.ofList value}'")

/-- One turn of the loop of `parse_deflate_params`. -/
def deflateParam (params : DeflateParams) (rawPart : Text) : Except Exc DeflateParams :=
  let token := strip rawPart
  if lower token = "permessage-deflate".toList ∨ token.isEmpty then .ok params
  else
    match splitAtMost '=' 1 token with
    | [key, value] =>
      if strip key = "client_max_window_bits".toList then
        (readInt (strip value)).map (fun n => { params with clientMaxWindowBits := n })
      else if strip key = "server_max_window_bits".toList then
        (readInt (strip value)).map (fun n => { params with serverMaxWindowBits := n })
      else .ok params
    | _ =>
      if token = "client_no_context_takeover".toList then
        .ok { params with clientNoContextTakeover := true }
      else if token = "server_no_context_takeover".toList then
        .ok { params with serverNoContextTakeover := true }
      else .ok params

/-- `parse_deflate_params`. -/
def parseDeflateParams (extensionStr : Text) : Except Exc DeflateParams :=
  (split [';'] extensionStr).foldlM deflateParam {}

variable {Z : Zlib}

/-- The settings of a deflater. -/
def Deflater.params (d : Deflater Z) : DeflateParams :=
  { clientNoContextTakeover := d.clientNoContextTakeover
    serverNoContextTakeover := d.serverNoContextTakeover
    clientMaxWindowBits := d.clientMaxWindowBits
    serverMaxWindowBits := d.serverMaxWindowBits }

/-- The part of `_perform_handshake` behind a valid response: the deflater, if one was
negotiated. -/
def negotiate (Z : Zlib) (compression : Bool) (result : HandshakeResult) :
    Except Exc (Option (Deflater Z)) :=
  let extHeader := (header result.headers "sec-websocket-extensions").getD []
  if compression && isIn "permessage-deflate".toList (lower extHeader) then do
    let p ← parseDeflateParams extHeader
    let d ← Deflater.new Z p.clientNoContextTakeover p.serverNoContextTakeover
      p.clientMaxWindowBits p.serverMaxWindowBits
    return some d
  else .ok none

end JetSocket.Transport
