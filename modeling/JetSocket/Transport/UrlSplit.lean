import JetSocket.Lib.Partition
import JetSocket.Transport.Uri

/- `urlparse`, as `parse_uri` (`transport/uri.py`) relies on it: a URI is split as RFC 3986
   says, scheme, authority, path, query and fragment in turn, and the authority into user
   information, host and port. Brackets stand around an IP literal and nowhere else.

   `str.lower` is a parameter: of it, it is known that lowering twice is lowering once and
   that delimiters stay and do not come up.

   Correspondence (Python ↔ Lean):
     `urlsplit`                               ↔ `urlsplit`, `splitScheme`, `splitAuthority`
     `username`, `password`, `hostname`, `port` ↔ `splitNetloc`, `Lowering.hostname`, `readPort`
     `str(uri)`                               ↔ `WebSocketURI.str` -/
namespace JetSocket.Transport
open Partition

/-- The characters that part a URI. -/
def delimiters : List Char := ['/', '?', '#', '@', ':', '[', ']', '%']

/-- `str.lower`. -/
structure Lowering where
  lower : List Char → List Char
  lower_lower : ∀ l, lower (lower l) = lower l
  mem_lower : ∀ l, ∀ c ∈ delimiters, c ∈ lower l ↔ c ∈ l

/-- `hostname`: the zone of an address, behind a percent sign, is not lowered. -/
def Lowering.hostname (low : Lowering) (host : List Char) : List Char :=
  match partition '%' host with
  | (name, none) => low.lower name
  | (name, some zone) => low.lower name ++ '%' :: zone

/-- A character of a scheme. -/
def isSchemeChar (c : Char) : Bool := c.isAlphanum || c = '+' || c = '-' || c = '.'

/-- The scheme, in lower case, and what follows the colon. -/
def splitScheme (url : List Char) : List Char × List Char :=
  match partition ':' url with
  | (name, some rest) =>
    if (name.head?.any Char.isAlpha && name.all isSchemeChar) = true then
      (name.map Char.toLower, rest)
    else ([], url)
  | (_, none) => ([], url)

/-- A character of an authority. -/
def inAuthority (c : Char) : Bool := c ≠ '/' && c ≠ '?' && c ≠ '#'

/-- The authority behind `//`, and the rest. -/
def splitAuthority : List Char → List Char × List Char
  | '/' :: '/' :: url => (url.takeWhile inAuthority, url.dropWhile inAuthority)
  | url => ([], url)

structure SplitResult where
  scheme : List Char
  netloc : List Char
  path : List Char
  query : List Char
  fragment : List Char
  deriving DecidableEq, Repr

/-- `urlsplit`. -/
def urlsplit (url : List Char) : SplitResult :=
  let scheme := splitScheme url
  let authority := splitAuthority scheme.2
  let fragment := partition '#' authority.2
  let query := partition '?' fragment.1
  { scheme := scheme.1, netloc := authority.1, path := query.1, query := query.2.getD [],
    fragment := fragment.2.getD [] }

/-- The parts of an authority. An absent port is empty. -/
structure Netloc where
  userinfo : Option (List Char)
  host : List Char
  port : List Char
  deriving DecidableEq, Repr

def isBracket (c : Char) : Bool := c = '[' || c = ']'

/-- Host and port: an IP literal stands in brackets. -/
def splitHostinfo : List Char → Option (List Char × List Char)
  | '[' :: bracketed =>
    match partition ']' bracketed with
    | (host, some []) => some (host, [])
    | (host, some (':' :: port)) => some (host, port)
    | _ => none
  | hostinfo => some ((partition ':' hostinfo).1, (partition ':' hostinfo).2.getD [])

/-- The authority; the user information ends at its last `@`. -/
def splitNetloc (netloc : List Char) : Option Netloc :=
  let r := rpartition '@' netloc
  (splitHostinfo r.2).bind (fun hostinfo =>
    if (r.1.getD []).any isBracket || hostinfo.1.any isBracket then none
    else some { userinfo := r.1, host := hostinfo.1, port := hostinfo.2 })

/-- `port`. -/
def readPort (port : List Char) : Except String (Option Nat) :=
  if port.isEmpty then .ok none
  else if port.all Char.isDigit then
    if Nat.ofDigitChars 10 port 0 ≤ 65535 then .ok (some (Nat.ofDigitChars 10 port 0))
    else .error "Port out of range 0-65535"
  else .error s!"Port could not be cast to integer value as '{String.ofList port}'"

/-- `urlparse`, with the properties of its result. -/
def urlparse (low : Lowering) : UrlParse := fun uri =>
  let s := urlsplit uri.toList
  match splitNetloc s.netloc with
  | none => .error "Invalid IPv6 URL"
  | some netloc =>
    let user := netloc.userinfo.map (partition ':')
    .ok { scheme := String.ofList s.scheme
          hostname := if netloc.host.isEmpty then none
            else some (String.ofList (low.hostname netloc.host))
          port := readPort netloc.port
          path := String.ofList s.path
          query := String.ofList s.query
          fragment := String.ofList s.fragment
          username := user.map (fun r => String.ofList r.1)
          password := (user.bind Prod.snd).map String.ofList }

/-- `schema://`. -/
def Scheme.text : Scheme → String
  | .ws => "ws"
  | .wss => "wss"

/-- `__str__`. -/
def WebSocketURI.str (u : WebSocketURI) : String :=
  let uri := u.scheme.text ++ "://"
  let uri := match u.userinfo with
    | some userinfo => if userinfo.isEmpty then uri else uri ++ (userinfo ++ "@")
    | none => uri
  let uri := uri ++ u.hostHeader
  let uri := uri ++ u.resourceName
  match u.fragment with
  | some fragment => if fragment.isEmpty then uri else uri ++ ("#" ++ fragment)
  | none => uri

end JetSocket.Transport
