import JetSocket.Exceptions

/- WebSocket URIs (`transport/uri.py`). `urlparse` is a parameter. -/
namespace JetSocket.Transport

inductive Scheme where
  | ws
  | wss
  deriving DecidableEq, Repr

/-- The port of a scheme. -/
def Scheme.defaultPort : Scheme → Nat
  | .ws => 80
  | .wss => 443

structure WebSocketURI where
  scheme : Scheme
  host : String
  port : Nat
  path : String
  query : Option String
  fragment : Option String
  userinfo : Option String
  deriving DecidableEq, Repr

/-- What `parse_uri` reads of a `urlparse` result. Reading `port` may raise `ValueError`,
whose text it then is. -/
structure ParseResult where
  scheme : String
  hostname : Option String
  port : Except String (Option Nat)
  path : String
  query : String
  fragment : String
  username : Option String
  password : Option String

/-- `urlparse`; an error is the text of a `ValueError`. -/
abbrev UrlParse := String → Except String ParseResult

namespace WebSocketURI

/-- `is_secure`. -/
def isSecure (u : WebSocketURI) : Bool := u.scheme = .wss

/-- `origin`. -/
def origin (u : WebSocketURI) : String :=
  let httpScheme := if u.isSecure then "https" else "http"
  if u.port = u.scheme.defaultPort then s!"{httpScheme}://{u.host}"
  else s!"{httpScheme}://{u.host}:{u.port}"

/-- `resource_name`. -/
def resourceName (u : WebSocketURI) : String :=
  match u.query with
  | some query => if query.isEmpty then u.path else s!"{u.path}?{query}"
  | none => u.path

/-- `host_header`. -/
def hostHeader (u : WebSocketURI) : String :=
  if u.port = u.scheme.defaultPort then u.host else s!"{u.host}:{u.port}"

end WebSocketURI

/-- `text or None`. -/
def orNone (text : String) : Option String := if text.isEmpty then none else some text

/-- `parse_uri`. -/
def parseUri (urlparse : UrlParse) (uri : String) : Except Exc WebSocketURI :=
  match urlparse uri with
  | .error msg => .error (.valueError msg)
  | .ok parsed =>
    let scheme : Option Scheme :=
      if parsed.scheme = "ws" then some .ws else if parsed.scheme = "wss" then some .wss else none
    match scheme, parsed.hostname.bind orNone, parsed.port with
    | none, _, _ =>
      .error (.valueError
        s!"Invalid WebSocket scheme: '{parsed.scheme}'. Must be 'ws' or 'wss'")
    | some _, none, _ => .error (.valueError s!"Missing host in URI: {uri}")
    | some _, some _, .error msg => .error (.valueError msg)
    | some scheme, some host, .ok parsedPort =>
      let port := parsedPort.getD scheme.defaultPort
      if ¬ (0 < port ∧ port ≤ 65535) then .error (.valueError s!"Invalid port: {port}")
      else
        .ok { scheme, host, port
              path := if parsed.path.isEmpty then "/" else parsed.path
              query := orNone parsed.query
              fragment := orNone parsed.fragment
              userinfo := (parsed.username.bind orNone).map (fun username =>
                match parsed.password.bind orNone with
                | some password => s!"{username}:{password}"
                | none => username) }

/-- An accepted URI has a host, a path and a port that a socket can have. -/
theorem parseUri_wellFormed {urlparse : UrlParse} {uri : String} {u : WebSocketURI}
    (h : parseUri urlparse uri = .ok u) :
    u.host ≠ "" ∧ u.path ≠ "" ∧ 0 < u.port ∧ u.port ≤ 65535 := by
  unfold parseUri at h
  split at h
  · cases h
  · rename_i parsed _
    dsimp only at h
    split at h
    · cases h
    · cases h
    · cases h
    · rename_i host _ _ hhost _
      split at h
      · cases h
      · rename_i hport
        cases h
        refine ⟨?_, ?_, by simpa using hport⟩
        · obtain ⟨name, -, hname⟩ := Option.bind_eq_some_iff.mp hhost
          unfold orNone at hname
          split at hname
          · cases hname
          · rename_i hne
            cases hname
            simpa using hne
        · dsimp only
          split
          · decide
          · rename_i hne
            simpa using hne

end JetSocket.Transport
