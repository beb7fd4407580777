/-! Why a request is refused before anything is sent. -/

namespace CodeSurvey

inductive UrlError where
  | emptyHost
  | invalidDomain
  | invalidPort
  | invalidAddress4
  | invalidAddress6
  | invalidHostCharacter
  | missingScheme
deriving DecidableEq, Repr

def UrlError.message : UrlError → String
  | .emptyHost => "empty host"
  | .invalidDomain => "invalid international domain name"
  | .invalidPort => "invalid port number"
  | .invalidAddress4 => "invalid IPv4 address"
  | .invalidAddress6 => "invalid IPv6 address"
  | .invalidHostCharacter => "invalid domain character"
  | .missingScheme => "relative URL without a base"

inductive RequestError where
  | unreadable (e : UrlError)
  | scheme (url : String)
  | header
  | unwritable (url : String)
  | unreachable (url : String)
deriving DecidableEq, Repr

namespace RequestError

def message : RequestError → String
  | .unreadable _ => "builder error"
  | .scheme url => "builder error for url (" ++ url ++ ")"
  | .header => "builder error"
  | .unwritable url => "builder error for url (" ++ url ++ ")"
  | .unreachable url => "error sending request for url (" ++ url ++ ")"

def causes : RequestError → List String
  | .unreadable e => [e.message]
  | .scheme _ => ["URL scheme is not allowed"]
  | .header => ["failed to parse header value"]
  | .unwritable _ => ["Parsed Url is not a valid Uri"]
  | .unreachable _ => []

end RequestError

end CodeSurvey
