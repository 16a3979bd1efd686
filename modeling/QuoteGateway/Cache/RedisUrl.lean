import QuoteGateway.Net.Punycode
import QuoteGateway.Net.Url

/-!
# Addresses of cache servers

An address names the host of a server and perhaps the number of a database on it.
-/

namespace QuoteGateway.Cache.Redis

inductive UrlFault where
  | unreadable
  | noHost
  | noSecureTransport
  | badDatabase
deriving DecidableEq

def UrlFault.message : UrlFault → String
  | .unreadable => "Redis URL did not parse- InvalidClientConfig"
  | .noHost => "Missing hostname- InvalidClientConfig"
  | .noSecureTransport =>
    "can't connect with TLS, the feature is not enabled- InvalidClientConfig"
  | .badDatabase => "Invalid database number- InvalidClientConfig"

def plainSchemes : List String := ["redis", "valkey"]

def secureSchemes : List String := ["rediss", "valkeys"]

def pathText (path : Net.Path) : List Char :=
  (((Net.Url.writePath path).dropWhile (· == '/')).reverse.dropWhile (· == '/')).reverse

/-- The address of a text, if it names a server. -/
def readUrl (s : String) : Except UrlFault Net.Url :=
  match Net.Url.read? Net.Punycode.hostForm s with
  | none => .error .unreadable
  | some url =>
    let scheme := String.ofList url.scheme
    if !(plainSchemes ++ secureSchemes).contains scheme then .error .unreadable
    else if url.host.isNone then .error .noHost
    else if secureSchemes.contains scheme then .error .noSecureTransport
    else
      let path := pathText url.path
      if path.isEmpty ∨ (Text.signed64? path).isSome then .ok url else .error .badDatabase

end QuoteGateway.Cache.Redis
