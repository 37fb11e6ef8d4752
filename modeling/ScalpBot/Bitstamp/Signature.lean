import ScalpBot.Digest.Sha256
import ScalpBot.Text.Case
import ScalpBot.Text.Quoted
import ScalpBot.Web.Form

/-!
# Signed requests

A private request names its API key and proves knowledge of the secret: it carries the keyed digest of
a message made from the request itself, a nonce and a time. `SignedParts.message` is that message and
`sign` its signature; `AuthHeaders` are the header fields that carry the proof.
-/

namespace ScalpBot.Bitstamp

/-- A key and the secret that goes with it. -/
structure Credentials where
  apiKey : String
  apiSecret : String
deriving DecidableEq, Repr

namespace Credentials

/-- The credentials of two settings, where both are given and neither is empty. -/
def ofSettings : (key secret : Option String) → Option Credentials
  | some key, some secret => if key.isEmpty || secret.isEmpty then none else some ⟨key, secret⟩
  | _, _ => none

/-- The credentials for diagnostics, which never show the secret. -/
def describe (c : Credentials) : String :=
  "ApiCredentials \x7b api_key: " ++ quoted c.apiKey ++ ", api_secret: " ++ quoted "<redacted>"
    ++ " \x7d"

end Credentials

/-- The version of the signing scheme. -/
def authVersion : String := "v2"

/-- What is signed of a request. -/
structure SignedParts where
  method : String
  host : String
  path : String
  query : String
  nonce : String
  /-- Milliseconds from the start of 1970. -/
  timestamp : Int
  body : String
deriving DecidableEq

namespace SignedParts

/-- The media type that is signed: an empty body has none. -/
def contentType (parts : SignedParts) : String :=
  if parts.body.isEmpty then "" else Form.mediaType

/-- The value of the field that names the key. -/
def keyField (apiKey : String) : String := "BITSTAMP " ++ apiKey

/-- The message that is signed. -/
def message (apiKey : String) (parts : SignedParts) : String :=
  keyField apiKey ++ upperCase parts.method ++ parts.host ++ parts.path ++ parts.query
    ++ parts.contentType ++ parts.nonce ++ toString parts.timestamp ++ authVersion ++ parts.body

end SignedParts

/-- The signature of a request. -/
def sign (credentials : Credentials) (parts : SignedParts) : String :=
  hexText (hmacSha256 (utf8Bytes credentials.apiSecret)
    (utf8Bytes (parts.message credentials.apiKey)))

/-- What a private request carries in its header. -/
structure AuthHeaders where
  auth : String
  signature : String
  nonce : String
  timestamp : Int
  hasBody : Bool
deriving DecidableEq

namespace AuthHeaders

/-- The proof for a request without a query. -/
def ofRequest (credentials : Credentials) (method host path body nonce : String)
    (timestamp : Int) : AuthHeaders where
  auth := SignedParts.keyField credentials.apiKey
  signature := sign credentials ⟨method, host, path, "", nonce, timestamp, body⟩
  nonce := nonce
  timestamp := timestamp
  hasBody := !body.isEmpty

/-- The header fields, in order. -/
def fields (h : AuthHeaders) : List (String × String) :=
  [("x-auth", h.auth), ("x-auth-signature", h.signature), ("x-auth-nonce", h.nonce),
    ("x-auth-timestamp", toString h.timestamp), ("x-auth-version", authVersion)]
    ++ (if h.hasBody then [("content-type", Form.mediaType)] else [])

end AuthHeaders

end ScalpBot.Bitstamp
