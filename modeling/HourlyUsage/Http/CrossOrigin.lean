import HourlyUsage.Http.Message
import HourlyUsage.Settings.App
/-!
# Requests from other origins

A browser sends the origin of the page that makes a request and hands the response on only if it
names that origin. Before some requests it asks first what is allowed. All that is allowed is `GET`
from the configured origins, with any headers and with credentials.

Sources: the middleware for other origins that the application is made with.
-/
namespace HourlyUsage.Http.CrossOrigin

def allowedMethods : List Text := [text "GET"]

/-- For how many seconds a browser may remember what is allowed. -/
def maxAge : Nat := 600

/-- What of a request the answer to a browser that asks first depends on. -/
def preflightVary : Text :=
  Text.join (text ", ") [text "Origin", text "Access-Control-Request-Method",
    text "Access-Control-Request-Headers", text "Access-Control-Request-Private-Network"]

/-- The header that tells a browser that it may send credentials. -/
def withCredentials (r : Response) : Response :=
  r.withHeader "access-control-allow-credentials" (text "true")

/-- The header that names the origin of a request, if it is allowed. -/
def withOrigin (allowed : Origins) (origin : Text) (r : Response) : Response :=
  if allowed.contains origin then r.withHeader "access-control-allow-origin" origin else r

/-- What is not allowed of a request that a browser asks about. -/
def objections (allowed : Origins) (origin method : Text) (r : Request) : List Text :=
  (if allowed.contains origin then [] else [text "origin"]) ++
    (if allowedMethods.contains method then [] else [text "method"]) ++
    (if (r.header? "access-control-request-private-network").isSome then [text "private-network"]
      else [])

/-- The answer to a browser that asks first. -/
def preflight (allowed : Origins) (origin method : Text) (r : Request) : Response :=
  let answer := match objections allowed origin method r with
    | [] => Response.plain 200 (text "OK")
    | what => Response.plain 400 (text "Disallowed CORS " ++ Text.join (text ", ") what)
  let answer := (withOrigin allowed origin (withCredentials answer)).withHeader
    "access-control-allow-methods" (Text.join (text ", ") allowedMethods)
  let answer := (answer.withHeader "access-control-max-age" (Numeral.ofNat maxAge)).withHeader
    "vary" preflightVary
  match r.header? "access-control-request-headers" with
  | some names => answer.withHeader "access-control-allow-headers" names
  | none => answer

/-- What is asked about, if a request comes from a browser that asks first: the origin and the
method. -/
def question? (r : Request) : Option (Text × Text) :=
  if r.method = text "OPTIONS" then
    match r.header? "origin", r.header? "access-control-request-method" with
    | some origin, some method => some (origin, method)
    | _, _ => none
  else none

/-- The response to a request with what a browser must be told. -/
def told (allowed : Origins) (r : Request) (response : Response) : Response :=
  let response := match r.header? "origin" with
    | some origin => withOrigin allowed origin (withCredentials response)
    | none => response
  response.withHeader "vary" (text "Origin")

end HourlyUsage.Http.CrossOrigin
