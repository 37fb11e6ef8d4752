import ScalpBot.Json.Decode

/-!
# Failures of an exchange

A call on the exchange can fail in many ways, and only one distinction matters to the bot: after a
transient failure it tries again in the next trade cycle, after every other failure it stops.
-/

namespace ScalpBot

/-- Why a call on the exchange gave no answer. -/
inductive Failure where
  /-- The connection failed, or the exchange answered with a status that counts as such. -/
  | network (detail : String)
  /-- No answer came in time. -/
  | timeout (detail : String)
  /-- Too many calls were made. -/
  | rateLimit (detail : String) (retryAfterSeconds : Option Nat)
  /-- The exchange answered with a status other than success. -/
  | httpStatus (status : Nat) (body : String)
  /-- The exchange rejected the call. -/
  | api (reason : String)
  /-- The answer makes no sense. -/
  | invalidResponse (detail : String)
  /-- The answer could not be read. -/
  | jsonParse (cause : JsonError)
  /-- The call cannot be signed. -/
  | authentication (detail : String)
  /-- The client cannot be set up. -/
  | configuration (detail : String)
  /-- Anything else. -/
  | internal (detail : String)
deriving DecidableEq, Repr

/-- Whether trying again may help. -/
inductive FailureClass where
  | transient
  | nonRecoverable
deriving DecidableEq, Repr

namespace Failure

/-- The class of a failure. -/
def failureClass : Failure → FailureClass
  | network _ | timeout _ | rateLimit _ _ => .transient
  | httpStatus _ _ | api _ | invalidResponse _ | jsonParse _ | authentication _ | configuration _
  | internal _ => .nonRecoverable

/-- How long to wait, as diagnostics show it. -/
def retryText : Option Nat → String
  | some seconds => "Some(" ++ toString seconds ++ ")"
  | none => "None"

/-- The wording of a failure. -/
def message : Failure → String
  | network detail => "Network error: " ++ detail
  | timeout detail => "Operation timed out: " ++ detail
  | rateLimit detail retry =>
    "Rate limit exceeded: " ++ detail ++ ", retry after " ++ retryText retry ++ " seconds"
  | httpStatus status body => "HTTP status " ++ toString status ++ ": " ++ body
  | api reason => "Exchange API error: " ++ reason
  | invalidResponse detail => "Invalid API response: " ++ detail
  | jsonParse cause => "JSON parsing error: " ++ cause.message
  | authentication detail => "Authentication error: " ++ detail
  | configuration detail => "Configuration error: " ++ detail
  | internal detail => "Internal error: " ++ detail

end Failure

end ScalpBot
