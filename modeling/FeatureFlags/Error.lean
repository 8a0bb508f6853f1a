import FeatureFlags.Text.Digits
import FeatureFlags.Url.Failure

/-!
# Errors of live updates

Evaluation never fails; fetching, decoding, streaming and storing definitions may.  An error is
fatal if trying the same thing again cannot succeed.
-/

namespace FeatureFlags

inductive Error
  /-- A payload is not of the expected form. -/
  | decode
  /-- The decryptor failed. -/
  | decryption (detail : String)
  /-- A payload is encrypted but there is no decryptor. -/
  | missingDecryptor
  | invalidHostUrl (failure : Url.Failure)
  | unauthorized
  /-- A status that is neither a success nor "not modified". -/
  | unexpectedStatus (status : Nat)
  | transport (detail : String)
  /-- The server closed an event stream. -/
  | streamClosed
  /-- The stream failed too often in a row. -/
  | retriesExhausted (attempts : Nat)
  | persistence (detail : String)
deriving DecidableEq, Repr

namespace Error

/-- A number in an error text. -/
def number (n : Nat) : String := String.ofList (Text.Digits.write n)

def message : Error → String
  | decode => "failed to decode features payload"
  | decryption detail => "failed to decrypt features payload: " ++ detail
  | missingDecryptor => "payload is encrypted but no decryptor is configured"
  | invalidHostUrl _ => "invalid host_url configuration"
  | unauthorized => "unauthorized, api_key is likely invalid"
  | unexpectedStatus status => "unexpected response status: " ++ number status
  | transport detail => "transport error: " ++ detail
  | streamClosed => "event stream closed"
  | retriesExhausted attempts =>
    "stream reconnection retries exhausted after " ++ number attempts ++ " attempts"
  | persistence detail => "persistence error: " ++ detail

def isFatal : Error → Bool
  | unauthorized => true
  | invalidHostUrl _ => true
  | missingDecryptor => true
  | _ => false

end Error

end FeatureFlags
