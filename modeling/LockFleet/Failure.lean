import LockFleet.Issue
import LockFleet.Refusal

/-!
This module contains the failures of the service: everything that can keep it from doing what it is
asked to, with the code and the status under which a failure is reported.
-/

namespace LockFleet

inductive PublishError where
  | disconnected (detail : String)
  | client (detail : String)
  deriving DecidableEq, Repr

def PublishError.text : PublishError → String
  | disconnected detail => "Broker unavailable: " ++ detail
  | client detail => "Broker client error: " ++ detail

inductive Failure where
  | refused (r : Refusal)
  | invalid (e : ValidationError)
  | invalidDevice (raw : String)
  | unpublished (e : PublishError)
  | settingsNotFound (path : String)
  | settingsUnreadable (detail : String)
  | settingsInvalid (detail : String)
  | inputOutput (detail : String)

namespace Failure

def text : Failure → String
  | refused r => r.message
  | invalid e => e.text
  | invalidDevice raw => "Invalid device identifier: '" ++ raw ++ "'"
  | unpublished e => e.text
  | settingsNotFound path => "Configuration file not found at: " ++ path
  | settingsUnreadable detail => "Failed to parse configuration: " ++ detail
  | settingsInvalid detail => "Configuration validation failed: " ++ detail
  | inputOutput detail => "I/O error: " ++ detail

def code : Failure → String
  | refused r => r.code
  | invalid _ => "VALIDATION_ERROR"
  | invalidDevice _ => "INVALID_DEVICE_IDENTIFIER"
  | unpublished _ => "BROKER_UNAVAILABLE"
  | settingsNotFound _ => "CONFIG_NOT_FOUND"
  | settingsUnreadable _ => "CONFIG_PARSE_ERROR"
  | settingsInvalid _ => "CONFIG_VALIDATION_ERROR"
  | inputOutput _ => "IO_ERROR"

def status : Failure → Nat
  | refused r => r.status
  | invalid _ => 400
  | invalidDevice _ => 400
  | unpublished _ => 503
  | settingsNotFound _ => 404
  | settingsUnreadable _ => 422
  | settingsInvalid _ => 422
  | inputOutput _ => 500

def isRefusal : Failure → Bool
  | refused _ => true
  | _ => false

def isBadRequest : Failure → Bool
  | invalid _ | invalidDevice _ => true
  | _ => false

def isSettings : Failure → Bool
  | settingsNotFound _ | settingsUnreadable _ | settingsInvalid _ => true
  | _ => false

def isTransient : Failure → Bool
  | unpublished _ => true
  | _ => false

end Failure
end LockFleet
