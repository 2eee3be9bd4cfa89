import LockFleet.Failure

/-!
This module contains the problems that the web interface reports.
-/

namespace LockFleet.Api

inductive ProblemKind where
  | badRequest
  | notFound
  | conflict
  | internal
  | unavailable
  deriving DecidableEq, Repr

namespace ProblemKind

def status : ProblemKind → Nat
  | badRequest => 400
  | notFound => 404
  | conflict => 409
  | internal => 500
  | unavailable => 503

def title : ProblemKind → String
  | badRequest => "Bad Request"
  | notFound => "Not Found"
  | conflict => "Conflict"
  | internal => "Internal Error"
  | unavailable => "Service Unavailable"

def ofStatus (status : Nat) : ProblemKind :=
  match status with
  | 400 => badRequest
  | 404 => notFound
  | 409 => conflict
  | 503 => unavailable
  | _ => internal

end ProblemKind

structure ErrorBody where
  error : String
  message : String
  details : Option Json

def ErrorBody.toJson (b : ErrorBody) : Json :=
  .object [
    ("error", .string b.error),
    ("message", .string b.message),
    ("details", b.details.getD .null)]

structure Problem where
  kind : ProblemKind
  body : ErrorBody

namespace Problem

def text (p : Problem) : String :=
  p.kind.title ++ ": " ++ p.body.message

def messageOf : Failure → String
  | .invalid _ => "Request validation failed"
  | f => f.text

def detailsOf : Failure → Option Json
  | .refused r => some r.details
  | .invalid e => some (.object [("issues", .array (e.issues.map Issue.toJson))])
  | .invalidDevice raw => some (.object [("deviceId", .string raw)])
  | _ => none

def ofFailure (f : Failure) : Problem where
  kind := .ofStatus f.status
  body := ⟨f.code, messageOf f, detailsOf f⟩

end Problem
end LockFleet.Api
