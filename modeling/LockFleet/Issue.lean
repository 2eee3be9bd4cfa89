import LockFleet.Json.Basic

/-!
This module contains what can be wrong with a message or with the body of a request.
-/

namespace LockFleet

inductive Issue where
  | malformed (detail : String)
  | notObject (received : Json)
  | missing (path : String) (expected : List String)
  | notString (path : String) (expected : List String) (received : Json)
  | notOneOf (path : String) (expected : List String) (received : String)
  deriving Inhabited

namespace Issue

def bodyPath : String := "body"

def path : Issue → String
  | malformed _ => bodyPath
  | notObject _ => bodyPath
  | missing path _ => path
  | notString path _ _ => path
  | notOneOf path _ _ => path

def alternatives (values : List String) : String :=
  "|".intercalate (values.map fun v => "\"" ++ v ++ "\"")

def message : Issue → String
  | malformed detail => "Malformed JSON: " ++ detail
  | notObject received => "Expected object, received " ++ received.kind
  | missing _ _ => "Required"
  | notString _ _ received => "Expected string, received " ++ received.kind
  | notOneOf _ expected _ => "Invalid option: expected one of " ++ alternatives expected

def code : Issue → String
  | malformed _ => "invalid_json"
  | notObject _ => "invalid_type"
  | missing _ _ => "invalid_type"
  | notString _ _ _ => "invalid_type"
  | notOneOf _ _ _ => "invalid_enum_value"

def expected : Issue → List String
  | malformed _ => ["object"]
  | notObject _ => ["object"]
  | missing _ expected => expected
  | notString _ expected _ => expected
  | notOneOf _ expected _ => expected

def received : Issue → Json
  | malformed _ => .null
  | notObject received => received
  | missing _ _ => .null
  | notString _ _ received => received
  | notOneOf _ _ received => .string received

def toJson (i : Issue) : Json :=
  .object [
    ("path", .string i.path),
    ("message", .string i.message),
    ("code", .string i.code),
    ("expected", .array (i.expected.map .string)),
    ("received", i.received)]

end Issue

structure ValidationError where
  issues : List Issue

namespace ValidationError

def single (i : Issue) : ValidationError :=
  ⟨[i]⟩

def text (e : ValidationError) : String :=
  e.issues.foldl (fun s i => s ++ "; " ++ i.path ++ ": " ++ i.message) "Invalid payload"

end ValidationError
end LockFleet
