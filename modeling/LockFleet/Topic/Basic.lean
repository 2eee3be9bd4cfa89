import LockFleet.Device

/-!
This module contains the topics through which the server and the locks talk. The topics of one kind
lie below a root, and the topic of a device is the root followed by the device's address.
-/

namespace LockFleet.Topic

/--
The topic of a device below `base`. If the address is missing or has no hexadecimal digit, it is
`base` itself, which addresses every device. One slash at the end of `base` is dropped.
-/
def ofAddress (base : String) (address : Option String) : String :=
  match address.bind normalAddress? with
  | none => base
  | some digits =>
    let chars := base.toList
    let stem := if chars.getLast? = some '/' then chars.dropLast else chars
    String.ofList (stem ++ '/' :: digits.toList)

def isWithin (topic base : String) : Bool :=
  topic.toList == base.toList || (base.toList ++ ['/']).isPrefixOf topic.toList

inductive CommandRoot where
  | plain
  | state
  | booking
  | maintenance
  | reservation
  | status
  deriving DecidableEq, Repr

def CommandRoot.base : CommandRoot → String
  | plain => "esp/commands"
  | state => "esp/commands/state"
  | booking => "esp/commands/booking"
  | maintenance => "esp/commands/maintenance"
  | reservation => "esp/commands/reservation"
  | status => "esp/commands/status"

def CommandRoot.topic (root : CommandRoot) (address : Option String) : String :=
  ofAddress root.base address

inductive StatusRoot where
  | status
  | logs
  | bookingStatus
  | maintenanceStatus
  deriving DecidableEq, Repr

namespace StatusRoot

def all : List StatusRoot :=
  [status, logs, bookingStatus, maintenanceStatus]

def base : StatusRoot → String
  | status => "esp/status"
  | logs => "esp/logs"
  | bookingStatus => "esp/booking/status"
  | maintenanceStatus => "esp/maintenance/status"

def topic (root : StatusRoot) (address : Option String) : String :=
  ofAddress root.base address

def segment? (root : StatusRoot) (topic : String) : Option String :=
  let rest := topic.toList.drop root.base.toList.length
  let segment := (rest.dropWhile (· == '/')).takeWhile (· != '/')
  if segment = [] then none else some (String.ofList segment)

def classify? (topic : String) : Option (StatusRoot × Option String) :=
  all.findSome? fun root =>
    if isWithin topic root.base then some (root, root.segment? topic) else none

def filters : List String :=
  all.flatMap fun root => [root.base, root.base ++ "/#"]

end StatusRoot
end LockFleet.Topic
