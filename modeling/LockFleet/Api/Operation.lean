import LockFleet.Command

/-!
This module contains the operations that the web interface declares, with the answers that each one
may give.
-/

namespace LockFleet.Api

inductive Operation where
  | checkHealth
  | listDevices
  | getDevice
  | sendCommand (w : Workflow)
  deriving DecidableEq, Repr

structure DeclaredAnswer where
  status : Nat
  description : String
  schema : String
  deriving DecidableEq, Repr

namespace Operation

def all : List Operation :=
  [checkHealth, listDevices, getDevice] ++ Workflow.all.map sendCommand

def method : Operation → String
  | sendCommand _ => "post"
  | _ => "get"

def path : Operation → String
  | checkHealth => "/v1/health"
  | listDevices => "/v1/devices"
  | getDevice => "/v1/devices/\x7bdeviceId\x7d"
  | sendCommand w => "/v1/devices/\x7bdeviceId\x7d/commands/" ++ w.name

def tag : Operation → String
  | checkHealth => "system"
  | listDevices => "devices"
  | getDevice => "devices"
  | sendCommand _ => "commands"

def identifier : Operation → String
  | checkHealth => "healthCheck"
  | listDevices => "listDevices"
  | getDevice => "getDevice"
  | sendCommand .state => "sendStateCommand"
  | sendCommand .booking => "sendBookingCommand"
  | sendCommand .maintenance => "sendMaintenanceCommand"
  | sendCommand .reservation => "sendReservationCommand"
  | sendCommand .status => "sendStatusCommand"

def summary : Operation → String
  | checkHealth => "Check service health"
  | listDevices => "List known devices"
  | getDevice => "Get device status"
  | sendCommand .state => "Set device state"
  | sendCommand .booking => "Book or release a bike"
  | sendCommand .maintenance => "Start or complete maintenance"
  | sendCommand .reservation => "Reserve a bike or cancel a reservation"
  | sendCommand .status => "Request a status report"

def description : Operation → String
  | checkHealth =>
    "Returns service status, uptime and the number of devices seen on " ++
    "the broker since startup."
  | listDevices =>
    "Returns the last reported status of every device that has published " ++
    "on a status topic since the server started, sorted by device id."
  | getDevice =>
    "Returns the last status the device reported. The id is normalized " ++
    "before lookup, so `aa:bb:cc:dd:ee:ff` and `AABBCCDDEEFF` name the same device."
  | sendCommand .state =>
    "Administrative override of the lifecycle state. Only `available`, " ++
    "`booked`, `maintained`, and `unavailable` may be requested. A device that has " ++
    "never reported is accepted without a transition check."
  | sendCommand .booking =>
    "`book` moves the device to `booked`, `release` to `available`. " ++
    "Booking a broken bike fails with `MAINTENANCE_REQUIRED`."
  | sendCommand .maintenance =>
    "`start` moves the device to `maintained`, `complete` to `available`."
  | sendCommand .reservation =>
    "`reserve` moves the device to `reserved`, `cancel` to `available`. " ++
    "Cancelling when the device is not reserved fails with `RESERVATION_NOT_FOUND`."
  | sendCommand .status =>
    "Publishes `request` on the device's status command topic. The body is " ++
    "optional and the registry is never consulted, so unknown devices are accepted."

def namesDevice : Operation → Bool
  | getDevice => true
  | sendCommand _ => true
  | _ => false

def published : DeclaredAnswer :=
  ⟨202, "Command published", "CommandAcceptedResponse"⟩

def problem (status : Nat) (description : String) : DeclaredAnswer :=
  ⟨status, description, "ErrorResponse"⟩

def badCommand : DeclaredAnswer :=
  problem 400 "Invalid payload or device id"

def brokerUnavailable : DeclaredAnswer :=
  problem 503 "Broker unavailable"

def answers : Operation → List DeclaredAnswer
  | checkHealth => [⟨200, "Service is healthy", "HealthResponse"⟩]
  | listDevices => [⟨200, "Known devices", "DeviceListResponse"⟩]
  | getDevice =>
    [ ⟨200, "Device status", "DeviceStatusResponse"⟩,
      problem 400 "Device id contains no hex digits",
      problem 404 "Device has never reported" ]
  | sendCommand .status => [published, badCommand, brokerUnavailable]
  | sendCommand w =>
    [ published, badCommand,
      problem 404
        (if w = .reservation then "Device or reservation not found" else "Device not found"),
      problem 409 "Transition not allowed",
      brokerUnavailable ]

end Operation

def verbSchema : Workflow → String
  | .state => "StateCommand"
  | .booking => "BookingCommand"
  | .maintenance => "MaintenanceCommand"
  | .reservation => "ReservationCommand"
  | .status => "StatusCommand"

def requestSchema (w : Workflow) : String :=
  verbSchema w ++ "Request"

end LockFleet.Api
