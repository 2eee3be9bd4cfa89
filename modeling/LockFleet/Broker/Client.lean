import LockFleet.Settings.Basic

/-!
This module contains how the service presents itself to the broker.
-/

namespace LockFleet.Broker

structure ClientOptions where
  clientId : Option String
  address : Address
  keepAliveSeconds : UInt64
  credentials : Option (String × String)
  deriving DecidableEq, Repr

def ClientOptions.ofSettings (s : BrokerSettings) : Except UrlError ClientOptions :=
  match Address.ofUrl s.url with
  | .error e => .error e
  | .ok address =>
    .ok {
      clientId := s.clientId
      address := address
      keepAliveSeconds := s.keepAliveSeconds
      credentials := s.username.map fun user => (user, s.password.getD "") }

def madeUpName (random : String) : String :=
  "velolock-" ++ random

end LockFleet.Broker
