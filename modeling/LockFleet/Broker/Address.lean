import LockFleet.Text.Decimal
import LockFleet.Text.DecimalDigit

/-!
This module contains the address of a broker and the URLs that name it.
-/

namespace LockFleet.Broker

structure Address where
  host : String
  port : UInt16
  tls : Bool
  deriving DecidableEq, Repr

inductive UrlError where
  | invalidPort (url : String)
  | missingHost (url : String)
  deriving DecidableEq, Repr

def UrlError.text : UrlError → String
  | invalidPort url => "Invalid broker URL: invalid port in '" ++ url ++ "'"
  | missingHost url => "Invalid broker URL: missing host in '" ++ url ++ "'"

inductive Scheme where
  | mqtt
  | mqtts
  | tcp
  | ssl
  deriving DecidableEq, Repr

namespace Scheme

def all : List Scheme :=
  [mqtt, mqtts, tcp, ssl]

def text : Scheme → String
  | mqtt => "mqtt://"
  | mqtts => "mqtts://"
  | tcp => "tcp://"
  | ssl => "ssl://"

def tls : Scheme → Bool
  | mqtt => false
  | mqtts => true
  | tcp => false
  | ssl => true

def rest? (s : Scheme) (url : List Char) : Option (List Char) :=
  s.text.toList.isPrefixOf? url

end Scheme

def defaultPort (tls : Bool) : UInt16 :=
  if tls then 8883 else 1883

def splitScheme (url : List Char) : Bool × List Char :=
  let found := Scheme.all.findSome? fun s => (s.rest? url).map fun rest => (s.tls, rest)
  found.getD (false, url)

def splitLastColon (text : List Char) : Option (List Char × List Char) :=
  let after := (text.reverse.takeWhile (· != ':')).reverse
  if after.length < text.length then
    some (text.take (text.length - after.length - 1), after)
  else none

def port? (text : List Char) : Option UInt16 :=
  (Text.number? 65535 text).map UInt16.ofNat

def dropSlashes (text : List Char) : List Char :=
  (text.reverse.dropWhile (· == '/')).reverse

def Address.ofUrl (url : String) : Except UrlError Address :=
  let (tls, rest) := splitScheme url.toList
  let place := dropSlashes rest
  let found : Option (List Char × UInt16) :=
    match splitLastColon place with
    | some (host, digits) => (port? digits).map fun port => (host, port)
    | none => some (place, defaultPort tls)
  match found with
  | none => .error (.invalidPort url)
  | some (host, port) =>
    if host = [] then .error (.missingHost url)
    else .ok ⟨String.ofList host, port, tls⟩

def Address.url (scheme : Scheme) (a : Address) : String :=
  scheme.text ++ a.host ++ ":" ++ String.ofList (Text.numeral a.port.toNat)

def isHostChar (c : Char) : Bool :=
  c.isAlphanum || c == '.' || c == '-'

def isPortPart (text : List Char) : Bool :=
  match text with
  | [] => true
  | ':' :: digits => 1 ≤ digits.length && digits.length ≤ 5 && digits.all Text.isDecimalDigit
  | _ => false

def dropSlash (text : List Char) : List Char :=
  if text.getLast? = some '/' then text.dropLast else text

def isValidUrl (url : String) : Bool :=
  Scheme.all.any fun scheme =>
    match scheme.rest? url.toList with
    | none => false
    | some rest =>
      let host := rest.takeWhile isHostChar
      !host.isEmpty && isPortPart (dropSlash (rest.drop host.length))

end LockFleet.Broker
