import LockFleet.Api.Document
import LockFleet.Json.Printer

/-!
This module contains the program that prints the document of the web interface, for those who make
clients from it.
-/

def main : IO Unit :=
  IO.println (String.ofList LockFleet.Api.Document.document.print)
