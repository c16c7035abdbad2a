import ClassWeaver.Identity.Metadata
import ClassWeaver.Json.Parser
import ClassWeaver.Json.Printer
import ClassWeaver.Web.Address

/-!
# Libraries of the program

The program reads and prints documents, and reads web addresses, in the usual way. What it does with them is the same in any
other way.
-/

namespace ClassWeaver

instance standardDocuments : DocumentSyntax where
  parse? := Json.parse?
  print := Json.pretty ""

instance standardAddresses : Identity.AddressSyntax where
  scheme text := (Web.schemeOf text).mapError Web.AddressFault.message

end ClassWeaver
