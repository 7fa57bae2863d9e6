import ServiceBindings.Text.Lower
import ServiceBindings.Web.Encodings
import ServiceBindings.Web.Escape
import ServiceBindings.Web.HostNumber

/-! # Hosts

The host in an address has a **normal form** in ASCII (`Host.normal?`).

* A name in ASCII is written in lower case, its characters that no name holds are escaped.
* A name beyond ASCII has the name that its encoding gives it.
* The number of a host stays as it is; one to the base sixteen is between brackets. -/

namespace ServiceBindings

namespace Host

/-- The normal form of a host. -/
def normal? (e : WebEncodings) (cs : List Char) : Option String :=
  if HostNumber.looksQuartered 3 cs then
    if HostNumber.isQuartered cs then some (.ofList cs) else none
  else if cs.head? = some '[' ∧ cs.getLast? = some ']' then
    if HostNumber.isHexadecimalOn cs.tail.dropLast then some (.ofList cs) else none
  else if cs.all fun c => c.toNat < 128 then
    some (escapeAll "#/:<>?@[]^" (cs.map Char.toLower))
  else (e.hostName? (Text.lower (.ofList cs)).toList).map String.ofList

end Host

end ServiceBindings
