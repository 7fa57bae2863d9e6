import ServiceBindings.Web.Charset
import ServiceBindings.Web.DomainName
import ServiceBindings.Web.Encodings

/-! # The encodings in use

`WebEncodings.standard` knows the names of hosts beyond ASCII as `DomainName` encodes them, and the character
sets that `Charset` lists. Nothing depends on it but a client that is to read what is in use. -/

namespace ServiceBindings

/-- The names of hosts in all scripts, and the character sets in use. -/
def WebEncodings.standard : WebEncodings where
  hostName? := DomainName.ascii?
  decoder? name := (Charset.ofName? name).map Charset.decode?

end ServiceBindings
