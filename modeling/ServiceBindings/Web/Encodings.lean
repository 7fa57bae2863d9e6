import ServiceBindings.Web.Utf8

/-! # Encodings on the web

How a host whose name is beyond ASCII is called in an address, and which texts the bytes of a reply write, is no
matter of addresses and replies themselves: a client has `WebEncodings` to ask. Those in use need the tables of
many scripts. `WebEncodings.plain` knows **no such names and no character set but UTF-8**. -/

namespace ServiceBindings

/-- What a client asks about names and texts. -/
structure WebEncodings where
  /-- The name in ASCII of a host whose name is beyond it and in lower case, if it has one. -/
  hostName? : List Char → Option (List Char)
  /-- How bytes are read in the character set with a name, if there is one. A set can need a byte order mark,
  and then no text is written without it. -/
  decoder? : String → Option (List UInt8 → Option String)

namespace WebEncodings

/-- No names beyond ASCII, and no character sets by name. -/
def plain : WebEncodings := ⟨fun _ => none, fun _ => none⟩

/-- How bytes are read that say what their character set is, if they do: in UTF-8 if there is no such set. -/
def decoder (e : WebEncodings) (name : Option String) : List UInt8 → Option String :=
  (name.bind e.decoder?).getD fun bytes => some (Utf8.decode bytes)

end WebEncodings

end ServiceBindings
