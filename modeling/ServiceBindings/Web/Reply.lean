import ServiceBindings.Text.Blank
import ServiceBindings.Text.Capital
import ServiceBindings.Text.Replace
import ServiceBindings.Web.Encodings
import ServiceBindings.Web.Escape

/-! # Replies

A `WebReply` is what a request is answered with. `WebReply.header?` looks a header up. The **content** of
a reply is its body unless the headers say that it is compressed; `WebReply.text?` is the text that the
content writes in the character set that the headers name. -/

namespace ServiceBindings

/-- The reply to a request. -/
structure WebReply where
  /-- The status. -/
  status : Nat
  /-- The body; it is sent in UTF-8. -/
  body : String
  /-- The headers. -/
  headers : List (String × String)
  deriving DecidableEq, Repr

/-! ## Parameters of a header -/

namespace MediaType

/-- Cut a text at the semicolons outside quotation marks. A backslash in front of a quotation mark takes
its meaning away. `quoted` says whether a quotation is open, `escaped` whether a backslash comes first. -/
def cut (quoted escaped : Bool) : List Char → List (List Char)
  | [] => [[]]
  | c :: rest =>
      if c = ';' ∧ !quoted then [] :: cut false false rest
      else
        (cut (if c = '"' ∧ !escaped then !quoted else quoted) (c == '\\') rest).modifyHead (c :: ·)

/-- A text without the quotation marks or angle brackets around it. -/
def unquoted (cs : List Char) : List Char :=
  match cs.head?, cs.getLast?, decide (1 < cs.length) with
  | some '"', some '"', true =>
      let inside := Chars.replaceAll ['\\', '\\'] ['\\'] cs.tail.dropLast
      Chars.replaceAll ['\\', '"'] ['"'] inside
  | some '<', some '>', true => cs.tail.dropLast
  | _, _, _ => cs

/-- A parameter: its name in lower case and its value, which is empty if there is none. -/
def parameter (cs : List Char) : String × List Char :=
  let name := Chars.strip (cs.takeWhile (· != '='))
  (Text.asciiLower (.ofList name), Chars.strip (cs.dropWhile (· != '=')).tail)

/-- The value of an extended parameter, in which bytes can be escaped. Two apostrophes part it from what
is said about it. -/
def extendedValue (value : List Char) : List Char :=
  let cs := (unescapedBytes (unquoted value)).map fun b => Char.ofNat b.toNat
  match (cs.dropWhile (· != '\'')).tail.dropWhile (· != '\'') with
  | [] => cs
  | _ :: rest => rest

/-- The name of the character set of a media type, if it names one. -/
def charsetName? (mediaType : String) : Option String :=
  let parameters := (cut false false mediaType.toList).map parameter
  let name? := ((parameters.lookup "charset").map unquoted).or
    ((parameters.tail.lookup "charset*").map extendedValue)
  name?.bind fun name =>
    if name.all fun c => c.toNat < 128 then some (Text.asciiLower (.ofList name)) else none

end MediaType

/-! ## Headers and text -/

namespace WebReply

/-- The value of a header, whatever the case of its name; the values of a header that is there more than
once have commas between them. -/
def header? (r : WebReply) (name : String) : Option String :=
  match r.headers.filter fun (n, _) => Text.asciiLower n == name with
  | [] => none
  | found => some (Text.join ", " (found.map Prod.snd))

/-- Where a reply redirects to. -/
def redirection? (r : WebReply) : Option String :=
  if r.status ∈ [301, 302, 303, 307, 308] then r.header? "location" else none

/-- Whether a reply is a success. -/
def isSuccess (r : WebReply) : Bool := 200 ≤ r.status && r.status < 300

/-- Whether the headers can be sent: their names and values are in ASCII. -/
def isSendable (r : WebReply) : Bool :=
  r.headers.all fun (name, value) => (name ++ value).toList.all fun c => c.toNat < 128

/-- Whether the headers say that the body is compressed. -/
def isCompressed (r : WebReply) : Bool :=
  ((r.header? "content-encoding").map (Text.splitAt ',')).any fun names =>
    names.any fun name => Text.asciiLower (Text.strip name) ∈ ["gzip", "deflate"]

/-- The content, if there is one. A text of more than one byte is no compressed content. -/
def content? (r : WebReply) : Option (List UInt8) :=
  let bytes := r.body.toUTF8.toList
  if !r.isCompressed then some bytes else if bytes.length ≤ 1 then some [] else none

/-- The name of the character set of the content, if the headers name one. -/
def charsetName? (r : WebReply) : Option String := (r.header? "content-type").bind MediaType.charsetName?

/-- The text of the content. -/
def text? (e : WebEncodings) (r : WebReply) : Option String := r.content?.bind (e.decoder r.charsetName?)

end WebReply

end ServiceBindings
