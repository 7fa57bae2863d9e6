import ServiceBindings.Web.Reference
import ServiceBindings.Web.Reply

/-! # Documents on the web

A `WebClient` fetches the text at an address. It may follow redirections, so that the requests it made are part
of the result.

A `Web` answers requests: each address has a reply, or a connection that fails. `Web.client` is a client that
asks such a web: it follows redirections if asked to, at most `redirectLimit` of them. Its encodings say what
names and texts beyond ASCII stand for. -/

namespace ServiceBindings

/-- A request and the status of its reply, if there was one. -/
structure Exchange where
  /-- The address. -/
  url : String
  /-- The status of the reply. -/
  status : Option Nat
  deriving DecidableEq, Repr

/-- The answers to requests. -/
structure Web where
  /-- The replies by address; a text instead of a reply says why the connection fails. -/
  answers : List (String × Except String WebReply)

/-- Why a document cannot be fetched. -/
inductive WebFault where
  /-- There is no connection. -/
  | noConnection (reason : String)
  /-- The content of a reply is not compressed in the way that its headers say. -/
  | notCompressed
  /-- The last reply is no success. -/
  | status (code : Nat)
  /-- There are too many redirections. -/
  | tooManyRedirections
  /-- A redirection is no address and no reference to one. -/
  | unreadableRedirection (location : String)
  /-- There is no such address. -/
  | nowhere (location : String)
  /-- A reply has a header that cannot be sent. -/
  | unsendable
  /-- The text of the last reply has no byte order mark, and needs one. -/
  | unordered
  /-- Anything else that a client does not expect. -/
  | unexpected (reason : String)
  deriving DecidableEq, Repr

namespace WebFault

/-- The wording of a fault. -/
def message : WebFault → String
  | noConnection reason => reason
  | notCompressed => "incorrect header check"
  | status code => "status " ++ toString code
  | tooManyRedirections => "Exceeded maximum allowed redirects."
  | unreadableRedirection location => "Invalid URL in location header: " ++ location
  | nowhere location => "there is no such address: " ++ location
  | unsendable => "a header is not in ASCII"
  | unordered => "there is no byte order mark"
  | unexpected reason => reason

/-- Whether a fault arises from the web and not from the program. -/
def isReported : WebFault → Bool
  | nowhere _ | unsendable | unordered | unexpected _ => false
  | _ => true

end WebFault

/-- What fetches the text at a location, following redirections if asked to: the requests that it made, and the
text of the last reply. -/
abbrev WebClient := Bool → String → List Exchange × Except WebFault String

namespace Web

/-- How many redirections are followed. -/
def redirectLimit : Nat := 20

/-- The answer to a request. -/
def answer (web : Web) (u : Url) : Except WebFault WebReply :=
  match web.answers.lookup u.text with
  | none => .error (.noConnection "All connection attempts failed")
  | some (.error reason) => .error (.noConnection reason)
  | some (.ok reply) =>
      if !reply.isSendable then .error .unsendable
      else if reply.content?.isNone then .error .notCompressed
      else .ok reply

/-- What a request ends with if its reply is the last one. -/
def result (e : WebEncodings) (reply : WebReply) : Except WebFault String :=
  if !reply.isSuccess then .error (.status reply.status)
  else
    match reply.text? e with
    | some text => .ok text
    | none => .error .unordered

/-- Where a reply leads to, if it is a redirection. -/
def next? (e : WebEncodings) (u : Url) (reply : WebReply) : Except WebFault (Option Url) :=
  match reply.redirection? with
  | none => .ok none
  | some location =>
      match Url.ofText? e location with
      | none => .error (.unreadableRedirection location)
      | some reference =>
          match u.redirected? e reference with
          | none => .error (.nowhere location)
          | some next => .ok (some next)

/-- Request an address and follow at most `limit` redirections. -/
def fetchFrom (e : WebEncodings) (web : Web) (follow : Bool) :
    Nat → Url → List Exchange × Except WebFault String
  | limit, u =>
      match web.answer u with
      | .error fault => ([⟨u.text, none⟩], .error fault)
      | .ok reply =>
          let exchange : Exchange := ⟨u.text, some reply.status⟩
          match next? e u reply with
          | .error fault => ([exchange], .error fault)
          | .ok none => ([exchange], result e reply)
          | .ok (some next) =>
              if !follow then ([exchange], result e reply)
              else
                match limit with
                | 0 => ([exchange], .error .tooManyRedirections)
                | limit + 1 =>
                    let (exchanges, final) := fetchFrom e web follow limit next
                    (exchange :: exchanges, final)

/-- The client that asks a web. -/
def client (e : WebEncodings) (web : Web) : WebClient := fun follow location =>
  match Url.ofRequest? e location with
  | none => ([], .error (.nowhere location))
  | some u => web.fetchFrom e follow redirectLimit u

end Web

end ServiceBindings
