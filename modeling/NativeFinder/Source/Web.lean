import NativeFinder.Source.Address
import NativeFinder.Source.Failure
import NativeFinder.Value

/-!
# Web sources

The web is what answers requests: it gives each address a **reply**, which comes after some
turns. A `Fetch` is the way from an address through its redirections to what comes of it in the
end: a text, or the fault because of which there is none.
-/

namespace NativeFinder

/-! ### Replies -/

/-- What an address answers with. -/
structure Response where
  status : Nat
  content : Bytes
  contentType : Option Text
  location : Option Text
deriving DecidableEq, Inhabited

/-- What comes of a request. -/
inductive ReplyOutcome where
  | response (response : Response)
  | broken (fault : TransferFault) (message : Text)
  | unexpected (label message : Text)
  /-- The user has interrupted the program. -/
  | interrupted
deriving DecidableEq, Inhabited

/-- What comes of a request, after a number of turns of waiting. -/
structure Reply where
  outcome : ReplyOutcome
  delay : Nat
deriving DecidableEq, Inhabited

/-- What answers requests. -/
abbrev Web := Text → Reply

namespace Response

/-- The character set of a content type, where it names one. -/
def charset? (contentType : Text) : Option Text :=
  (contentType.splitOn ';').tail.findSome? fun parameter =>
    match Text.splitFirst? ['='] parameter with
    | some (key, value) =>
      if key.trim.lowerAscii = ("charset" : Text) then
        some (Text.lowerAscii ((Text.trim value).filter (· != '"')))
      else none
    | none => none

/-- The names of the character set in which every byte is a character. -/
def latin1Names : List Text :=
  ["latin-1", "latin1", "iso-8859-1", "iso8859-1", "iso_8859-1", "latin_1", "l1"]

/-- The text of a response. Where the content type names no other character set that is known,
it is UTF-8, with replacements for what is not well formed. -/
def text (r : Response) : Text :=
  match r.contentType.bind charset? with
  | some name =>
    if latin1Names.contains name then Utf8.decodeLatin1 r.content else Utf8.decodeLossy r.content
  | none => Utf8.decodeLossy r.content

/-- Whether a response holds the document. -/
def isSuccess (r : Response) : Bool := 200 ≤ r.status && r.status < 300

/-- Where a response points to instead of holding the document. -/
def redirection? (r : Response) : Option Text :=
  if [301, 302, 303, 307, 308].contains r.status then r.location else none

end Response

/-! ### One address -/

/-- A request at a turn. -/
structure Visit where
  turn : Nat
  address : Text
deriving DecidableEq, Inhabited

/-- What comes of an address in the end. -/
inductive Retrieval where
  | text (text : Text)
  | fault (fault : SourceFault)
  | interrupted
deriving DecidableEq, Inhabited

namespace Retrieval

/-- What comes of a response that is not followed. -/
def ofResponse (r : Response) : Retrieval :=
  if r.isSuccess then .text r.text else .fault (.status r.status)

/-- What comes of an outcome that is not followed. -/
def ofOutcome : ReplyOutcome → Retrieval
  | .response r => ofResponse r
  | .broken broken message => .fault (.transfer broken message)
  | .unexpected label message => .fault (.unexpected label message)
  | .interrupted => .interrupted

/-- The fault of going on for too long. -/
def tooMany : SourceFault :=
  .transfer .redirects "Exceeded maximum allowed redirects."

end Retrieval

/-- The way from an address to what comes of it: the requests in order, and the turn of the last
answer. -/
structure Fetch where
  visits : List Visit
  lastTurn : Nat
  result : Retrieval
deriving DecidableEq, Inhabited

namespace Fetch

/-- Where an outcome points to. -/
def target? : ReplyOutcome → Option Text
  | .response r => r.redirection?
  | _ => none

/-- Asks for an address at a turn, and stays with what comes of it. -/
def stay (web : Web) (turn : Nat) (address : Text) (result : Retrieval) : Fetch :=
  { visits := [⟨turn, address⟩], lastTurn := turn + (web address).delay, result }

/-- Asks for an address at a turn, and goes on from it up to `redirections` times. With `none`
redirections are not followed at all. -/
def follow (web : Web) (turn : Nat) (address : Text) : (redirections : Option Nat) → Fetch
  | none => stay web turn address (.ofOutcome (web address).outcome)
  | some 0 =>
    stay web turn address (match target? (web address).outcome with
      | some _ => .fault Retrieval.tooMany
      | none => .ofOutcome (web address).outcome)
  | some (n + 1) =>
    match target? (web address).outcome with
    | none => stay web turn address (.ofOutcome (web address).outcome)
    | some location =>
      let next := (Address.ofText address).goOn (Address.ofText location)
      let fetch := follow web (turn + (web address).delay + 1) next.toText (some n)
      { fetch with visits := ⟨turn, address⟩ :: fetch.visits }

/-- The wording for an address that is no text. -/
def wrongKindMessage (address : Value) : Text :=
  "Invalid type for url.  Expected str or httpx.URL, got <class '" ++ address.kindName ++
    "'>: " ++ address.display

/-- What comes of a configured address. Only a text can be asked for. -/
def ofSource (web : Web) (redirections : Option Nat) : Value → Fetch
  | .text address => follow web 0 address redirections
  | other =>
    { visits := [], lastTurn := 0
      result := .fault (.unexpected "TypeError" (wrongKindMessage other)) }

/-- The turns at which a fetch takes its steps: those of its requests, and that of its end. -/
def turns (fetch : Fetch) : List Nat := fetch.visits.map Visit.turn ++ [fetch.lastTurn]

end Fetch

end NativeFinder
