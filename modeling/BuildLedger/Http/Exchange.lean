import BuildLedger.Disk
import BuildLedger.Http.Status
import BuildLedger.Text.Blank
import BuildLedger.Text.Utf8
import BuildLedger.Url.Basic

/-!
# Requests, answers and repeated attempts

A transport takes a request and comes back with an answer, or without one. When no connection came
about, the request is built anew and tried again, as often as the limit allows and after a pause
that grows by the same amount each time. Every other end is final.
-/
namespace BuildLedger.Http

inductive Method where
  | put
  | post
deriving Repr, DecidableEq

def Method.name : Method → String
  | .put => "PUT"
  | .post => "POST"

structure Request where
  method : Method
  /-- The address without user and password. -/
  url : Url
  /-- The proxy that the request goes to. -/
  proxy : Option Url := none
  headers : List (String × String)
  body : ByteArray

/-- A server is asked for path and query, a proxy for the whole address. -/
def Request.target (request : Request) : String :=
  match request.proxy with
  | some _ => request.url.withoutFragment
  | none => request.url.target

structure Response where
  status : Nat
  body : ByteArray

/-- What a transport comes back with. -/
inductive Reply where
  | response (response : Response)
  /-- No connection came about, or no answer in time. -/
  | unreachable
  /-- The connection ended without an answer. -/
  | cut

/-- Why a request has no good answer. -/
inductive Fault where
  | unreadable (cause : DiskError)
  /-- A header would hold a control character. -/
  | unsendableHeader
  /-- The address has a scheme that is not spoken here. -/
  | foreignScheme (url : Url)
  | unanswered (url : Url)
  | refused (status : Nat) (body : String)
deriving Repr, DecidableEq

namespace Fault

def message : Fault → String
  | .unreadable cause => cause.message
  | .unsendableHeader => "builder error"
  | .foreignScheme url => "builder error for url (" ++ url.text ++ ")"
  | .unanswered url => "error sending request for url (" ++ url.text ++ ")"
  | .refused status body => "HTTP " ++ statusText status ++ ": " ++ Text.trim body

end Fault

/-- A way to exchange requests for answers; what it does to the line is its own matter. -/
structure Transport (Line : Type) where
  /-- Send one request to its end. Redirects that are followed are part of it, and the reply is the
  one to the last of them. -/
  exchange : Request → Line → Reply × Line
  /-- Wait so many milliseconds. -/
  pause : Nat → Line → Line

/-- How one attempt ends. -/
inductive Attempt where
  | answered (response : Response)
  | unreachable (fault : Fault)
  | failed (fault : Fault)

/-- The pause before the first repetition, in milliseconds; later ones are its multiples. -/
def pauseStep : Nat := 200

namespace Transport

variable {Line : Type}

def speaks (url : Url) : Bool := url.scheme == "http" || url.scheme == "https"

/-- Send a request once. -/
def attempt (transport : Transport Line) (request : Except Fault Request) (line : Line) :
    Attempt × Line :=
  match request with
  | .error fault => (.failed fault, line)
  | .ok request =>
      if speaks request.url then
        match transport.exchange request line with
        | (.response response, later) => (.answered response, later)
        | (.unreachable, later) => (.unreachable (.unanswered request.url), later)
        | (.cut, later) => (.failed (.unanswered request.url), later)
      else (.failed (.foreignScheme request.url), line)

/-- Attempts until one is final or none is left; `used` counts the repetitions so far, and the
request of each attempt is built for it. -/
def repeatSend (transport : Transport Line) (build : Nat → Except Fault Request) :
    (left used : Nat) → Line → Except Fault Response × Line
  | left, used, line =>
      match transport.attempt (build used) line, left with
      | (.answered response, later), _ => (.ok response, later)
      | (.failed fault, later), _ => (.error fault, later)
      | (.unreachable fault, later), 0 => (.error fault, later)
      | (.unreachable _, later), left + 1 =>
          transport.repeatSend build left (used + 1)
            (transport.pause (pauseStep * (used + 1)) later)

/-- Send with a limited number of repetitions. -/
def send (transport : Transport Line) (build : Nat → Except Fault Request) (limit : Nat)
    (line : Line) : Except Fault Response × Line :=
  transport.repeatSend build limit 0 line

/-- Send, and take only a success for an answer. -/
def deliver (transport : Transport Line) (build : Nat → Except Fault Request) (limit : Nat)
    (line : Line) : Except Fault Unit × Line :=
  match transport.send build limit line with
  | (.error fault, later) => (.error fault, later)
  | (.ok response, later) =>
      if isSuccess response.status then (.ok (), later)
      else (.error (.refused response.status (Text.ofBytes response.body.data.toList)), later)

end Transport

end BuildLedger.Http
