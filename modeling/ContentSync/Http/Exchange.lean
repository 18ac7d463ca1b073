import ContentSync.OrderedMap
import ContentSync.Time.Duration
import ContentSync.Text.Blank
import ContentSync.Text.Pieces

/-!
# Requests and what becomes of them

The other end of the network is any function from what was tried before and the request at hand to
an outcome.  A script of replies, a server that keeps state, and a server that loses replies are all
instances; so is an endpoint that cannot be reached.

* `Request`, `Reply`, `Outcome`, `Attempt` — one try and what became of it.
* `Network` — the other end, together with the numbers drawn for random delays.
-/

namespace ContentSync.Http

/-- A POST request. -/
structure Request where
  endpoint : String
  headers : Entries String
  body : String

/-- A complete reply. -/
structure Reply where
  status : Nat
  /-- The text of the header `Retry-After`. -/
  retryAfter : Option String
  body : ByteArray

/-- Why there is no reply. -/
inductive Failure where
  /-- The time for one attempt ran out. -/
  | timeout
  /-- No connection came about. -/
  | connect
  /-- Anything else: the connection broke, the body was cut short, the address is unusable. -/
  | other
  deriving DecidableEq

/-- What becomes of a request. -/
inductive Outcome where
  | replied (reply : Reply)
  /-- The request arrived, but no complete reply came back. -/
  | lost (failure : Failure)
  /-- The request never arrived. -/
  | unsent (failure : Failure)

/-- A request and what became of it. -/
structure Attempt where
  request : Request
  outcome : Outcome

/-- Whether the request of an attempt arrived. -/
def Attempt.arrived (a : Attempt) : Bool :=
  match a.outcome with
  | .unsent _ => false
  | _ => true

/-- **The other end of the network.**  Both functions see all earlier attempts, first one first. -/
structure Network where
  answer : List Attempt → Request → Outcome
  /-- The number drawn for the delay that follows these attempts. -/
  draw : List Attempt → Nat

/-- A number of seconds as a header gives it, blanks around it. -/
def secondsOfHeader (text : String) : Option Duration :=
  (Text.nat64? (Text.trimList text.toList)).map Duration.seconds

/-- The delay that a reply asks for.  A header with characters beyond visible ASCII is ignored, and
so is one that gives a date. -/
def Reply.pause (r : Reply) : Option Duration :=
  match r.retryAfter with
  | none => none
  | some text =>
      if text.toList.all fun c => c = '\t' || (0x20 ≤ c.toNat && c.toNat < 0x7F) then
        secondsOfHeader text
      else none

/-- Whether a text may be the value of a header: no control character but the tab. -/
def isHeaderValue (text : String) : Bool :=
  text.toList.all fun c => c = '\t' || (0x20 ≤ c.toNat && c.toNat != 0x7F)

end ContentSync.Http
