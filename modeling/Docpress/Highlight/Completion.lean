import Docpress.Failure
/-!
A result that is delivered once: the first delivery counts, and whoever waits gets its outcome.
-/

namespace Docpress.Highlight

/-- What a delivery brings: an error, or highlighted code, which may be missing. An error takes
    precedence. -/
structure Delivery where
  error : Option Failure
  html : Option Text
deriving DecidableEq, Repr

/-- The state of a completion: the first delivery, once there is one. -/
structure Completion where
  first : Option Delivery := none
deriving DecidableEq, Repr

/-- The failure of every delivery but the first. -/
def repeatedDelivery : Failure :=
  ⟨.highlight, "Highlight callback was invoked more than once.".toList⟩

/-- A result has been delivered. -/
def Completion.done (c : Completion) : Bool :=
  c.first.isSome

/-- Deliver a result. -/
def Completion.deliver (c : Completion) (d : Delivery) : Except Failure Unit × Completion :=
  match c.first with
  | some _ => (.error repeatedDelivery, c)
  | none => (.ok (), ⟨some d⟩)

/-- What a delivery means to those who wait: an error that is not about highlighting becomes one
    with the same message, and missing code is empty. -/
def Delivery.outcome (d : Delivery) : Except Failure Text :=
  match d.error with
  | some e => .error (if e.kind.isHighlight then e else ⟨.highlight, e.message⟩)
  | none => .ok (d.html.getD [])

/-- Wait for the result; none while waiting goes on. -/
def Completion.wait (c : Completion) : Option (Except Failure Text) :=
  c.first.map Delivery.outcome

/-- What a backend does that reports through a callback: it delivers results in order, in the
    caller's own thread or in another, and then it may fail. -/
structure DeferredWork where
  deliveries : List Delivery
  threaded : Bool
  failure : Option Failure
deriving DecidableEq, Repr

/-- Deliver results in order until one is refused. -/
def Completion.deliverAll (c : Completion) : List Delivery → Option Failure × Completion
  | [] => (none, c)
  | d :: rest =>
    match c.deliver d with
    | (.ok (), c) => c.deliverAll rest
    | (.error e, c) => (some e, c)

/-- The outcome of deferred work: a refused delivery in the caller's thread fails the work at
    once, in another thread it is lost. None if the work never delivers. -/
def DeferredWork.outcome (w : DeferredWork) : Option (Except Failure Text) :=
  let (refused, completion) := Completion.deliverAll {} w.deliveries
  match (if w.threaded then none else refused), w.failure with
  | some e, _ => some (.error e)
  | none, some e => some (.error e)
  | none, none => completion.wait

end Docpress.Highlight
