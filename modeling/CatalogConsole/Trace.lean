import CatalogConsole.Log
import CatalogConsole.Remote

/-! # Traces

A trace lists what the program does, in order.  Events can be seen from outside: the construction
of a client, a call, the request for an element of a listing, and text on the two streams.  Notes
are records for the log, and whether they are seen is up to the log: `Trace.shown` replaces each
note by what the log writes.  Neighbouring texts on one stream are one text to a reader: `joined`
puts them together, and `Trace.seen` is what a reader sees in the end.
-/
namespace CatalogConsole

/-- What can be seen from outside. -/
inductive Event
  /-- A client is constructed; attempts are numbered from zero. -/
  | connect (attempt : Nat)
  | call (c : Call)
  /-- The element with this number is requested from a listing. -/
  | fetch (index : Nat)
  /-- Text on the output stream. -/
  | out (text : String)
  /-- Text on the error stream. -/
  | err (text : String)
  deriving DecidableEq, Repr

/-- A step of the program. -/
inductive Activity
  | event (e : Event)
  | note (r : LogRecord)
  deriving DecidableEq, Repr

/-- What the program does, in order. -/
abbrev Trace := List Activity

/-- What is seen of a step when the log is in this state. -/
def Activity.shown (log : Log) : Activity → List Event
  | event e => [e]
  | note r => (log.written r).map .err

namespace Trace

/-- What is seen of a trace when the log is in this state. -/
def shown (log : Log) (trace : Trace) : List Event :=
  trace.flatMap (·.shown log)

/-- The events of a trace without its notes. -/
def events (trace : Trace) : List Event :=
  trace.filterMap fun
    | .event e => some e
    | .note _ => none

@[simp] theorem shown_nil (log : Log) : shown log [] = [] := rfl

@[simp] theorem shown_append (log : Log) (first second : Trace) :
    shown log (first ++ second) = shown log first ++ shown log second := by
  simp [shown]

@[simp] theorem events_nil : events [] = [] := rfl

@[simp] theorem events_append (first second : Trace) :
    events (first ++ second) = events first ++ events second := by
  simp [events]

end Trace

/-- Puts an event in front of others; text goes together with text of the same stream. -/
def Event.before : Event → List Event → List Event
  | out s, out t :: rest => out (s ++ t) :: rest
  | err s, err t :: rest => err (s ++ t) :: rest
  | e, rest => e :: rest

/-- The events with neighbouring texts of one stream put together. -/
def joined (events : List Event) : List Event :=
  events.foldr Event.before []

/-- What a reader sees of a trace when the log is in this state. -/
def Trace.seen (log : Log) (trace : Trace) : List Event :=
  joined (trace.shown log)

@[simp] theorem joined_nil : joined [] = [] := rfl

@[simp] theorem joined_cons (e : Event) (rest : List Event) :
    joined (e :: rest) = e.before (joined rest) := rfl

end CatalogConsole
