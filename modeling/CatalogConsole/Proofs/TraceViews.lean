import CatalogConsole.Trace

/-! # Views of a trace

Statements about what the program does speak of some of its events at a time: the constructions of
a client, the calls, the elements that are fetched, the text on one of the two streams.  A view
reads these off a trace, in order, and every view of two traces in a row is the views of both in a
row.

The text of a stream survives the joining of neighbouring texts (`textOn_joined`), so what a reader
sees on it comes from the trace alone: for a trace that leaves the error stream to the log,
`complaints_shown` says that it is what the log writes for the records of the trace.
-/
namespace CatalogConsole

namespace Event

/-- The number of the construction of a client. -/
def attempt? : Event → Option Nat
  | connect n => some n
  | _ => none

/-- The call that is made. -/
def call? : Event → Option Call
  | call c => some c
  | _ => none

/-- The number of the element that is requested. -/
def index? : Event → Option Nat
  | fetch n => some n
  | _ => none

end Event

namespace Trace

@[simp] theorem events_event (e : Event) (rest : Trace) :
    events (.event e :: rest) = e :: events rest := rfl

@[simp] theorem events_note (r : LogRecord) (rest : Trace) :
    events (.note r :: rest) = events rest := rfl

theorem mem_events {e : Event} {trace : Trace} : e ∈ trace.events ↔ Activity.event e ∈ trace := by
  induction trace with
  | nil => simp
  | cons activity rest ih => cases activity <;> simp [ih]

section View
variable {α : Type} (select : Event → Option α)

/-- What is selected from the events of a trace, in order. -/
def view (trace : Trace) : List α := trace.events.filterMap select

@[simp] theorem view_nil : view select [] = [] := rfl

@[simp] theorem view_append (first second : Trace) :
    view select (first ++ second) = view select first ++ view select second := by
  simp [view]

@[simp] theorem view_event (e : Event) (rest : Trace) :
    view select (.event e :: rest) = (select e).toList ++ view select rest := by
  cases h : select e <;> simp [view, events, h]

@[simp] theorem view_note (r : LogRecord) (rest : Trace) :
    view select (.note r :: rest) = view select rest := rfl

end View

/-- The numbers of the constructions. -/
abbrev connects : Trace → List Nat := view Event.attempt?

/-- The calls. -/
abbrev calls : Trace → List Call := view Event.call?

/-- The numbers of the elements that are requested. -/
abbrev fetches : Trace → List Nat := view Event.index?

/-- The records that go to the log. -/
def records (trace : Trace) : List LogRecord :=
  trace.filterMap fun
    | .event _ => none
    | .note r => some r

@[simp] theorem records_nil : records [] = [] := rfl

@[simp] theorem records_append (first second : Trace) :
    records (first ++ second) = records first ++ records second := by
  simp [records]

@[simp] theorem records_event (e : Event) (rest : Trace) :
    records (.event e :: rest) = records rest := rfl

@[simp] theorem records_note (r : LogRecord) (rest : Trace) :
    records (.note r :: rest) = r :: records rest := rfl

end Trace

/-! ## The text of a stream -/

/-- The two streams that text goes to. -/
inductive Stream
  | output
  | error
  deriving DecidableEq, Repr

/-- The text that an event puts on a stream. -/
def Event.textFor : Stream → Event → Option String
  | .output, out text => some text
  | .error, err text => some text
  | _, _ => none

/-- All text that some events put on a stream. -/
def textOn (stream : Stream) (events : List Event) : String :=
  String.join (events.filterMap (·.textFor stream))

section Text
variable (stream : Stream)

@[simp] theorem textOn_nil : textOn stream [] = "" := rfl

@[simp] theorem textOn_cons (e : Event) (rest : List Event) :
    textOn stream (e :: rest) = (e.textFor stream).getD "" ++ textOn stream rest := by
  cases h : e.textFor stream <;> simp [textOn, h]

@[simp] theorem textOn_append (first second : List Event) :
    textOn stream (first ++ second) = textOn stream first ++ textOn stream second := by
  simp [textOn]

/-- An event that is put in front of others adds its text in front of theirs, whether or not the two
become one event. -/
theorem textOn_before (e : Event) (rest : List Event) :
    textOn stream (e.before rest) = (e.textFor stream).getD "" ++ textOn stream rest := by
  unfold Event.before
  split
  · cases stream <;> simp [Event.textFor, String.append_assoc]
  · cases stream <;> simp [Event.textFor, String.append_assoc]
  · rw [textOn_cons]

/-- To join neighbouring texts does not change the text of a stream. -/
theorem textOn_joined (events : List Event) :
    textOn stream (joined events) = textOn stream events := by
  induction events with
  | nil => rfl
  | cons e rest ih => rw [joined_cons, textOn_before, ih, textOn_cons]

end Text

namespace Trace
variable (log : Log)

/-- The text that a log writes for some records. -/
def logged (records : List LogRecord) : String := String.join (records.flatMap log.written)

theorem shown_event (e : Event) (rest : Trace) :
    shown log (.event e :: rest) = e :: shown log rest := rfl

theorem shown_note (r : LogRecord) (rest : Trace) :
    shown log (.note r :: rest) = (log.written r).map .err ++ shown log rest := rfl

theorem logged_cons (r : LogRecord) (rest : List LogRecord) :
    logged log (r :: rest) = String.join (log.written r) ++ logged log rest := by
  simp [logged]

/-- A log writes nothing for records below its level. -/
theorem logged_of_below {records : List LogRecord} (below : ∀ r ∈ records, r.level.number < log.level) :
    logged log records = "" := by
  induction records with
  | nil => rfl
  | cons r rest ih =>
    rw [logged_cons, Log.written_of_below (below r List.mem_cons_self),
      ih fun r hr => below r (List.mem_cons_of_mem _ hr)]
    rfl

/-- All that is written for a record is text on the error stream. -/
theorem textOn_written (r : LogRecord) :
    textOn .error ((log.written r).map .err) = String.join (log.written r) := by
  have kept : (fun e : Event => e.textFor .error) ∘ Event.err = some := rfl
  rw [textOn, List.filterMap_map, kept, List.filterMap_some]

/-- A trace that leaves the error stream to the log shows there what is logged of its records. -/
theorem complaints_shown {trace : Trace} (quiet : trace.view (·.textFor .error) = []) :
    textOn .error (trace.shown log) = logged log trace.records := by
  induction trace with
  | nil => rfl
  | cons activity rest ih =>
    cases activity with
    | event e =>
      rw [view_event, List.append_eq_nil_iff] at quiet
      have silent : e.textFor .error = none := by simpa using quiet.1
      rw [shown_event, textOn_cons, silent, ih quiet.2]
      simp
    | note r =>
      rw [view_note] at quiet
      rw [shown_note, textOn_append, textOn_written, ih quiet, records_note, logged_cons]

end Trace

end CatalogConsole
