import CatalogConsole.Operation
import CatalogConsole.Proofs.TraceViews

/-! # The link to a client

What an operation does to the link is decided before its call is made.  `Remote.linkAfter` is the
link once a client has been made sure of, `Remote.connectFailure?` says why there is none then, and
`Link.connectTrace` is what can be seen of it.  `run_connect` and `run_request` put the connection
and a whole request together from these three.

An action either uses a client or leaves the link alone.  `Action.UsesClient` and `Action.Passive`
say so, and both survive composition: whatever follows a request without touching the link, the
whole uses a client exactly once.
-/
namespace CatalogConsole

open Service

variable {α β : Type}

/-! ## The connection -/

/-- Why no client is held once one has been asked for, if none is. -/
def Remote.connectFailure? (remote : Remote) (link : Link) : Option Failure :=
  if link.held then none else remote.construction link.attempts

/-- The link once a client has been asked for, whether or not that has worked. -/
def Remote.linkAfter (remote : Remote) (link : Link) : Link :=
  if link.held then link
  else ⟨(remote.construction link.attempts).isNone, link.attempts + 1⟩

/-- What is seen when a client is asked for: nothing if one is held, and else one construction. -/
def Link.connectTrace (link : Link) : Trace :=
  if link.held then [] else [connectNote, .event (.connect link.attempts)]

/-- The constructions that can be seen when a client is asked for. -/
theorem Link.connects_connectTrace (link : Link) :
    link.connectTrace.connects = if link.held then [] else [link.attempts] := by
  unfold Link.connectTrace
  split <;> rfl

/-- What comes of something that may fail: nothing, or the failure without errors of the client
library. -/
def Failure.raised (failure? : Option Failure) : Except Failure Unit :=
  failure?.elim (.ok ()) fun f => .error f.normalized

@[simp] theorem Failure.raised_none : raised none = .ok () := rfl

@[simp] theorem Failure.raised_some (f : Failure) : raised (some f) = .error f.normalized := rfl

theorem run_connect (remote : Remote) (link : Link) :
    connect.run remote link =
      ⟨Failure.raised (remote.connectFailure? link), remote.linkAfter link, link.connectTrace⟩ := by
  obtain ⟨held, attempts⟩ := link
  cases held with
  | true => rw [run_connect_of_held]; rfl
  | false =>
    cases made : remote.construction attempts with
    | none =>
      rw [run_connect_of_works made]
      simp [Remote.connectFailure?, Remote.linkAfter, Link.connectTrace, made]
    | some f =>
      rw [run_connect_of_fails made]
      simp [Remote.connectFailure?, Remote.linkAfter, Link.connectTrace, made]

/-! ## A request -/

/-- The note that comes before everything else that a request does. -/
def Call.note (c : Call) : Activity :=
  .note ⟨.debug, Service.logger, c.method ++ " " ++ c.resource⟩

/-- Why a call gets no answer: there is no client to make it, or it fails itself. -/
def Remote.refusal? (remote : Remote) (link : Link) : Option Failure :=
  (remote.connectFailure? link).or remote.reply.failure

/-- What is seen of a request up to its answer.  Without a client there is no call. -/
def Remote.requestTrace (remote : Remote) (link : Link) (c : Call) : Trace :=
  c.note :: link.connectTrace ++
    if (remote.connectFailure? link).isSome then [] else [.event (.call c)]

@[simp] theorem mapError_ok (a : α) :
    (.ok a : Except Failure α).mapError Failure.normalized = .ok a := rfl

@[simp] theorem mapError_error (f : Failure) :
    (.error f : Except Failure α).mapError Failure.normalized = .error f.normalized := rfl

/-- **A request** makes sure of a client and makes its call with it.  Its result is that of reading
the reply, unless there is none. -/
theorem run_request (c : Call) (read : Reply → Except Failure α) (remote : Remote) (link : Link) :
    (request c read).run remote link =
      ⟨match remote.refusal? link with
        | none => (read remote.reply).mapError Failure.normalized
        | some f => .error f.normalized,
        remote.linkAfter link, remote.requestTrace link c⟩ := by
  have opened : (request c read).run remote link =
      (((connect.run remote link).andThen fun _ link => ((send c).run remote link).andThen
        fun reply link => ⟨read reply, link, []⟩).normalized |> fun outcome =>
          ⟨outcome.result, outcome.link, c.note :: outcome.trace⟩) := by
    simp [request, guarded, Action.note, Call.note, Outcome.andThen]
  rw [opened, run_connect]
  -- the connection is normalized once more with the whole request, which changes nothing
  cases connected : remote.connectFailure? link with
  | some f => simp [Remote.refusal?, Remote.requestTrace, connected]
  | none =>
    cases answered : remote.reply.failure with
    | some f =>
      simp [Remote.refusal?, Remote.requestTrace, connected, answered, run_send_of_refused answered]
    | none =>
      cases value : read remote.reply <;>
        simp [Remote.refusal?, Remote.requestTrace, connected, answered,
          run_send_of_answered answered, value]

/-! ## Traces without the connection -/

/-- Whether an activity belongs to the connection: the construction of a client, and the note before
it. -/
def Activity.isConnection : Activity → Bool
  | event (.connect _) => true
  | activity => activity = connectNote

/-- A trace from which the connection has been deleted. -/
def Trace.withoutConnection (trace : Trace) : Trace :=
  trace.filter fun activity => !activity.isConnection

namespace Trace

@[simp] theorem withoutConnection_append (first second : Trace) :
    withoutConnection (first ++ second) =
      withoutConnection first ++ withoutConnection second :=
  List.filter_append ..

theorem withoutConnection_cons {activity : Activity} (other : activity.isConnection = false)
    (rest : Trace) :
    withoutConnection (activity :: rest) = activity :: withoutConnection rest := by
  simp [withoutConnection, other]

end Trace

/-- The trace of a connection is all deleted. -/
theorem Link.withoutConnection_connectTrace (link : Link) :
    link.connectTrace.withoutConnection = [] := by
  unfold Link.connectTrace
  split <;> rfl

/-- No call has the note of a connection. -/
theorem Call.isConnection_note (c : Call) : c.note.isConnection = false := by
  have other : c.method ++ " " ++ c.resource ≠ "connect ProductSearchClient" := by
    intro same
    have letters := congrArg String.toList same
    rcases c with _ | _ | ⟨_ | _⟩ | _ | _ <;> simp [method, Query.method] at letters
  simp [note, connectNote, Activity.isConnection, other]

/-- What is left of a request is its note and its call. -/
theorem Remote.withoutConnection_requestTrace (remote : Remote) (link : Link) (c : Call) :
    (remote.requestTrace link c).withoutConnection =
      c.note :: if (remote.connectFailure? link).isSome then [] else [.event (.call c)] := by
  rw [requestTrace, List.cons_append, Trace.withoutConnection_cons c.isConnection_note,
    Trace.withoutConnection_append, Link.withoutConnection_connectTrace, List.nil_append]
  split <;> rfl

/-! ## Actions that use a client and actions that do not -/

namespace Action

/-- An action that neither constructs a client nor makes a call. -/
structure Passive (action : Action α) : Prop where
  link_run : ∀ remote link, (action.run remote link).link = link
  connects_run : ∀ remote link, (action.run remote link).trace.connects = []
  calls_run : ∀ remote link, (action.run remote link).trace.calls = []

/-- An action that asks for a client once and makes these calls with it.  Without a client it makes
none of them. -/
structure UsesClient (calls : List Call) (action : Action α) : Prop where
  link_run : ∀ remote link, (action.run remote link).link = remote.linkAfter link
  connects_run : ∀ remote link, (action.run remote link).trace.connects = link.connectTrace.connects
  calls_run : ∀ remote link, (action.run remote link).trace.calls =
    if (remote.connectFailure? link).isSome then [] else calls

theorem passive_pure (a : α) : Passive (pure a : Action α) :=
  ⟨fun _ _ => rfl, fun _ _ => rfl, fun _ _ => rfl⟩

theorem passive_fail (f : Failure) : Passive (fail f : Action α) :=
  ⟨fun _ _ => rfl, fun _ _ => rfl, fun _ _ => rfl⟩

theorem passive_perform {e : Event} (noConnect : e.attempt? = none) (noCall : e.call? = none) :
    Passive (perform e) :=
  ⟨fun _ _ => rfl, fun _ _ => by simp [perform, noConnect],
    fun _ _ => by simp [perform, noCall]⟩

variable {first : Action α} {second : α → Action β}

/-- The outcome of two actions in a row, by what the first comes to. -/
theorem run_bind_of_ok {remote : Remote} {link : Link} {a : α}
    (ok : (first.run remote link).result = .ok a) :
    (first >>= second).run remote link =
      ⟨((second a).run remote (first.run remote link).link).result,
        ((second a).run remote (first.run remote link).link).link,
        (first.run remote link).trace ++
          ((second a).run remote (first.run remote link).link).trace⟩ := by
  simp only [run_bind, Outcome.andThen, ok]

theorem run_bind_of_error {remote : Remote} {link : Link} {f : Failure}
    (failed : (first.run remote link).result = .error f) :
    (first >>= second).run remote link =
      ⟨.error f, (first.run remote link).link, (first.run remote link).trace⟩ := by
  simp only [run_bind, Outcome.andThen, failed]

theorem Passive.bind (h : Passive first) (next : ∀ a, Passive (second a)) :
    Passive (first >>= second) := by
  refine ⟨fun remote link => ?_, fun remote link => ?_, fun remote link => ?_⟩
  all_goals cases result : (first.run remote link).result with
    | error f =>
      rw [run_bind_of_error result]
      simp only [h.link_run, h.connects_run, h.calls_run]
    | ok a =>
      rw [run_bind_of_ok result]
      simp [Trace.view_append, h.link_run, h.connects_run, h.calls_run, (next a).link_run,
        (next a).connects_run, (next a).calls_run]

/-- Whatever follows the use of a client, the client is used once. -/
theorem UsesClient.bind {calls : List Call} (h : UsesClient calls first)
    (next : ∀ a, Passive (second a)) : UsesClient calls (first >>= second) := by
  refine ⟨fun remote link => ?_, fun remote link => ?_, fun remote link => ?_⟩
  all_goals cases result : (first.run remote link).result with
    | error f =>
      rw [run_bind_of_error result]
      simp only [h.link_run, h.connects_run, h.calls_run]
    | ok a =>
      rw [run_bind_of_ok result]
      simp [Trace.view_append, h.link_run, h.connects_run, h.calls_run, (next a).link_run,
        (next a).connects_run, (next a).calls_run]

/-- **A property that survives composition.**  It holds of what does nothing or only shows something,
and of two actions in a row if it holds of both. -/
structure Composes (holds : {α : Type} → Action α → Prop) : Prop where
  pure : ∀ {α : Type} (a : α), holds (Pure.pure a : Action α)
  fail : ∀ {α : Type} (f : Failure), holds (Action.fail f : Action α)
  perform : ∀ {e : Event}, e.attempt? = none → e.call? = none → holds (Action.perform e)
  bind : ∀ {α β : Type} {first : Action α} {second : α → Action β},
    holds first → (∀ a, holds (second a)) → holds (first >>= second)

theorem composes_passive : Composes Passive :=
  ⟨passive_pure, passive_fail, passive_perform, Passive.bind⟩

end Action

namespace Service

/-- Nothing but a construction is seen of the connection. -/
theorem view_connectTrace (select : Event → Option α) (other : ∀ n, select (.connect n) = none)
    (link : Link) : link.connectTrace.view select = [] := by
  unfold Link.connectTrace
  split
  · rfl
  · simp [connectNote, other]

theorem usesClient_connect : connect.UsesClient [] := by
  refine ⟨fun remote link => ?_, fun remote link => ?_, fun remote link => ?_⟩
  all_goals rw [run_connect]
  simpa using view_connectTrace Event.call? (fun _ => rfl) link

/-- Of a request up to its answer nothing but the connection and the call is seen. -/
theorem view_requestTrace (select : Event → Option α) (other : ∀ n, select (.connect n) = none)
    (remote : Remote) (link : Link) (c : Call) :
    (remote.requestTrace link c).view select =
      if (remote.connectFailure? link).isSome then [] else (select (.call c)).toList := by
  rw [Remote.requestTrace, Call.note, Trace.view_append, Trace.view_note,
    view_connectTrace select other, List.nil_append]
  cases remote.connectFailure? link <;> simp

/-- Nothing is printed before the answer. -/
theorem view_output_requestTrace (remote : Remote) (link : Link) (c : Call) :
    (remote.requestTrace link c).view (·.textFor .output) = [] := by
  rw [view_requestTrace _ fun _ => rfl]
  split <;> rfl

theorem usesClient_request (c : Call) (read : Reply → Except Failure α) :
    (request c read).UsesClient [c] := by
  refine ⟨fun remote link => ?_, fun remote link => ?_, fun remote link => ?_⟩
  all_goals rw [run_request]
  · cases connected : remote.connectFailure? link <;>
      simp [Remote.requestTrace, Call.note, connected, Event.attempt?]
  · exact view_requestTrace Event.call? (fun _ => rfl) remote link c

end Service

/-! ## What is done with a reply -/

namespace Action.Composes

variable {holds : {α : Type} → Action α → Prop} (h : Composes holds)
include h

theorem say (lines : List String) : holds (Action.say lines) := h.perform rfl rfl

theorem display (lines : Except ConversionError (List String)) :
    holds (Action.display lines) := by
  cases lines with
  | ok lines => exact h.bind (h.pure lines) h.say
  | error reason => exact h.bind (h.fail _) h.say

theorem complain (lines : List String) : holds (Action.complain lines) := h.perform rfl rfl

/-- It holds of the fetching of an element. -/
theorem advance (index : Nat) (rest : List (Except Failure Entry)) :
    holds (Listing.advance index rest) := by
  have fetch : holds (Action.perform (.fetch index)) := h.perform rfl rfl
  match rest with
  | [] => exact h.bind fetch fun _ => h.pure _
  | .ok entry :: rest => exact h.bind fetch fun _ => h.pure _
  | .error f :: rest => exact h.bind fetch fun _ => h.fail _

/-- It holds of the fetching of all elements, if it does of what is done with each. -/
theorem drainFrom {visit : Entry → Action Unit} (visits : ∀ entry, holds (visit entry))
    (index : Nat) (rest : List (Except Failure Entry)) :
    holds (Listing.drainFrom visit index rest) := by
  induction rest generalizing index with
  | nil => exact h.bind (h.perform rfl rfl) fun _ => h.pure _
  | cons element rest ih =>
    have fetch : holds (Action.perform (.fetch index)) := h.perform rfl rfl
    match element with
    | .ok entry =>
      exact h.bind fetch fun _ => h.bind (visits entry) fun _ =>
        h.bind (ih (index + 1)) fun _ => h.pure _
    | .error f => exact h.bind fetch fun _ => h.fail _

end Action.Composes

/-- **A command** uses a client once, for the one call that it makes. -/
theorem usesClient_execute (c : Call) : c.execute.UsesClient [c] := by
  have prints := Action.composes_passive.say
  have displays := Action.composes_passive.display
  -- whatever a command does with its reply, it does without the client
  match c with
  | .createProductSet .. | .addProduct .. | .deleteProductSet _ =>
    exact (usesClient_request _ _).bind fun _ => prints _
  | .getProductSet _ => exact (usesClient_request _ _).bind fun _ => displays _
  | .list query =>
    exact ((usesClient_request _ _).bind fun _ =>
      Action.composes_passive.drainFrom (fun _ => displays _) 0 _).bind fun _ =>
        Action.passive_pure _

end CatalogConsole
