import CatalogConsole.Proofs.ClientConstruction

/-! # It does not matter when a client is constructed

As long as constructions work, a service that constructs its client when it first needs one cannot be
told from a service that was given its client, except by the connection itself.

The argument is a simulation.  A desk that was given a client takes every step that the desk without
one takes, less the connection, and is then again that desk with a client (`Desk.step_ready`).  A
listing that is taken before there is a client and started when there is one needs no case of its own,
because a listing knows nothing of the link.  What a desk does it does by actions, and
`Action.Transparent` is the same statement about one action; like `UsesClient` it survives
composition.

In a session every command line can be compared on its own: with a client of its own it does the same
in every session (`Session.step_withClient`).
-/
namespace CatalogConsole

open Service

variable {α β : Type}

/-- A remote side on which every construction of a client works. -/
def Remote.Constructs (remote : Remote) : Prop := ∀ n, remote.construction n = none

/-- The number of constructions that are still to come, at most, where constructions work. -/
def Link.outstanding (link : Link) : Nat := if link.held then 0 else 1

theorem Link.outstanding_le_one (link : Link) : link.outstanding ≤ 1 := by
  unfold Link.outstanding
  split <;> decide

namespace Remote.Constructs

variable {remote : Remote} (works : remote.Constructs)
include works

/-- Nothing keeps a service from having a client there. -/
theorem connectFailure? (link : Link) : remote.connectFailure? link = none := by
  rw [Remote.connectFailure?, works]
  exact ite_self none

/-- A call is refused there only by the answer to it. -/
theorem refusal? (link : Link) : remote.refusal? link = remote.reply.failure := by
  rw [Remote.refusal?, works.connectFailure?, Option.none_or]

/-- To ask for a client there settles what constructions are still to come. -/
theorem connects_add_outstanding (link : Link) :
    link.connectTrace.connects.length + (remote.linkAfter link).outstanding = link.outstanding := by
  rw [link.connects_connectTrace, Remote.linkAfter, works]
  cases held : link.held with
  | true => simp [Link.outstanding, held]
  | false => simp [Link.outstanding, held]

end Remote.Constructs

/-! ## Actions -/

/-- What is left of an outcome for a service that was given its client. -/
def Outcome.ready (outcome : Outcome α) (n : Nat) : Outcome α :=
  ⟨outcome.result, ⟨true, n⟩, outcome.trace.withoutConnection⟩

namespace Action

/-- **An action to which it does not matter** whether its client is held from the start. -/
def Transparent (action : Action α) : Prop :=
  ∀ (remote : Remote) (link : Link) (n : Nat), remote.Constructs →
    action.run remote ⟨true, n⟩ = (action.run remote link).ready n

theorem transparent_pure (a : α) : (Pure.pure a : Action α).Transparent :=
  fun _ _ _ _ => rfl

theorem transparent_fail (f : Failure) : (fail f : Action α).Transparent :=
  fun _ _ _ _ => rfl

theorem transparent_emit {activity : Activity} (other : activity.isConnection = false) :
    (emit activity).Transparent := by
  intro remote link n _
  rw [run_emit, run_emit, Outcome.ready, Trace.withoutConnection_cons other]
  rfl

theorem transparent_perform {e : Event} (noConnect : e.attempt? = none) :
    (perform e).Transparent := by
  refine transparent_emit ?_
  cases e with
  | connect n => cases noConnect
  | call c | fetch index | out text | err text => rfl

theorem Transparent.bind {first : Action α} {second : α → Action β} (h : first.Transparent)
    (next : ∀ a, (second a).Transparent) : (first >>= second).Transparent := by
  intro remote link n works
  rw [run_bind, run_bind, h remote link n works]
  obtain ⟨result, left, trace⟩ := first.run remote link
  -- the second takes place in both or in neither
  cases result with
  | error f => rfl
  | ok a =>
    simp only [Outcome.ready, Outcome.andThen_ok, next a remote left n works,
      Trace.withoutConnection_append]

theorem composes_transparent : Composes Transparent :=
  ⟨transparent_pure, transparent_fail, fun noConnect _ => transparent_perform noConnect,
    Transparent.bind⟩

end Action

namespace Service

theorem transparent_connect : connect.Transparent := by
  intro remote link n works
  rw [run_connect, run_connect, Outcome.ready, works.connectFailure?, works.connectFailure?,
    link.withoutConnection_connectTrace]
  rfl

/-- **A request** comes to the same with a client that is constructed for it. -/
theorem transparent_request (c : Call) (read : Reply → Except Failure α) :
    (request c read).Transparent := by
  intro remote link n works
  rw [run_request, run_request, Outcome.ready, works.refusal?, works.refusal?,
    Remote.withoutConnection_requestTrace, Remote.requestTrace, works.connectFailure?,
    works.connectFailure?]
  rfl

end Service

namespace Listing

theorem transparent_drain {visit : Entry → Action Unit}
    (visits : ∀ entry, (visit entry).Transparent) (l : Listing) : (drain visit l).Transparent := by
  have rests := Action.composes_transparent.drainFrom visits
  match l with
  | fresh query => exact (transparent_request _ _).bind fun _ => rests 0 _
  | running index rest => exact rests index rest
  | finished => exact Action.transparent_pure _

theorem transparent_next (l : Listing) : l.next.Transparent := by
  have rests := Action.composes_transparent.advance
  match l with
  | fresh query => exact (transparent_request _ _).bind fun _ => rests 0 _
  | running index rest => exact rests index rest
  | finished => exact Action.transparent_pure _

theorem transparent_collect (l : Listing) : l.collect.Transparent :=
  transparent_drain (fun _ => Action.transparent_pure ()) l

end Listing

theorem transparent_execute (c : Call) : c.execute.Transparent := by
  have prints := Action.composes_transparent.say
  have displays := Action.composes_transparent.display
  match c with
  | .createProductSet .. | .addProduct .. | .deleteProductSet _ =>
    exact (transparent_request _ _).bind fun _ => prints _
  | .getProductSet _ => exact (transparent_request _ _).bind fun _ => displays _
  | .list query =>
    exact (Listing.transparent_drain (fun _ => displays _) _).bind fun _ => Action.transparent_pure _

namespace Console

theorem transparent_report (name : String) {action : Action Unit} (h : action.Transparent) :
    (report name action).Transparent := by
  intro remote link n works
  rw [run_report, run_report, h remote link n works, Outcome.ready, Outcome.ready,
    Trace.withoutConnection_append, withoutConnection_verdict]

theorem transparent_carryOut (place : Location) (i : Invocation Operation) :
    (carryOut place i).Transparent :=
  (Action.transparent_emit (isConnection_runningNote place i.command.name)).bind fun _ =>
    transparent_report i.command.name (transparent_execute _)

/-- **To a command line it does not matter** whether its client is held from the start. -/
theorem transparent_run (argv : List String) (given : Option Settings) (env : Environment) :
    (run argv given env).Transparent := by
  have prints := Action.composes_transparent.say
  have complains := Action.composes_transparent.complain
  unfold run
  split
  · exact (prints _).bind fun _ => Action.transparent_pure _
  · split
    · exact (complains _).bind fun _ => Action.transparent_pure _
    · split
      · exact (complains _).bind fun _ => Action.transparent_pure _
      · exact transparent_carryOut _ _

end Console

/-! ## A service in use -/

/-- The same response, less the connection, from a service that was given its client. -/
def Response.ready (n : Nat) (response : Response) : Response :=
  ⟨response.result, response.trace.withoutConnection, n⟩

namespace Desk

/-- The same desk with a client. -/
def ready (n : Nat) (desk : Desk) : Desk := { desk with link := ⟨true, n⟩ }

theorem respond_ready (n : Nat) (desk : Desk) (outcome : Outcome Answer) :
    (desk.ready n).respond (outcome.ready n) =
      ((desk.respond outcome).1.ready n, (desk.respond outcome).2.ready n) := rfl

variable {remote : Remote} (works : remote.Constructs) (n : Nat) (desk : Desk)
include works

theorem act_ready {action : Action Answer} (h : action.Transparent) :
    (desk.ready n).act remote action =
      ((desk.act remote action).1.ready n, (desk.act remote action).2.ready n) := by
  have run := h remote desk.link n works
  rw [act, act, ← respond_ready, ← run]
  rfl

theorem next_ready (handle : String) :
    (desk.ready n).next remote handle =
      ((desk.next remote handle).1.ready n, (desk.next remote handle).2.ready n) := by
  have run := (desk.listing handle).transparent_next remote desk.link n works
  rcases ran : (desk.listing handle).next.run remote desk.link with ⟨f | found, link, trace⟩
  · rw [ran] at run
    rw [next_of_error ran, next_of_error run]
    rfl
  · rw [ran] at run
    rw [next_of_ok ran, next_of_ok run]
    rfl

/-- **A step of a desk with a client** is the step of the desk, less the connection. -/
theorem step_ready (request : Request) :
    (desk.ready n).step ⟨request, remote⟩ =
      ((desk.step ⟨request, remote⟩).1.ready n, (desk.step ⟨request, remote⟩).2.ready n) := by
  have fetches (operation : Operation) := desk.act_ready works n <|
    (transparent_request (operation.call desk.place) fun reply => reply.productSet.read).bind
      fun s => Action.transparent_pure (Answer.entry (.productSet s))
  have orders (operation : Operation) := desk.act_ready works n <|
    (transparent_request (operation.call desk.place) fun _ => .ok ()).bind
      fun _ => Action.transparent_pure Answer.nothing
  cases request with
  | connect =>
    exact desk.act_ready works n (transparent_connect.bind fun _ => Action.transparent_pure _)
  | create id displayName => exact fetches (.createProductSet id displayName)
  | get id => exact fetches (.getProductSet id)
  | add setId productId => exact orders (.addProduct setId productId)
  | delete id => exact orders (.deleteProductSet id)
  | next handle => exact desk.next_ready works n handle
  | collect handle =>
    exact (desk.put handle .finished).act_ready works n
      ((desk.listing handle).transparent_collect.bind fun _ => Action.transparent_pure _)
  | listProductSets | listProducts | close => rfl

end Desk

/-- A desk with a client follows the desk without. -/
def Desk.simulation (n : Nat) : Simulation Desk.step Desk.step where
  admitted s := s.remote.Constructs
  input := id
  output := Response.ready n
  related desk desk' := desk' = desk.ready n
  output_step := by
    rintro desk _ s works rfl
    exact congrArg Prod.snd (desk.step_ready works n s.request)
  related_step := by
    rintro desk _ s works rfl
    exact congrArg Prod.fst (desk.step_ready works n s.request)

namespace ClientMachine.Lawful

variable {State Input Output : Type} {m : ClientMachine State Input Output} (h : m.Lawful)
include h

/-- A step constructs only what is outstanding. -/
theorem connects_step_add_outstanding (s : State) {i : Input} (works : (m.remote i).Constructs) :
    (m.trace (m.step s i).2).connects.length + (m.link (m.step s i).1).outstanding =
      (m.link s).outstanding := by
  rw [h.connects_step, h.link_step]
  cases m.needs s i with
  | true => exact works.connects_add_outstanding (m.link s)
  | false => exact Nat.zero_add _

/-- **So does a whole history.** -/
theorem connects_replay_add_outstanding (s : State) {inputs : List Input}
    (works : ∀ i ∈ inputs, (m.remote i).Constructs) :
    (m.connects (replay m.step s inputs).2).length + (m.link (replay m.step s inputs).1).outstanding =
      (m.link s).outstanding := by
  induction inputs generalizing s with
  | nil => exact Nat.zero_add _
  | cons i rest ih =>
    have now := h.connects_step_add_outstanding s (works i List.mem_cons_self)
    have later := ih (m.step s i).1 fun j hj => works j (List.mem_cons_of_mem _ hj)
    simp only [replay_cons, connects_cons, List.length_append]
    omega

end ClientMachine.Lawful

/-! ## A session -/

/-- The same command line with a client of its own. -/
def SessionStep.withClient (s : SessionStep) : SessionStep := { s with mode := .given }

/-- The same report, less the connection. -/
def RunReport.withoutConnection (report : RunReport) : RunReport :=
  ⟨report.ending, report.trace.withoutConnection⟩

namespace Session

/-- **A command line with a client of its own** does, in whatever session, what it does without, less
the connection. -/
theorem step_withClient (session session' : Session) {s : SessionStep}
    (works : s.remote.Constructs) :
    (session'.step s.withClient).2 = (session.step s).2.withoutConnection := by
  have run := Console.transparent_run s.argv s.given s.env s.remote (session.link s.mode)
    session'.attempts works
  exact congrArg (fun outcome => RunReport.mk outcome.result outcome.trace) run

/-- A session in which every command line has a client of its own follows any other session. -/
def simulation : Simulation Session.step Session.step where
  admitted s := s.remote.Constructs
  input := SessionStep.withClient
  output := RunReport.withoutConnection
  related _ _ := True
  output_step works _ := step_withClient _ _ works
  related_step _ _ := trivial

/-- The constructions by the service that a session shares. -/
def sharedConnects (steps : List SessionStep) (reports : List RunReport) : List Nat :=
  ((steps.zip reports).filter fun (s, _) => s.mode = .shared).flatMap fun (_, report) =>
    report.trace.connects

theorem sharedConnects_cons (s : SessionStep) (steps : List SessionStep) (report : RunReport)
    (reports : List RunReport) :
    sharedConnects (s :: steps) (report :: reports) =
      (if s.mode = .shared then report.trace.connects else []) ++ sharedConnects steps reports := by
  by_cases shared : s.mode = .shared <;> simp [sharedConnects, shared]

/-- A command line constructs for the shared service only what is outstanding there. -/
theorem connects_step_add_outstanding (session : Session) {s : SessionStep}
    (works : s.remote.Constructs) :
    (if s.mode = .shared then (session.step s).2.trace.connects else []).length +
        ((session.step s).1.link .shared).outstanding =
      (session.link .shared).outstanding := by
  rw [session.connects_step, session.after_step]
  cases mode : s.mode with
  | shared =>
    cases s.carriesOut with
    | true => exact works.connects_add_outstanding (session.link .shared)
    | false => exact Nat.zero_add _
  -- with another service the shared one stays as it is
  | given => exact Nat.zero_add _
  | own => exact Nat.zero_add _

/-- **So does a whole session.** -/
theorem sharedConnects_replay_add_outstanding (session : Session) {steps : List SessionStep}
    (works : ∀ s ∈ steps, s.remote.Constructs) :
    (sharedConnects steps (replay Session.step session steps).2).length +
        ((replay Session.step session steps).1.link .shared).outstanding =
      (session.link .shared).outstanding := by
  induction steps generalizing session with
  | nil => exact Nat.zero_add _
  | cons s rest ih =>
    have now := session.connects_step_add_outstanding (works s List.mem_cons_self)
    have later := ih (session.step s).1 fun t ht => works t (List.mem_cons_of_mem _ ht)
    simp only [replay_cons, sharedConnects_cons, List.length_append]
    omega

/-- A command line with a service of its own constructs a client just when it carries out a
command. -/
theorem connects_of_own (session : Session) {s : SessionStep} (own : s.mode = .own) :
    (session.step s).2.trace.connects = if s.carriesOut then [session.attempts] else [] := by
  rw [session.connects_step, own, Link.connects_connectTrace]
  rfl

end Session

/-- **A client that is constructed when it is first needed comes to the same as one that was there from
the start**, less the connection.  A service in use constructs at most one, and so does the service that
a session shares.  A service that was given its client constructs none, and the service of a single
command line constructs one if the command line carries out a command. -/
theorem lazy_connection_transparent :
    (∀ (desk : Desk) (n : Nat) (steps : List Request.Step),
      (∀ s ∈ steps, s.remote.Constructs) →
      let lazy := (replay Desk.step desk steps).2
      let ready := (replay Desk.step (desk.ready n) steps).2
      (∀ log, ready.map (fun r => (r.result, r.trace.seen log)) =
        lazy.map fun r => (r.result, r.trace.withoutConnection.seen log)) ∧
      (Desk.machine.connects lazy).length ≤ 1 ∧ Desk.machine.connects ready = []) ∧
    ∀ (session session' : Session) (steps : List SessionStep),
      (∀ s ∈ steps, s.remote.Constructs) →
      let reports := (replay Session.step session steps).2
      let ready := (replay Session.step session' (steps.map (·.withClient))).2
      (∀ log, ready.map (fun r => (r.ending, r.trace.seen log)) =
        reports.map fun r => (r.ending, r.trace.withoutConnection.seen log)) ∧
      (Session.sharedConnects steps reports).length ≤ 1 ∧
      ∀ p ∈ steps.zip reports,
        (p.1.mode = .given → p.2.trace.connects = []) ∧
        (p.1.mode = .own → p.2.trace.connects.length = if p.1.carriesOut then 1 else 0) := by
  constructor
  · intro desk n steps works lazy ready
    have follows : ready = lazy.map (·.ready n) := by
      have start : (Desk.simulation n).related desk (desk.ready n) := rfl
      have outputs := (Desk.simulation n).outputs_replay start works
      rwa [show steps.map (Desk.simulation n).input = steps from List.map_id steps] at outputs
    refine ⟨fun log => ?_, ?_, ?_⟩
    · rw [follows, List.map_map]
      rfl
    · have account := Desk.machine_lawful.connects_replay_add_outstanding desk works
      have few := (Desk.machine.link desk).outstanding_le_one
      exact Nat.le_trans (Nat.le.intro account) few
    · exact (Desk.machine_lawful.replay_of_held (s := desk.ready n) rfl steps).1
  · intro session session' steps works reports ready
    have follows : ready = reports.map (·.withoutConnection) :=
      Session.simulation.outputs_replay trivial works
    refine ⟨fun log => ?_, ?_, ?_⟩
    · rw [follows, List.map_map]
      rfl
    · have account := session.sharedConnects_replay_add_outstanding works
      have few := (session.link .shared).outstanding_le_one
      exact Nat.le_trans (Nat.le.intro account) few
    · let constructs (s : SessionStep) (r : RunReport) : Prop :=
        (s.mode = .given → r.trace.connects = []) ∧
          (s.mode = .own → r.trace.connects.length = if s.carriesOut then 1 else 0)
      refine forall_mem_zip_replay Session.step constructs (fun before s => ?_) session steps
      refine ⟨before.connects_of_given, fun own => ?_⟩
      rw [before.connects_of_own own]
      split <;> rfl

/-- A listing that is taken before there is a client and started when there is one, and one command
line with each of the three services. -/
theorem early_listing_started_late :
    let desk : Desk := ⟨⟨"shop", "east"⟩, {}, []⟩
    let steps : List Request.Step :=
      [⟨.listProductSets "sets", {}⟩, ⟨.get "shoes", {}⟩, ⟨.next "sets", {}⟩]
    let lazy := (replay Desk.step desk steps).2
    let ready := (replay Desk.step (desk.ready 0) steps).2
    let line (mode : ServiceMode) : SessionStep :=
      ⟨["get_product_set", "shoes"], some ⟨"shop", "east"⟩, .ofList [], mode, {}⟩
    let lines := [line .own, line .shared, line .given]
    let reports := (replay Session.step {} lines).2
    Desk.machine.connects lazy = [0] ∧
      (∀ log, ready.map (fun r => (r.result, r.trace.seen log)) =
        lazy.map fun r => (r.result, r.trace.withoutConnection.seen log)) ∧
      ∀ p ∈ lines.zip reports, p.1.mode = .own → p.2.trace.connects.length = 1 := by
  intro desk steps lazy ready line lines reports
  obtain ⟨services, sessions⟩ := lazy_connection_transparent
  have works : ∀ s ∈ steps, s.remote.Constructs := by
    simp [steps, Remote.Constructs]
  have linesWork : ∀ s ∈ lines, s.remote.Constructs := by
    simp [lines, line, Remote.Constructs]
  have builtin : Builtin.getProductSet ∈ Builtin.commands := by simp [Builtin.commands]
  have resolved : Builtin.registry.resolve ["get_product_set", "shoes"] =
      .ok ⟨Builtin.getProductSet, ["shoes"], rfl⟩ := Builtin.resolve_name builtin ["shoes"] rfl
  have carries (mode : ServiceMode) : (line mode).carriesOut = true := by
    have silent := Console.asksForHelp_of_resolved resolved
    simp [SessionStep.carriesOut, line, silent, resolved, SessionStep.settings, Except.isOk,
      Except.toBool]
  have carried : ∀ s ∈ lines, s.carriesOut = true := by
    simp [lines, carries]
  obtain ⟨alike, -, -⟩ := services desk 0 steps works
  obtain ⟨-, -, own⟩ := sessions {} {} lines linesWork
  refine ⟨rfl, alike, fun p hp mode => ?_⟩
  rw [(own p hp).2 mode, carried p.1 (List.of_mem_zip hp).1]
  rfl

end CatalogConsole
