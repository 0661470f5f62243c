import CatalogConsole.Proofs.ConsoleRun
import CatalogConsole.Service.Desk

/-! # The construction of clients over a history

A service in use and a session on a shared service are machines of one kind: every step is an action
on the link, which either uses a client once or leaves the link alone (`ClientMachine.Lawful`).
Nothing else about the two matters for the constructions.  What follows from it for single steps and
for whole histories is `ClientMachine.ConstructsOnDemand`.

The invariant behind the histories is an account of the link (`Link.Account`): the constructions so
far carry the numbers below `attempts`, all but the last of them failed, and a client is held if and
only if there is a last one and it worked.  Asking for a client keeps the account
(`Link.Account.connect`), because a client that is held is never asked for again.
-/
namespace CatalogConsole

/-! ## The account of a link -/

/-- What the constructions so far, in order, have to do with the link. -/
structure Link.Account (construction : Nat → Option Failure) (link : Link) (connects : List Nat) :
    Prop where
  numbered : connects = List.range link.attempts
  failed : ∀ n ∈ connects.dropLast, (construction n).isSome
  held_iff : link.held = true ↔ ∃ n, connects.getLast? = some n ∧ construction n = none

namespace Link

/-- A fresh link has no constructions to account for. -/
theorem account_fresh (construction : Nat → Option Failure) : Account construction {} [] :=
  ⟨rfl, by simp, by simp⟩

/-- Where no client is held, all constructions so far have failed. -/
theorem Account.all_failed {construction : Nat → Option Failure} {link : Link}
    {connects : List Nat} (h : Account construction link connects) (free : link.held = false) :
    ∀ n ∈ connects, (construction n).isSome := by
  intro n hn
  have nonempty : connects ≠ [] := List.ne_nil_of_mem hn
  rw [← List.dropLast_concat_getLast nonempty, List.mem_append, List.mem_singleton] at hn
  rcases hn with early | last
  · exact h.failed n early
  -- the last one has failed too, or there would be a client
  · refine Option.isSome_iff_ne_none.mpr fun worked => ?_
    have held : link.held = true :=
      h.held_iff.mpr ⟨n, by rw [last, List.getLast?_eq_some_getLast nonempty], worked⟩
    rw [free] at held
    cases held

/-- **To ask for a client keeps the account.** -/
theorem Account.connect {link : Link} {connects : List Nat} {remote : Remote}
    (h : Account remote.construction link connects) :
    Account remote.construction (remote.linkAfter link)
      (connects ++ link.connectTrace.connects) := by
  rw [connects_connectTrace]
  unfold Remote.linkAfter
  cases free : link.held with
  | true => simpa using h
  | false =>
    refine ⟨?_, ?_, ?_⟩
    · rw [h.numbered]
      exact (List.range_succ ..).symm
    -- the constructions before the new one are all there were, and there was no client
    · simpa using h.all_failed free
    · simp

end Link

/-! ## Machines on a link -/

/-- A machine that takes its steps on the link of one service. -/
structure ClientMachine (State Input Output : Type) where
  step : State → Input → State × Output
  link : State → Link
  /-- The remote side that a step meets. -/
  remote : Input → Remote
  /-- What can be seen of a step. -/
  trace : Output → Trace
  /-- Whether a step needs a client. -/
  needs : State → Input → Bool

namespace ClientMachine

variable {State Input Output : Type} (m : ClientMachine State Input Output)

/-- Every step is an action on the link, which uses a client if the step needs one and leaves the
link alone if not. -/
def Lawful : Prop :=
  ∀ s i, ∃ (α : Type) (action : Action α),
    m.link (m.step s i).1 = (action.run (m.remote i) (m.link s)).link ∧
    m.trace (m.step s i).2 = (action.run (m.remote i) (m.link s)).trace ∧
    ((m.needs s i = true ∧ ∃ calls, action.UsesClient calls) ∨
      (m.needs s i = false ∧ action.Passive))

/-- The constructions in the outputs of a history. -/
def connects (outputs : List Output) : List Nat :=
  outputs.flatMap fun o => (m.trace o).connects

@[simp] theorem connects_nil : m.connects [] = [] := rfl

@[simp] theorem connects_cons (o : Output) (rest : List Output) :
    m.connects (o :: rest) = (m.trace o).connects ++ m.connects rest := rfl

/-- How a machine constructs clients. -/
structure ConstructsOnDemand : Prop where
  /-- A step constructs a client, and one only, if it needs one and none is held. -/
  once : ∀ s i, (m.trace (m.step s i).2).connects =
    if m.needs s i ∧ (m.link s).held = false then [(m.link s).attempts] else []
  /-- Where the construction fails there is no call, and no client afterwards. -/
  refused : ∀ s i f, m.needs s i → (m.link s).held = false →
    (m.remote i).construction (m.link s).attempts = some f →
    (m.trace (m.step s i).2).calls = [] ∧
      m.link (m.step s i).1 = ⟨false, (m.link s).attempts + 1⟩
  /-- So the next step that needs a client constructs one again. -/
  retried : ∀ s i j f, m.needs s i → (m.link s).held = false →
    (m.remote i).construction (m.link s).attempts = some f → m.needs (m.step s i).1 j →
    (m.trace (m.step (m.step s i).1 j).2).connects = [(m.link s).attempts + 1]
  /-- A client that is held is kept, and there are no constructions any more. -/
  settled : ∀ s inputs, (m.link s).held →
    m.connects (replay m.step s inputs).2 = [] ∧ m.link (replay m.step s inputs).1 = m.link s
  /-- The constructions of a history that starts without a client and meets the same constructions
  throughout. -/
  account : ∀ construction s inputs, m.link s = {} →
    (∀ i ∈ inputs, (m.remote i).construction = construction) →
    (m.link (replay m.step s inputs).1).Account construction (m.connects (replay m.step s inputs).2)

variable {m}

/-- The link after a lawful step. -/
theorem Lawful.link_step (h : m.Lawful) (s : State) (i : Input) :
    m.link (m.step s i).1 =
      if m.needs s i then (m.remote i).linkAfter (m.link s) else m.link s := by
  obtain ⟨α, action, link, -, ⟨needed, calls, uses⟩ | ⟨idle, passive⟩⟩ := h s i
  · rw [link, if_pos needed, uses.link_run]
  · rw [link, idle, passive.link_run]
    rfl

/-- The constructions in a lawful step. -/
theorem Lawful.connects_step (h : m.Lawful) (s : State) (i : Input) :
    (m.trace (m.step s i).2).connects =
      if m.needs s i then (m.link s).connectTrace.connects else [] := by
  obtain ⟨α, action, -, trace, ⟨needed, calls, uses⟩ | ⟨idle, passive⟩⟩ := h s i
  · rw [trace, if_pos needed, uses.connects_run]
  · rw [trace, idle, passive.connects_run]
    rfl

/-- A lawful step whose construction fails makes no call and ends without a client. -/
theorem Lawful.refused_step (h : m.Lawful) {s : State} {i : Input} {f : Failure}
    (needed : m.needs s i = true) (free : (m.link s).held = false)
    (failed : (m.remote i).construction (m.link s).attempts = some f) :
    (m.trace (m.step s i).2).calls = [] ∧
      m.link (m.step s i).1 = ⟨false, (m.link s).attempts + 1⟩ := by
  have refused : (m.remote i).connectFailure? (m.link s) = some f := by
    simp [Remote.connectFailure?, free, failed]
  constructor
  · obtain ⟨α, action, -, trace, ⟨-, calls, uses⟩ | ⟨-, passive⟩⟩ := h s i
    · rw [trace, uses.calls_run, refused]
      rfl
    · rw [trace, passive.calls_run]
  · rw [h.link_step, if_pos needed]
    simp [Remote.linkAfter, free, failed]

/-- Where a client is held, a lawful step changes nothing about it. -/
theorem Lawful.step_of_held (h : m.Lawful) {s : State} (held : (m.link s).held = true) (i : Input) :
    (m.trace (m.step s i).2).connects = [] ∧ m.link (m.step s i).1 = m.link s := by
  rw [h.connects_step, h.link_step]
  simp [Link.connects_connectTrace, Remote.linkAfter, held]

theorem Lawful.replay_of_held (h : m.Lawful) {s : State} (held : (m.link s).held = true)
    (inputs : List Input) :
    m.connects (replay m.step s inputs).2 = [] ∧ m.link (replay m.step s inputs).1 = m.link s := by
  induction inputs generalizing s with
  | nil => exact ⟨rfl, rfl⟩
  | cons i rest ih =>
    obtain ⟨silent, kept⟩ := h.step_of_held held i
    obtain ⟨silent', kept'⟩ := ih (kept ▸ held)
    rw [replay_cons]
    refine ⟨?_, kept'.trans kept⟩
    rw [connects_cons, silent, silent', List.append_nil]

/-- **A history keeps the account**, from any account to start with. -/
theorem Lawful.account_replay (h : m.Lawful) {construction : Nat → Option Failure} {s : State}
    {before : List Nat} (account : (m.link s).Account construction before) {inputs : List Input}
    (same : ∀ i ∈ inputs, (m.remote i).construction = construction) :
    (m.link (replay m.step s inputs).1).Account construction
      (before ++ m.connects (replay m.step s inputs).2) := by
  induction inputs generalizing s before with
  | nil => simpa using account
  | cons i rest ih =>
    have now : (m.link (m.step s i).1).Account construction
        (before ++ (m.trace (m.step s i).2).connects) := by
      rw [h.link_step, h.connects_step]
      split
      -- the step meets the construction that the account is about
      · have met := same i List.mem_cons_self
        subst met
        exact account.connect
      · simpa using account
    have later := ih now fun j hj => same j (List.mem_cons_of_mem _ hj)
    rw [List.append_assoc] at later
    exact later

/-- **Lawful machines construct clients on demand.** -/
theorem Lawful.constructsOnDemand (h : m.Lawful) : m.ConstructsOnDemand where
  once s i := by
    rw [h.connects_step, Link.connects_connectTrace]
    cases m.needs s i <;> cases (m.link s).held <;> rfl
  refused s i f needed free failed := h.refused_step needed free failed
  retried s i j f needed free failed again := by
    obtain ⟨-, left⟩ := h.refused_step needed free failed
    rw [h.connects_step, if_pos again, left]
    rfl
  settled s inputs held := h.replay_of_held held inputs
  account construction s inputs fresh same := by
    have start : (m.link s).Account construction [] := fresh ▸ Link.account_fresh construction
    exact h.account_replay start same

end ClientMachine

/-! ## A service in use -/

/-- Whether the next element of a listing cannot be had without a client. -/
def Listing.needsClient : Listing → Bool
  | fresh _ => true
  | running .. | finished => false

/-- Whether a request needs a client.  To take a listing or to give it up does not. -/
def Desk.needsClient (desk : Desk) : Request → Bool
  | .connect | .create .. | .get _ | .add .. | .delete _ => true
  | .next handle | .collect handle => (desk.listing handle).needsClient
  | .listProductSets _ | .listProducts .. | .close _ => false

/-- A service in use as a machine on its link. -/
def Desk.machine : ClientMachine Desk Request.Step Response where
  step := Desk.step
  link := Desk.link
  remote := Request.Step.remote
  trace := Response.trace
  needs desk s := desk.needsClient s.request

/-- Whether a listing uses a client for its next element, or for all, is up to `needsClient`. -/
theorem Listing.uses_next (l : Listing) :
    (l.needsClient = true ∧ ∃ calls, l.next.UsesClient calls) ∨
      (l.needsClient = false ∧ l.next.Passive) := by
  match l with
  | fresh query =>
    exact .inl ⟨rfl, _, (Service.usesClient_request _ _).bind fun _ =>
      Action.composes_passive.advance 0 _⟩
  | running index rest => exact .inr ⟨rfl, Action.composes_passive.advance index rest⟩
  | finished => exact .inr ⟨rfl, Action.passive_pure _⟩

theorem Listing.uses_collect (l : Listing) :
    (l.needsClient = true ∧ ∃ calls, l.collect.UsesClient calls) ∨
      (l.needsClient = false ∧ l.collect.Passive) := by
  have silent (_ : Entry) : (return () : Action Unit).Passive := Action.passive_pure ()
  match l with
  | fresh query =>
    exact .inl ⟨rfl, _, (Service.usesClient_request _ _).bind fun _ =>
      Action.composes_passive.drainFrom silent 0 _⟩
  | running index rest => exact .inr ⟨rfl, Action.composes_passive.drainFrom silent index rest⟩
  | finished => exact .inr ⟨rfl, Action.passive_pure _⟩

/-- To ask for the next element does with the link and the trace what the listing does. -/
theorem Desk.next_eq (desk : Desk) (remote : Remote) (handle : String) :
    let outcome := (desk.listing handle).next.run remote desk.link
    (desk.next remote handle).1.link = outcome.link ∧
      (desk.next remote handle).2.trace = outcome.trace := by
  rcases h : (desk.listing handle).next.run remote desk.link with ⟨found | f, link, trace⟩
  · rw [next_of_error h]
    exact ⟨rfl, rfl⟩
  · rw [next_of_ok h]
    exact ⟨rfl, rfl⟩

/-- **Every request is an action on the link.** -/
theorem Desk.machine_lawful : Desk.machine.Lawful := by
  rintro desk ⟨request, remote⟩
  have passive : (return () : Action Unit).Passive := Action.passive_pure ()
  have uses_set (operation : Operation) : ∃ calls,
      (Service.requestSet (operation.call desk.place) >>= fun s =>
        (return .entry (.productSet s) : Action Answer)).UsesClient calls :=
    ⟨_, (Service.usesClient_request _ _).bind fun _ => Action.passive_pure _⟩
  have uses_order (operation : Operation) : ∃ calls,
      (Service.order (operation.call desk.place) >>= fun _ =>
        (return .nothing : Action Answer)).UsesClient calls :=
    ⟨_, (Service.usesClient_request _ _).bind fun _ => Action.passive_pure _⟩
  -- every request is an action by definition, but for that of the next element, which also has to
  -- put the listing back
  cases request with
  | connect =>
    exact ⟨_, _, rfl, rfl, .inl ⟨rfl, _, Service.usesClient_connect.bind fun _ =>
      Action.passive_pure _⟩⟩
  | create id displayName =>
    exact ⟨_, _, rfl, rfl, .inl ⟨rfl, uses_set (.createProductSet id displayName)⟩⟩
  | get id => exact ⟨_, _, rfl, rfl, .inl ⟨rfl, uses_set (.getProductSet id)⟩⟩
  | add setId productId =>
    exact ⟨_, _, rfl, rfl, .inl ⟨rfl, uses_order (.addProduct setId productId)⟩⟩
  | delete id => exact ⟨_, _, rfl, rfl, .inl ⟨rfl, uses_order (.deleteProductSet id)⟩⟩
  | listProductSets handle => exact ⟨_, _, rfl, rfl, .inr ⟨rfl, passive⟩⟩
  | listProducts id handle => exact ⟨_, _, rfl, rfl, .inr ⟨rfl, passive⟩⟩
  | close handle => exact ⟨_, _, rfl, rfl, .inr ⟨rfl, passive⟩⟩
  | next handle =>
    obtain ⟨link, trace⟩ := desk.next_eq remote handle
    exact ⟨_, _, link, trace, (desk.listing handle).uses_next⟩
  | collect handle =>
    refine ⟨_, _, rfl, rfl, ?_⟩
    rcases (desk.listing handle).uses_collect with ⟨fresh, calls, uses⟩ | ⟨started, passive⟩
    · exact .inl ⟨fresh, calls, uses.bind fun _ => Action.passive_pure _⟩
    · exact .inr ⟨started, passive.bind fun _ => Action.passive_pure _⟩

/-- The number of constructions that a response reports is that of the link. -/
theorem Desk.attempts_step (desk : Desk) (s : Request.Step) :
    (desk.step s).2.attempts = (desk.step s).1.link.attempts := by
  obtain ⟨request, remote⟩ := s
  cases request with
  | next handle =>
    change (desk.next remote handle).2.attempts = (desk.next remote handle).1.link.attempts
    rcases h : (desk.listing handle).next.run remote desk.link with ⟨f | found, link, trace⟩
    · rw [next_of_error h]
      rfl
    · rw [next_of_ok h]
      rfl
  | _ => rfl

/-! ## A session on a shared service -/

/-- A session in which all command lines use the shared service, as a machine on its link. -/
def Session.machine : ClientMachine Session SessionStep RunReport where
  step session s := session.step { s with mode := .shared }
  link session := session.link .shared
  remote := SessionStep.remote
  trace := RunReport.trace
  needs _ s := s.carriesOut

/-- A command line that carries out a command uses a client for its call, and any other one leaves
the link alone. -/
theorem SessionStep.uses_run (s : SessionStep) :
    (s.carriesOut = true ∧ ∃ calls, (Console.run s.argv s.given s.env).UsesClient calls) ∨
      (s.carriesOut = false ∧ (Console.run s.argv s.given s.env).Passive) := by
  have complains (lines : List String) (code : ExitCode) :
      (Action.complain lines >>= fun _ => (return code : Action ExitCode)).Passive :=
    (Action.composes_passive.complain lines).bind fun _ => Action.passive_pure code
  cases asks : Console.asksForHelp s.argv with
  | true =>
    refine .inr ⟨by simp [carriesOut, asks], ?_⟩
    rw [Console.run_of_help asks]
    exact (Action.composes_passive.say _).bind fun _ => Action.passive_pure _
  | false =>
    cases resolved : Builtin.registry.resolve s.argv with
    | error e =>
      refine .inr ⟨by simp [carriesOut, resolved, Except.isOk, Except.toBool], ?_⟩
      rw [Console.run_of_unresolved asks resolved]
      exact complains _ _
    | ok i =>
      cases usable : s.settings with
      | error e =>
        refine .inr ⟨by simp [carriesOut, usable, Except.isOk, Except.toBool], ?_⟩
        rw [Console.run_of_unusable resolved usable]
        exact complains _ _
      | ok settings =>
        refine .inl ⟨by simp [carriesOut, asks, resolved, usable, Except.isOk, Except.toBool], ?_⟩
        rw [Console.run_of_usable resolved usable]
        exact ⟨_, Console.usesClient_carryOut _ _⟩

/-- **Every command line is an action on the link.** -/
theorem Session.machine_lawful : Session.machine.Lawful := by
  intro session s
  refine ⟨_, Console.run s.argv s.given s.env, ?_, rfl, s.uses_run⟩
  change (session.after .shared _).link .shared = _
  simp only [Session.after, Session.link, if_true]
  rfl

/-- What a command line constructs is up to the service that it uses and to whether it carries out a
command. -/
theorem Session.connects_step (session : Session) (s : SessionStep) :
    (session.step s).2.trace.connects =
      if s.carriesOut then (session.link s.mode).connectTrace.connects else [] := by
  rcases s.uses_run with ⟨carries, calls, uses⟩ | ⟨idle, passive⟩
  · rw [if_pos carries]
    exact uses.connects_run s.remote (session.link s.mode)
  · rw [idle]
    exact passive.connects_run s.remote (session.link s.mode)

/-- So is what the session is afterwards. -/
theorem Session.after_step (session : Session) (s : SessionStep) :
    (session.step s).1 = session.after s.mode
      (if s.carriesOut then s.remote.linkAfter (session.link s.mode) else session.link s.mode) := by
  rcases s.uses_run with ⟨carries, calls, uses⟩ | ⟨idle, passive⟩
  · rw [if_pos carries]
    exact congrArg (session.after s.mode) (uses.link_run s.remote (session.link s.mode))
  · rw [idle]
    exact congrArg (session.after s.mode) (passive.link_run s.remote (session.link s.mode))

/-- A command line that carries out no command constructs no client, whatever service it has. -/
theorem Session.connects_of_idle (session : Session) {s : SessionStep}
    (idle : s.carriesOut = false) : (session.step s).2.trace.connects = [] := by
  rw [session.connects_step, idle]
  rfl

/-- A command line with a client of its own constructs none. -/
theorem Session.connects_of_given (session : Session) {s : SessionStep} (given : s.mode = .given) :
    (session.step s).2.trace.connects = [] := by
  rw [session.connects_step, given, Link.connects_connectTrace]
  split <;> rfl

/-- **Clients are constructed on demand**, by a service in use and by a session on a shared service.
To take a listing, to ask for help, and to fail for the words or the settings constructs none, and
neither does a service that came with a client.  The number of constructions that a service in use
reports is that of its link. -/
theorem clients_constructed_on_demand :
    Desk.machine.ConstructsOnDemand ∧ Session.machine.ConstructsOnDemand ∧
    (∀ (desk : Desk) (remote : Remote) (id handle : String),
      (desk.step ⟨.listProductSets handle, remote⟩).2.trace.connects = [] ∧
      (desk.step ⟨.listProducts id handle, remote⟩).2.trace.connects = []) ∧
    (∀ (session : Session) (s : SessionStep),
      Console.asksForHelp s.argv = true ∨ (∃ e, Builtin.registry.resolve s.argv = .error e) ∨
        (∃ e, s.settings = .error e) →
      (session.step s).2.trace.connects = []) ∧
    (∀ (session : Session) (s : SessionStep), s.mode = .given →
      (session.step s).2.trace.connects = []) ∧
    (∀ (desk : Desk) (s : Request.Step),
      (desk.step s).2.attempts = (desk.step s).1.link.attempts) := by
  refine ⟨Desk.machine_lawful.constructsOnDemand, Session.machine_lawful.constructsOnDemand,
    fun desk remote id handle => ⟨rfl, rfl⟩, ?_, fun session s => session.connects_of_given,
    Desk.attempts_step⟩
  rintro session s (asks | ⟨e, unresolved⟩ | ⟨e, unusable⟩)
  · exact session.connects_of_idle (by simp [SessionStep.carriesOut, asks])
  · exact session.connects_of_idle
      (by simp [SessionStep.carriesOut, unresolved, Except.isOk, Except.toBool])
  · exact session.connects_of_idle
      (by simp [SessionStep.carriesOut, unusable, Except.isOk, Except.toBool])

end CatalogConsole
