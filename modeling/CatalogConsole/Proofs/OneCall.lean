import CatalogConsole.Proofs.ConsoleRun

/-! # One call for each command line

A command line that carries out a command makes one call, or none if it gets no client.  All that can
be seen of it comes in three phases (`Event.phase`): the connection, then the call, then what follows
the answer.  `Session.events_step` takes the events apart in this way, and the order of events is
read off it: nothing of the connection comes after the call, and no element is requested and nothing
is printed before it.

Which call it is, `Routed` says by the words of the command line alone.  Nothing is lost on the way:
a command line can be read off its operation (`Builtin.invocation_of_resolved`), the operation off
its call (`Operation.call_inj`), because an id can be read off the path that it is put into, and the
call off its method and arguments (`Call.eq_iff`).  So two command lines make the same call only if
they give the same words to the same command.
-/
namespace CatalogConsole

/-! ## The phases of a command -/

/-- The phase of a command that an event belongs to: the connection, the call, or what follows. -/
def Event.phase : Event → Nat
  | connect _ => 0
  | call _ => 1
  | fetch _ | out _ | err _ => 2

/-- The events of a trace in the order of their phases. -/
def Trace.Phased (trace : Trace) : Prop :=
  trace.events.Pairwise fun e e' => e.phase ≤ e'.phase

theorem Event.phase_of_isAnswer {e : Event} (h : e.isAnswer = true) : e.phase = 2 := by
  cases e with
  | fetch index | out text => rfl
  | connect n | call c | err text => cases h

/-- Events of one phase are in the order of their phases. -/
theorem Event.pairwise_of_phase {events : List Event} {k : Nat} (h : ∀ e ∈ events, e.phase = k) :
    events.Pairwise fun e e' => e.phase ≤ e'.phase := by
  rw [List.pairwise_iff_getElem]
  intro m n hm hn _
  exact Nat.le_of_eq ((h _ (List.getElem_mem hm)).trans (h _ (List.getElem_mem hn)).symm)

namespace Trace.Phased

variable {trace : Trace} (h : trace.Phased)
include h

/-- After an event there is none of an earlier phase. -/
theorem le_phase {before after : List Event} {e : Event}
    (split : trace.events = before ++ e :: after) : ∀ e' ∈ after, e.phase ≤ e'.phase := by
  rw [Phased, split, List.pairwise_append] at h
  obtain ⟨-, later, -⟩ := h
  exact (List.pairwise_cons.mp later).1

/-- So an event of an earlier phase stands before it. -/
theorem mem_before {before after : List Event} {e e' : Event}
    (split : trace.events = before ++ e :: after) (present : e' ∈ trace.events)
    (early : e'.phase < e.phase) : e' ∈ before := by
  rw [split, List.mem_append, List.mem_cons] at present
  rcases present with there | rfl | later
  · exact there
  · exact absurd early (Nat.lt_irrefl _)
  · exact absurd early (Nat.not_lt.mpr (h.le_phase split e' later))

end Trace.Phased

/-- The connection is of the first phase. -/
theorem Link.phase_connectTrace (link : Link) :
    ∀ e ∈ link.connectTrace.events, ∃ n, e = .connect n := by
  intro e he
  rw [Trace.mem_events, Link.connectTrace] at he
  split at he
  · cases he
  · rcases List.mem_cons.mp he with note | construction
    · cases note
    · cases List.mem_singleton.mp construction
      exact ⟨link.attempts, rfl⟩

/-- The events of a request up to its answer. -/
theorem Remote.events_requestTrace (remote : Remote) (link : Link) (c : Call) :
    (remote.requestTrace link c).events =
      link.connectTrace.events ++
        if (remote.connectFailure? link).isSome then [] else [.call c] := by
  cases connected : remote.connectFailure? link <;> simp [requestTrace, Call.note, connected]

/-- All that the console says about a command is on the error stream. -/
theorem Console.phase_verdict (name : String) (result : Except Failure Unit) :
    ∀ e ∈ (verdict name result).events, ∃ text, e = .err text := by
  intro e he
  rw [Trace.mem_events] at he
  unfold verdict at he
  split at he
  · cases he
  · split at he
    · cases List.mem_singleton.mp he
      exact ⟨_, rfl⟩
    · cases he

section Step

variable (session : Session) {s : SessionStep} {i : Invocation Operation} {settings : Settings}

/-- **The three phases of a command line**: the connection, the call if there is a client, and what
follows, in which nothing is requested or printed if there was no call. -/
theorem Session.events_step (resolved : Builtin.registry.resolve s.argv = .ok i)
    (usable : s.settings = .ok settings) :
    let link := session.link s.mode
    let call := i.action.call settings.location
    ∃ later : Trace,
      (session.step s).2.trace.events =
        link.connectTrace.events ++
          ((if (s.remote.connectFailure? link).isSome then [] else [.call call]) ++ later.events) ∧
      (∀ e ∈ later.events, e.phase = 2) ∧
      ((s.remote.connectFailure? link).isSome → ∀ e ∈ later.events, e.isAnswer = false) := by
  intro link call
  let result := Failure.raised (Stage.firstFailure? (call.stages s.remote link))
  let answer : Trace :=
    if (s.remote.refusal? link).isSome then [] else Stage.trace (call.replyStages s.remote.reply)
  have answers : answer.Answers := by
    unfold answer
    split
    · intro activity hactivity
      cases hactivity
    · exact call.answers_trace s.remote.reply
  refine ⟨answer ++ Console.verdict i.command.name result, ?_, ?_, ?_⟩
  · have traced : (session.step s).2.trace =
        Console.runningNote settings.location i.command.name ::
          (s.remote.requestTrace link call ++ answer) ++ Console.verdict i.command.name result := by
      rw [session.step_of_resolved resolved usable, Call.trace_stages]
    rw [traced, Console.runningNote, List.cons_append, Trace.events_note, Trace.events_append,
      Trace.events_append, Remote.events_requestTrace, Trace.events_append, List.append_assoc,
      List.append_assoc]
  · intro e he
    rw [Trace.events_append, List.mem_append] at he
    rcases he with answered | said
    · obtain ⟨e', eq, isAnswer⟩ := answers _ (Trace.mem_events.mp answered)
      cases eq
      exact Event.phase_of_isAnswer isAnswer
    · obtain ⟨text, rfl⟩ := Console.phase_verdict _ _ e said
      rfl
  · intro refused e he
    have silent : answer = [] := by
      obtain ⟨f, hf⟩ := Option.isSome_iff_exists.mp refused
      simp [answer, Remote.refusal?, hf]
    rw [silent, List.nil_append] at he
    obtain ⟨text, rfl⟩ := Console.phase_verdict _ _ e he
    rfl

/-- All that is seen of a command line is in the order of its phases. -/
theorem Session.phased_step (resolved : Builtin.registry.resolve s.argv = .ok i)
    (usable : s.settings = .ok settings) : (session.step s).2.trace.Phased := by
  obtain ⟨later, events, last, -⟩ := session.events_step resolved usable
  have first : ∀ e ∈ (session.link s.mode).connectTrace.events, e.phase = 0 := by
    intro e he
    obtain ⟨n, rfl⟩ := Link.phase_connectTrace _ e he
    rfl
  have middle : ∀ e ∈ (if (s.remote.connectFailure? (session.link s.mode)).isSome then []
      else [Event.call (i.action.call settings.location)]), e.phase = 1 := by
    intro e he
    split at he
    · cases he
    · rw [List.mem_singleton.mp he]
      rfl
  rw [Trace.Phased, events, List.pairwise_append, List.pairwise_append]
  refine ⟨Event.pairwise_of_phase first,
    ⟨Event.pairwise_of_phase middle, Event.pairwise_of_phase last, ?_⟩, ?_⟩
  · intro e he e' he'
    rw [middle e he, last e' he']
    exact Nat.le_succ 1
  · intro e he e' _
    rw [first e he]
    exact Nat.zero_le _

/-- The constructions and the calls of a command line are those of one use of a client. -/
theorem Session.uses_step (resolved : Builtin.registry.resolve s.argv = .ok i)
    (usable : s.settings = .ok settings) :
    (session.step s).2.trace.connects = (session.link s.mode).connectTrace.connects ∧
      (session.step s).2.trace.calls =
        if (s.remote.connectFailure? (session.link s.mode)).isSome then []
        else [i.action.call settings.location] := by
  have uses := Console.usesClient_carryOut settings.location i
  rw [session.step_eq_carryOut resolved usable]
  exact ⟨uses.connects_run s.remote _, uses.calls_run s.remote _⟩

/-- A command line that succeeds has got a client. -/
theorem Session.connected_of_success (resolved : Builtin.registry.resolve s.argv = .ok i)
    (usable : s.settings = .ok settings) (success : (session.step s).2.ending = .ok .success) :
    s.remote.connectFailure? (session.link s.mode) = none := by
  rw [session.step_of_resolved resolved usable, Call.firstFailure?_stages,
    (Console.ending_raised _).1, Option.or_eq_none_iff, Remote.refusal?, Option.or_eq_none_iff]
    at success
  exact success.1.1

end Step

/-! ## One call, in its place -/

/-- **A trace makes one call at most**, and the call is in its place between the connection and the
answer. -/
structure Trace.MakesOneCall (construction : Nat → Option Failure) (call : Call) (trace : Trace) :
    Prop where
  /-- There is one construction of a client at most. -/
  constructions : trace.connects.length ≤ 1
  /-- There is no call but this one, and it is not made twice. -/
  calls : trace.calls = [] ∨ trace.calls = [call]
  /-- The call comes after every construction, and no construction before it has failed. -/
  connected : ∀ before c after, trace.events = before ++ .call c :: after →
    (∀ n, .connect n ∉ after) ∧ ∀ n, .connect n ∈ before → construction n = none
  /-- Every element is requested, and every text put on the output stream, after the call. -/
  answered : ∀ before e after, trace.events = before ++ e :: after →
    ((∃ index, e = .fetch index) ∨ ∃ text, e = .out text) → .call call ∈ before

/-- What a view selects comes from an event. -/
theorem Trace.mem_view {α : Type} {select : Event → Option α} {trace : Trace} {a : α} :
    a ∈ trace.view select ↔ ∃ e ∈ trace.events, select e = some a := by
  rw [view, List.mem_filterMap]

theorem Trace.mem_connects {trace : Trace} {n : Nat} :
    n ∈ trace.connects ↔ .connect n ∈ trace.events := by
  rw [connects, mem_view]
  constructor
  · rintro ⟨e, he, selected⟩
    cases e with
    | connect m => cases selected; exact he
    | call c | fetch index | out text | err text => cases selected
  · exact fun h => ⟨_, h, rfl⟩

theorem Trace.mem_calls {trace : Trace} {c : Call} :
    c ∈ trace.calls ↔ .call c ∈ trace.events := by
  rw [calls, mem_view]
  constructor
  · rintro ⟨e, he, selected⟩
    cases e with
    | call c' => cases selected; exact he
    | connect m | fetch index | out text | err text => cases selected
  · exact fun h => ⟨_, h, rfl⟩

/-- **A command line that carries out a command makes one call at most.** -/
theorem Session.makesOneCall (session : Session) {s : SessionStep} {i : Invocation Operation}
    (resolved : Builtin.registry.resolve s.argv = .ok i) {settings : Settings}
    (usable : s.settings = .ok settings) :
    (session.step s).2.trace.MakesOneCall s.remote.construction
      (i.action.call settings.location) := by
  obtain ⟨later, events, -, silent⟩ := session.events_step resolved usable
  obtain ⟨connects, calls⟩ := session.uses_step resolved usable
  have phased := session.phased_step resolved usable
  rw [Link.connects_connectTrace] at connects
  refine ⟨?_, ?_, ?_, ?_⟩
  · rw [connects]
    split
    · exact Nat.zero_le 1
    · exact Nat.le_refl 1
  · rw [calls]
    split
    · exact .inl rfl
    · exact .inr rfl
  · intro before c after split
    have called : c ∈ (session.step s).2.trace.calls := by
      rw [Trace.mem_calls, split]
      exact List.mem_append_right _ List.mem_cons_self
    constructor
    · intro n hn
      exact absurd (phased.le_phase split _ hn) (Nat.not_succ_le_zero 0)
    · intro n hn
      have constructed : n ∈ (session.step s).2.trace.connects := by
        rw [Trace.mem_connects, split]
        exact List.mem_append_left _ hn
      -- the only construction is that of this link, which cannot have failed if there is a call
      rw [connects] at constructed
      rw [calls] at called
      cases connected : s.remote.connectFailure? (session.link s.mode) with
      | some f => rw [connected] at called; cases called
      | none =>
        cases held : (session.link s.mode).held with
        | true => rw [held] at constructed; cases constructed
        | false =>
          rw [held] at constructed
          rw [List.mem_singleton.mp constructed]
          simpa [Remote.connectFailure?, held] using connected
  · intro before e after split shown
    have isAnswer : e.isAnswer = true := by
      rcases shown with ⟨index, rfl⟩ | ⟨text, rfl⟩ <;> rfl
    have present : e ∈ (session.step s).2.trace.events := by
      rw [split]
      exact List.mem_append_right _ List.mem_cons_self
    cases connected : s.remote.connectFailure? (session.link s.mode) with
    | none =>
      refine phased.mem_before split ?_ ?_
      · rw [← Trace.mem_calls, calls, connected]
        exact List.mem_singleton_self _
      · rw [Event.phase_of_isAnswer isAnswer]
        exact Nat.lt_succ_self 1
    | some f =>
      -- without a client nothing is requested or printed
      rw [events, connected] at present
      rcases List.mem_append.mp present with connection | answer
      · obtain ⟨n, rfl⟩ := Link.phase_connectTrace _ e connection
        cases isAnswer
      · have quiet := silent (by rw [connected]; rfl) e answer
        rw [isAnswer] at quiet
        cases quiet

/-! ## Which call it is -/

/-- **The call that a command line stands for** in a project and a region: the name of a command and its
words, and the method that is called with its arguments.  An id and a display name change places on the
way, and every word goes into the call as it is, behind the path that leads there. -/
inductive Routed (project region : String) :
    String → List String → String → List (String × String) → Prop
  | createProductSet (id displayName : String) :
    Routed project region "create_product_set" [id, displayName] "create_product_set"
      [("parent", "projects/" ++ project ++ "/locations/" ++ region),
        ("display_name", displayName), ("product_set_id", id)]
  | listProductSets :
    Routed project region "list_product_sets" [] "list_product_sets"
      [("parent", "projects/" ++ project ++ "/locations/" ++ region)]
  | getProductSet (id : String) :
    Routed project region "get_product_set" [id] "get_product_set"
      [("name", "projects/" ++ project ++ "/locations/" ++ region ++ "/productSets/" ++ id)]
  | deleteProductSet (id : String) :
    Routed project region "delete_product_set" [id] "delete_product_set"
      [("name", "projects/" ++ project ++ "/locations/" ++ region ++ "/productSets/" ++ id)]
  | listProducts (id : String) :
    Routed project region "list_products_in_product_set" [id] "list_products_in_product_set"
      [("name", "projects/" ++ project ++ "/locations/" ++ region ++ "/productSets/" ++ id)]
  | addProduct (setId productId : String) :
    Routed project region "add_product_to_product_set" [setId, productId] "add_product_to_product_set"
      [("name", "projects/" ++ project ++ "/locations/" ++ region ++ "/productSets/" ++ setId),
        ("product", "projects/" ++ project ++ "/locations/" ++ region ++ "/products/" ++ productId)]

/-- The words that an operation comes from. -/
def Operation.words : Operation → List String
  | createProductSet id displayName => [id, displayName]
  | listProductSets => []
  | getProductSet id | listProducts id | deleteProductSet id => [id]
  | addProduct setId productId => [setId, productId]

namespace Builtin

/-- The command that stands for an operation. -/
def command : Operation → Command Operation
  | .createProductSet .. => createProductSet
  | .listProductSets => listProductSets
  | .getProductSet _ => getProductSet
  | .listProducts _ => listProducts
  | .addProduct .. => addProduct
  | .deleteProductSet _ => deleteProductSet

theorem exists_two_words {args : List String} (two : args.length = 2) :
    ∃ first second, args = [first, second] := by
  obtain ⟨first, rest, rfl⟩ := List.exists_cons_of_length_eq_add_one two
  obtain ⟨second, rfl⟩ := List.length_eq_one_iff.mp (Nat.succ.inj two)
  exact ⟨first, second, rfl⟩

/-- **A command line can be read off its operation.** -/
theorem invocation_of_resolved {argv : List String} {i : Invocation Operation}
    (resolved : registry.resolve argv = .ok i) :
    i.command = command i.action ∧ i.args = i.action.words := by
  obtain ⟨word, args, -, found, -⟩ := lookup_of_resolved resolved
  have builtin : i.command ∈ commands := Registry.mem_of_mem_ofList (List.mem_of_find?_eq_some found)
  obtain ⟨c, args, fits⟩ := i
  simp only [commands, List.mem_cons, List.not_mem_nil, or_false] at builtin
  -- each command has as many words as it has parameters
  rcases builtin with rfl | rfl | rfl | rfl | rfl | rfl
  · obtain ⟨id, displayName, rfl⟩ := exists_two_words fits
    exact ⟨rfl, rfl⟩
  · obtain rfl := List.length_eq_zero_iff.mp fits
    exact ⟨rfl, rfl⟩
  · obtain ⟨id, rfl⟩ := List.length_eq_one_iff.mp fits
    exact ⟨rfl, rfl⟩
  · obtain ⟨id, rfl⟩ := List.length_eq_one_iff.mp fits
    exact ⟨rfl, rfl⟩
  · obtain ⟨setId, productId, rfl⟩ := exists_two_words fits
    exact ⟨rfl, rfl⟩
  · obtain ⟨id, rfl⟩ := List.length_eq_one_iff.mp fits
    exact ⟨rfl, rfl⟩

end Builtin

/-- Every operation is routed from its own words to its call. -/
theorem Operation.routed (place : Location) (operation : Operation) :
    Routed place.project place.region (Builtin.command operation).name operation.words
      (operation.call place).method (operation.call place).arguments := by
  cases operation with
  | createProductSet id displayName => exact .createProductSet id displayName
  | listProductSets => exact .listProductSets
  | getProductSet id => exact .getProductSet id
  | listProducts id => exact .listProducts id
  | addProduct setId productId => exact .addProduct setId productId
  | deleteProductSet id => exact .deleteProductSet id

/-- **An operation can be read off its call** in a location, whatever the strings in it are. -/
theorem Operation.call_inj (place : Location) {o o' : Operation} :
    o.call place = o'.call place ↔ o = o' := by
  cases o <;> cases o' <;> simp [call, and_comm]

/-- **A call can be read off its method and arguments.** -/
theorem Call.eq_iff (c c' : Call) :
    c = c' ↔ c.method = c'.method ∧ c.arguments = c'.arguments := by
  constructor
  · rintro rfl
    exact ⟨rfl, rfl⟩
  · rintro ⟨same, arguments⟩
    rcases c with _ | _ | ⟨_ | _⟩ | _ | _ <;> rcases c' with _ | _ | ⟨_ | _⟩ | _ | _ <;>
      simp_all [method, Query.method, Call.arguments, Query.arguments]

/-- **A command line that carries out a command makes exactly one call, and it is the right one.**  It
makes none only if it fails.  Whatever the strings of the location are, another command line makes the
same call if and only if it gives the same words to the same command. -/
theorem one_faithful_call (session : Session) (s : SessionStep) {i : Invocation Operation}
    (resolved : Builtin.registry.resolve s.argv = .ok i) {settings : Settings}
    (usable : s.settings = .ok settings) :
    let place := settings.location
    let call := i.action.call place
    let report := (session.step s).2
    report.trace.MakesOneCall s.remote.construction call ∧
    (report.ending = .ok .success → report.trace.calls = [call]) ∧
    Routed settings.project settings.region i.command.name i.args call.method call.arguments ∧
    ∀ (argv' : List String) (i' : Invocation Operation),
      Builtin.registry.resolve argv' = .ok i' →
      let call' := i'.action.call place
      (call'.method = call.method ∧ call'.arguments = call.arguments ↔
        i'.command = i.command ∧ i'.args = i.args) := by
  intro place call report
  obtain ⟨command, words⟩ := Builtin.invocation_of_resolved resolved
  refine ⟨session.makesOneCall resolved usable, ?_, ?_, ?_⟩
  · intro success
    have connected := session.connected_of_success resolved usable success
    obtain ⟨-, calls⟩ := session.uses_step resolved usable
    rw [connected] at calls
    exact calls
  · rw [command, words]
    exact i.action.routed settings.location
  · intro argv' i' resolved' call'
    obtain ⟨command', words'⟩ := Builtin.invocation_of_resolved resolved'
    rw [← Call.eq_iff, Operation.call_inj]
    constructor
    · intro same
      rw [command, command', words, words', same]
      exact ⟨rfl, rfl⟩
    · rintro ⟨sameCommand, sameWords⟩
      -- the two command lines are the same invocation
      obtain ⟨c, args, fits⟩ := i
      obtain ⟨c', args', fits'⟩ := i'
      obtain rfl : c' = c := sameCommand
      obtain rfl : args' = args := sameWords
      rfl

/-- Where words change places and an id and a project have slashes, the words of the call are still
those of the command line, and those of no other.  So they are where each goes behind a path of its
own. -/
theorem slashed_words_called :
    let place : Settings := ⟨"shop/x", "east"⟩
    let create : SessionStep :=
      ⟨["create_product_set", "a/b", "Shoes"], some place, .ofList [], .own, {}⟩
    let add : SessionStep :=
      ⟨["add_product_to_product_set", "a/b", "c"], some place, .ofList [], .own, {}⟩
    let swapped := Operation.call ⟨"shop/x", "east"⟩ (.createProductSet "Shoes" "a/b")
    (Builtin.registry.resolve create.argv = .ok ⟨Builtin.createProductSet, ["a/b", "Shoes"], rfl⟩ ∧
      create.settings = .ok place) ∧
    (Builtin.registry.resolve add.argv = .ok ⟨Builtin.addProduct, ["a/b", "c"], rfl⟩ ∧
      add.settings = .ok place) ∧
    (Session.step {} create).2.trace.calls =
      [.createProductSet "projects/shop/x/locations/east" "Shoes" "a/b"] ∧
    ¬ (Session.step {} create).2.trace.calls = [swapped] ∧
    (Session.step {} add).2.trace.calls =
      [.addProduct "projects/shop/x/locations/east/productSets/a/b"
        "projects/shop/x/locations/east/products/c"] := by
  intro place create add swapped
  have creates : Builtin.createProductSet ∈ Builtin.commands := by simp [Builtin.commands]
  have adds : Builtin.addProduct ∈ Builtin.commands := by simp [Builtin.commands]
  have created :
      Builtin.registry.resolve create.argv = .ok ⟨Builtin.createProductSet, ["a/b", "Shoes"], rfl⟩ :=
    Builtin.resolve_name creates ["a/b", "Shoes"] rfl
  have created' : Builtin.registry.resolve ["create_product_set", "Shoes", "a/b"] =
      .ok ⟨Builtin.createProductSet, ["Shoes", "a/b"], rfl⟩ :=
    Builtin.resolve_name creates ["Shoes", "a/b"] rfl
  have added : Builtin.registry.resolve add.argv = .ok ⟨Builtin.addProduct, ["a/b", "c"], rfl⟩ :=
    Builtin.resolve_name adds ["a/b", "c"] rfl
  have usable : create.settings = .ok place := rfl
  have usable' : add.settings = .ok place := rfl
  obtain ⟨-, made, -, same⟩ := one_faithful_call {} create created usable
  obtain ⟨-, made', -, -⟩ := one_faithful_call {} add added usable'
  have success : (Session.step {} create).2.ending = .ok .success := by
    have stepped := Session.step_of_resolved {} created usable
    exact (congrArg RunReport.ending stepped).trans ((Console.ending_raised _).1.mpr rfl)
  have success' : (Session.step {} add).2.ending = .ok .success := by
    have stepped := Session.step_of_resolved {} added usable'
    exact (congrArg RunReport.ending stepped).trans ((Console.ending_raised _).1.mpr rfl)
  have called := made success
  refine ⟨⟨created, usable⟩, ⟨added, usable'⟩, called, fun other => ?_, made' success'⟩
  have equal := List.singleton_inj.mp (other.symm.trans called)
  obtain ⟨-, words⟩ := (same _ _ created').mp ((Call.eq_iff _ _).mp equal)
  exact absurd words (by decide)

end CatalogConsole
