import CatalogConsole.Proofs.ListingStream
import CatalogConsole.Service.Desk

/-! # It does not matter where a failure strikes

The same failure can be raised by the construction of a client, by a call, or by the first element of
a listing (`Call.Struck`).  On its way out it passes one or two places that normalize failures, and
because to normalize twice is to normalize once, it comes out the same.  By then nothing has been
printed, and the log has been sent the note of the command, that of the call, and, if there was a
connection, that of the connection.  So apart from the connection the three cannot be told apart on
the two streams, and neither can they by the ending (`failure_point_immaterial`).
-/
namespace CatalogConsole

open Service

variable {α β : Type}

/-- **Where a failure can strike** before anything has come of a call. -/
inductive Call.Struck (c : Call) (f : Failure) (remote : Remote) (link : Link) : Prop
  /-- There is no client yet, and its construction fails. -/
  | constructing (free : link.held = false)
      (failed : remote.construction link.attempts = some f)
  /-- There is a client, and the call fails. -/
  | calling (connected : remote.connectFailure? link = none)
      (refused : remote.reply.failure = some f)
  /-- The call is answered, and the first element of the listing fails. -/
  | fetching (query : Query) (lists : c = .list query)
      (connected : remote.connectFailure? link = none) (answered : remote.reply.failure = none)
      (broken : (remote.reply.elements query).head? = some (.error f))

/-! ## In the service -/

namespace Service

variable {c : Call} {read : Reply → Except Failure α} {remote : Remote} {link : Link}

/-- What comes of a failure that is raised in one guarded place. -/
theorem run_guarded_fail (operation resource : String) (f : Failure) (remote : Remote)
    (link : Link) :
    ((guarded operation resource (Action.fail f) : Action α).run remote link).result =
      .error f.normalized := rfl

/-- A request that is refused is the end of whatever it is the start of. -/
theorem result_request_of_refused {f : Failure} (refused : remote.refusal? link = some f)
    (next : α → Action β) :
    ((request c read >>= next).run remote link).result = .error f.normalized := by
  have failed : ((request c read).run remote link).result = .error f.normalized := by
    rw [run_request, refused]
  rw [Action.run_bind_of_error failed]

/-- One that is answered goes on with what has been read. -/
theorem result_request_of_answered (answered : remote.refusal? link = none) {a : α}
    (value : read remote.reply = .ok a) (next : α → Action β) :
    ((request c read >>= next).run remote link).result =
      ((next a).run remote (remote.linkAfter link)).result := by
  have ok : ((request c read).run remote link).result = .ok a := by
    rw [run_request, answered, value]
    rfl
  rw [Action.run_bind_of_ok ok, run_request]

end Service

namespace Call.Struck

variable {c : Call} {f : Failure} {remote : Remote} {link : Link}

/-- Either the request is refused, or it is that of a listing whose first element fails. -/
theorem refused_or_broken (struck : c.Struck f remote link) :
    remote.refusal? link = some f ∨
      remote.refusal? link = none ∧ ∃ query rest,
        c = .list query ∧ remote.reply.elements query = .error f :: rest := by
  cases struck with
  | constructing free failed =>
    left
    simp [Remote.refusal?, Remote.connectFailure?, free, failed]
  | calling connected refused =>
    left
    rw [Remote.refusal?, connected, refused]
    rfl
  | fetching query lists connected answered broken =>
    right
    obtain ⟨rest, elements⟩ := List.head?_eq_some_iff.mp broken
    refine ⟨?_, query, rest, lists, elements⟩
    rw [Remote.refusal?, connected, answered]
    rfl

/-- **A listing that is struck fails**, whatever is to be done with its elements. -/
theorem result_start {query : Query} (struck : (Call.list query).Struck f remote link)
    {next : List (Except Failure Entry) → Action β}
    (fails : ∀ rest link, ((next (.error f :: rest)).run remote link).result =
      .error f.normalized) :
    ((Listing.start query >>= next).run remote link).result = .error f.normalized := by
  rcases struck.refused_or_broken with refused | ⟨answered, query', rest, lists, elements⟩
  · exact result_request_of_refused refused next
  · obtain rfl : query = query' := Call.list.inj lists
    refine (result_request_of_answered answered ?_ next).trans (fails rest _)
    exact congrArg Except.ok elements

/-- **Any other operation that is struck fails.** -/
theorem result_request (struck : c.Struck f remote link) (single : ∀ query, c ≠ .list query)
    (read : Reply → Except Failure α) (next : α → Action β) :
    ((request c read >>= next).run remote link).result = .error f.normalized := by
  rcases struck.refused_or_broken with refused | ⟨-, query, -, lists, -⟩
  · exact result_request_of_refused refused next
  · exact absurd lists (single query)

end Call.Struck

/-- The query of a listing whose call has still to be made. -/
def Listing.query? : Listing → Option Query
  | fresh query => some query
  | running .. | finished => none

namespace Desk

/-- The call that a request makes, if it makes one. -/
def call? (desk : Desk) : Request → Option Call
  | .create id displayName => some ((Operation.createProductSet id displayName).call desk.place)
  | .get id => some ((Operation.getProductSet id).call desk.place)
  | .add setId productId => some ((Operation.addProduct setId productId).call desk.place)
  | .delete id => some ((Operation.deleteProductSet id).call desk.place)
  | .next handle | .collect handle => (desk.listing handle).query?.map .list
  | .connect | .listProductSets _ | .listProducts .. | .close _ => none

variable {desk : Desk} {remote : Remote} {f : Failure}

/-- What fails for a listing fails for the request of its next element. -/
theorem result_next {handle : String}
    (failed : ((desk.listing handle).next.run remote desk.link).result = .error f) :
    (desk.next remote handle).2.result = .error f := by
  rcases h : (desk.listing handle).next.run remote desk.link with ⟨g | found, link, trace⟩
  · rw [h] at failed
    obtain rfl : g = f := Except.error.inj failed
    rw [next_of_error h]
    rfl
  · rw [h] at failed
    cases failed

/-- A listing with a query is fresh. -/
theorem listing_of_query {handle : String} {c : Call}
    (calls : (desk.listing handle).query?.map Call.list = some c) :
    ∃ query, desk.listing handle = .fresh query ∧ c = .list query := by
  cases l : desk.listing handle with
  | fresh query =>
    rw [l] at calls
    exact ⟨query, rfl, (Option.some.inj calls).symm⟩
  | running index rest => rw [l] at calls; cases calls
  | finished => rw [l] at calls; cases calls

/-- **A request that is struck fails** with the failure normalized once. -/
theorem result_of_struck {request : Request} {c : Call} (calls : desk.call? request = some c)
    (struck : c.Struck f remote desk.link) :
    (desk.step ⟨request, remote⟩).2.result = .error f.normalized := by
  cases request with
  | create id displayName =>
    obtain rfl := Option.some.inj calls
    exact struck.result_request (fun _ h => by cases h) _ _
  | get id =>
    obtain rfl := Option.some.inj calls
    exact struck.result_request (fun _ h => by cases h) _ _
  | add setId productId =>
    obtain rfl := Option.some.inj calls
    exact struck.result_request (fun _ h => by cases h) _ _
  | delete id =>
    obtain rfl := Option.some.inj calls
    exact struck.result_request (fun _ h => by cases h) _ _
  | next handle =>
    obtain ⟨query, fresh, rfl⟩ := listing_of_query calls
    refine result_next ?_
    rw [fresh]
    exact struck.result_start fun rest link => rfl
  | collect handle =>
    obtain ⟨query, fresh, rfl⟩ := listing_of_query calls
    have failed : ((desk.listing handle).collect.run remote desk.link).result =
        .error f.normalized := by
      rw [fresh]
      exact struck.result_start fun rest link => rfl
    exact congrArg Outcome.result (Action.run_bind_of_error failed)
  | connect | listProductSets | listProducts | close => cases calls

/-- Neither does it matter for the connection on its own. -/
theorem result_connect (free : desk.link.held = false)
    (failed : remote.construction desk.link.attempts = some f) :
    (desk.step ⟨.connect, remote⟩).2.result = .error f.normalized := by
  have refused : (connect.run remote desk.link).result = .error f.normalized := by
    rw [run_connect]
    simp [Remote.connectFailure?, free, failed]
  exact congrArg Outcome.result (Action.run_bind_of_error refused)

end Desk

/-! ## At the console -/

namespace Call.Struck

variable {c : Call} {f : Failure} {remote : Remote} {link : Link}

/-- The first failure among the stages of a command that is struck is the one that strikes it. -/
theorem firstFailure? (struck : c.Struck f remote link) :
    Stage.firstFailure? (c.stages remote link) = some f := by
  rw [firstFailure?_stages]
  rcases struck.refused_or_broken with refused | ⟨answered, query, rest, rfl, elements⟩
  · rw [refused, Option.some_or]
  · rw [answered, Option.none_or, (replyStages_list query remote.reply).1, elements]
    rfl

/-- What is seen of it is the request, and the fetching of the first element if that is struck. -/
theorem trace (struck : c.Struck f remote link) :
    Stage.trace (c.stages remote link) = remote.requestTrace link c ∨
      Stage.trace (c.stages remote link) =
        remote.requestTrace link c ++ [.event (.fetch 0)] := by
  rw [trace_stages]
  rcases struck.refused_or_broken with refused | ⟨answered, query, rest, rfl, elements⟩
  · left
    rw [refused, Option.isSome_some, if_pos rfl, List.append_nil]
  · right
    rw [answered, (replyStages_list query remote.reply).2, elements]
    rfl

/-- Nothing of it is printed. -/
theorem view_output (struck : c.Struck f remote link) :
    (Stage.trace (c.stages remote link)).view (·.textFor .output) = [] := by
  rcases struck.trace with eq | eq
  · rw [eq, view_output_requestTrace]
  · rw [eq, Trace.view_append, view_output_requestTrace]
    rfl

/-- On the error stream there is only the note of its call, the connection apart. -/
theorem complaints (struck : c.Struck f remote link) (log : Log) :
    textOn .error ((Stage.trace (c.stages remote link)).withoutConnection.shown log) =
      textOn .error (Trace.shown log [c.note]) := by
  -- a call and a fetch are not on the stream
  have request : textOn .error ((remote.requestTrace link c).withoutConnection.shown log) =
      textOn .error (Trace.shown log [c.note]) := by
    rw [Remote.withoutConnection_requestTrace]
    split
    · rfl
    · rw [note, Trace.shown_note, Trace.shown_note, textOn_append, textOn_append, Trace.shown_event,
        textOn_cons]
      rfl
  rcases struck.trace with eq | eq
  · rw [eq, request]
  · rw [eq, Trace.withoutConnection_append, Trace.shown_append, textOn_append, request]
    exact String.append_empty

end Call.Struck

namespace Session

variable {s : SessionStep} {i : Invocation Operation} {settings : Settings} {f : Failure}

/-- **A command line whose command is struck** ends as the failure has it, prints nothing, and says
what the failure is after the notes of the command and of its call. -/
theorem step_of_struck (session : Session) (resolved : Builtin.registry.resolve s.argv = .ok i)
    (usable : s.settings = .ok settings)
    (struck : (i.action.call settings.location).Struck f s.remote (session.link s.mode)) :
    let report := (session.step s).2
    let notes : Trace :=
      [Console.runningNote settings.location i.command.name, (i.action.call settings.location).note]
    let verdict := Console.verdict i.command.name (Failure.raised (some f))
    report.ending = Console.ending (Failure.raised (some f)) ∧
      report.trace.view (·.textFor .output) = [] ∧
      ∀ log, textOn .error (report.trace.withoutConnection.seen log) =
        textOn .error (notes.shown log) ++ textOn .error (verdict.shown log) := by
  intro report notes verdict
  have stepped := session.step_of_resolved resolved usable
  simp only [struck.firstFailure?] at stepped
  have traced : report.trace = Console.runningNote settings.location i.command.name ::
      Stage.trace ((i.action.call settings.location).stages s.remote (session.link s.mode)) ++
        verdict := congrArg RunReport.trace stepped
  refine ⟨congrArg RunReport.ending stepped, ?_, ?_⟩
  · rw [traced, Console.view_output_around, struck.view_output]
  · intro log
    rw [Trace.seen, textOn_joined, traced, List.cons_append,
      Trace.withoutConnection_cons (Console.isConnection_runningNote _ _),
      Trace.withoutConnection_append, Console.withoutConnection_verdict]
    simp only [notes, verdict, Console.runningNote, Trace.shown_note, Trace.shown_append, textOn_append,
      struck.complaints, String.append_assoc]

end Session

/-- **It does not matter where a failure strikes.**  Two command lines with the same command, words
and settings that are struck by one failure end in the same way, print nothing, and say the same, the
connection apart.  What a request on the service fails with, wherever it is struck, is what becomes of
the failure in one guarded place. -/
theorem failure_point_immaterial (f : Failure) :
    (∀ (i : Invocation Operation) (settings : Settings) (session session' : Session)
        (s s' : SessionStep),
      Builtin.registry.resolve s.argv = .ok i → s.settings = .ok settings →
      Builtin.registry.resolve s'.argv = .ok i → s'.settings = .ok settings →
      (i.action.call settings.location).Struck f s.remote (session.link s.mode) →
      (i.action.call settings.location).Struck f s'.remote (session'.link s'.mode) →
      let report := (session.step s).2
      let report' := (session'.step s').2
      report.ending = report'.ending ∧
      report.trace.view (·.textFor .output) = [] ∧ report'.trace.view (·.textFor .output) = [] ∧
      ∀ log, textOn .error (report.trace.withoutConnection.seen log) =
        textOn .error (report'.trace.withoutConnection.seen log)) ∧
    ∀ (desk : Desk) (request : Request) (remote : Remote) (operation resource : String),
      let failed := (guarded operation resource (Action.fail f) : Action Answer)
      let result := (desk.step ⟨request, remote⟩).2.result
      (∀ c, desk.call? request = some c → c.Struck f remote desk.link →
        result = (failed.run remote desk.link).result) ∧
      (request = .connect → desk.link.held = false →
        remote.construction desk.link.attempts = some f →
        result = (failed.run remote desk.link).result) := by
  constructor
  · intro i settings session session' s s' resolved usable resolved' usable' struck struck' report
      report'
    obtain ⟨ending, output, complaints⟩ := session.step_of_struck resolved usable struck
    obtain ⟨ending', output', complaints'⟩ := session'.step_of_struck resolved' usable' struck'
    refine ⟨ending.trans ending'.symm, output, output', fun log => ?_⟩
    exact (complaints log).trans (complaints' log).symm
  · intro desk request remote operation resource failed result
    have once : (failed.run remote desk.link).result = .error f.normalized :=
      run_guarded_fail operation resource f remote desk.link
    rw [once]
    constructor
    · intro c calls struck
      exact Desk.result_of_struck calls struck
    · rintro rfl free broken
      exact Desk.result_connect free broken

/-- A status code that is infinite is trouble of the same kind, whether the construction of a client
comes with it or the first element of a listing. -/
theorem infinite_code_strikes_alike :
    let f : Failure := .library (.general [.text "quota"] (some (.real (.infinite false))))
    let line (mode : ServiceMode) (remote : Remote) : SessionStep :=
      ⟨["list_product_sets"], some ⟨"shop", "east"⟩, .ofList [], mode, remote⟩
    let unconnected := (Session.step {} (line .own { construction := fun _ => some f })).2
    let broken :=
      (Session.step {} (line .given { reply := { productSets := [.error f, .ok {}] } })).2
    let said (report : RunReport) :=
      textOn .error (report.trace.withoutConnection.seen (.setup { verbose := true }))
    let desk : Desk := ⟨⟨"shop", "east"⟩, {}, []⟩
    unconnected.ending = .error (.conversion .infinite) ∧ broken.ending = unconnected.ending ∧
      said broken = said unconnected ∧
      (desk.step ⟨.get "shoes", { construction := fun _ => some f }⟩).2.result =
        .error (.conversion .infinite) := by
  intro f line unconnected broken said desk
  have builtin : Builtin.listProductSets ∈ Builtin.commands := by simp [Builtin.commands]
  have resolved : Builtin.registry.resolve ["list_product_sets"] =
      .ok ⟨Builtin.listProductSets, [], rfl⟩ := Builtin.resolve_name builtin [] rfl
  have constructing : (Call.list (.productSets "projects/shop/locations/east")).Struck f
      { construction := fun _ => some f } {} := .constructing rfl rfl
  have fetching : (Call.list (.productSets "projects/shop/locations/east")).Struck f
      { reply := { productSets := [.error f, .ok {}] } } ⟨true, 0⟩ := .fetching _ rfl rfl rfl rfl
  obtain ⟨console, service⟩ := failure_point_immaterial f
  obtain ⟨same, -, -, alike⟩ := console _ ⟨"shop", "east"⟩ {} {} (line .given _) (line .own _)
    resolved rfl resolved rfl fetching constructing
  obtain ⟨ending, -⟩ := Session.step_of_struck {} (s := line .own _) resolved rfl constructing
  refine ⟨ending, same, alike _, ?_⟩
  exact (service desk (.get "shoes") _ "" "").1 _ rfl (.constructing rfl rfl)

end CatalogConsole
