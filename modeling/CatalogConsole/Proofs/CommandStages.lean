import CatalogConsole.Proofs.ClientLink

/-! # The stages of a command

A command goes through stages, one after another: the construction of a client if none is held, the
call, and then the reply.  A reply with a product set is converted and printed; a listing is fetched
element by element, each of which is converted and printed before the next is fetched.
`Call.stages` lists the stages from the remote side alone, each with what is seen of it and with its
failure, and without any of the actions that carry them out.

The main result, `run_execute`, says that a command is its stages: what is seen are the stages up to
the first that fails, the result is that failure without errors of the client library, and the link
is that of one connection.
-/
namespace CatalogConsole

open Service

/-- A stage of a command: what is seen of it, and its failure if it fails. -/
structure Stage where
  shown : Trace
  failure? : Option Failure

namespace Stage

/-- The first failure of stages in a row. -/
def firstFailure? (stages : List Stage) : Option Failure := stages.findSome? (·.failure?)

/-- What is seen of stages in a row, up to the first that fails. -/
def trace : List Stage → Trace
  | [] => []
  | stage :: rest => stage.shown ++ if stage.failure?.isSome then [] else trace rest

@[simp] theorem firstFailure?_nil : firstFailure? [] = none := rfl

@[simp] theorem firstFailure?_cons (stage : Stage) (rest : List Stage) :
    firstFailure? (stage :: rest) = stage.failure?.or (firstFailure? rest) := by
  cases h : stage.failure? <;> simp [firstFailure?, h]

@[simp] theorem trace_nil : trace [] = [] := rfl

@[simp] theorem trace_cons (stage : Stage) (rest : List Stage) :
    trace (stage :: rest) = stage.shown ++ if stage.failure?.isSome then [] else trace rest := rfl

/-- Lines are printed. -/
def saying (lines : List String) : Stage := ⟨[.event (.out (textOfLines lines))], none⟩

/-- Lines are printed, unless there is a failure in their place. -/
def printing : Except Failure (List String) → Stage
  | .error f => ⟨[], some f⟩
  | .ok lines => saying lines

/-- What is read is printed, unless it cannot be read or printed. -/
def reading {γ : Type} (lines : γ → Except ConversionError (List String))
    (value : Except Failure γ) : Stage :=
  printing (value.bind fun a => (lines a).mapError .conversion)

/-- The elements of a listing, from the one with this number on: each is fetched, read and printed,
and in the end the element after the last is asked for. -/
def paging {β γ : Type} (read : β → Except Failure γ)
    (lines : γ → Except ConversionError (List String)) (index : Nat) :
    List (Except Failure β) → List Stage
  | [] => [⟨[.event (.fetch index)], none⟩]
  | .error f :: rest => ⟨[.event (.fetch index)], some f⟩ :: paging read lines (index + 1) rest
  | .ok element :: rest =>
    ⟨[.event (.fetch index)], none⟩ :: reading lines (read element) ::
      paging read lines (index + 1) rest

/-- What is seen of stages in a row comes from one of them. -/
theorem exists_of_mem_trace {stages : List Stage} {activity : Activity}
    (h : activity ∈ trace stages) : ∃ stage ∈ stages, activity ∈ stage.shown := by
  induction stages with
  | nil => cases h
  | cons stage rest ih =>
    rw [trace_cons, List.mem_append] at h
    rcases h with now | later
    · exact ⟨stage, List.mem_cons_self, now⟩
    · split at later
      · cases later
      · obtain ⟨stage', hstage', hactivity⟩ := ih later
        exact ⟨stage', List.mem_cons_of_mem _ hstage', hactivity⟩

end Stage

namespace Call

/-- The stages that follow the call when it has been answered. -/
def replyStages (reply : Reply) : Call → List Stage
  | createProductSet .. =>
    [.reading (fun s => .ok ["Product set name: " ++ s.name]) reply.productSet.read]
  | getProductSet _ => [.reading ProductSet.block reply.productSet.read]
  | list (.productSets _) => Stage.paging RemoteSet.read ProductSet.block 0 reply.productSets
  | list (.products _) => Stage.paging .ok (fun p => .ok p.block) 0 reply.products
  | addProduct .. => [.saying ["Product added to product set."]]
  | deleteProductSet _ => [.saying ["Product set deleted"]]

/-- The stages of the command that makes this call. -/
def stages (c : Call) (remote : Remote) (link : Link) : List Stage :=
  ⟨[c.note], none⟩ ::
    (if link.held then []
      else [⟨[connectNote, .event (.connect link.attempts)], remote.construction link.attempts⟩]) ++
    ⟨[.event (.call c)], remote.reply.failure⟩ :: c.replyStages remote.reply

/-- The first failure is that of the request, or else that of the reply. -/
theorem firstFailure?_stages (c : Call) (remote : Remote) (link : Link) :
    Stage.firstFailure? (c.stages remote link) =
      (remote.refusal? link).or (Stage.firstFailure? (c.replyStages remote.reply)) := by
  cases held : link.held <;>
    simp [stages, Remote.refusal?, Remote.connectFailure?, held, Option.or_assoc]

/-- Up to the reply there is the trace of the request. -/
theorem trace_stages (c : Call) (remote : Remote) (link : Link) :
    Stage.trace (c.stages remote link) =
      remote.requestTrace link c ++
        if (remote.refusal? link).isSome then [] else Stage.trace (c.replyStages remote.reply) := by
  cases held : link.held with
  | true =>
    cases answered : remote.reply.failure <;>
      simp [stages, Remote.requestTrace, Remote.refusal?, Remote.connectFailure?, Link.connectTrace,
        held, answered]
  | false =>
    cases made : remote.construction link.attempts <;> cases answered : remote.reply.failure <;>
      simp [stages, Remote.requestTrace, Remote.refusal?, Remote.connectFailure?, Link.connectTrace,
        held, made, answered]

end Call

/-! ## What is seen of an answer -/

/-- An event that can follow the answer to a call: an element is requested, or text is put on the
output stream. -/
def Event.isAnswer : Event → Bool
  | fetch _ | out _ => true
  | connect _ | call _ | err _ => false

/-- Nothing but what can follow the answer to a call. -/
def Trace.Answers (trace : Trace) : Prop :=
  ∀ activity ∈ trace, ∃ e : Event, activity = .event e ∧ e.isAnswer = true

theorem Trace.answers_event {e : Event} (h : e.isAnswer = true) : Answers [.event e] := by
  intro activity hactivity
  exact ⟨e, List.mem_singleton.mp hactivity, h⟩

namespace Stage

theorem answers_printing (lines : Except Failure (List String)) :
    (printing lines).shown.Answers := by
  cases lines with
  | error f => intro activity hactivity; cases hactivity
  | ok lines => exact Trace.answers_event rfl

theorem answers_paging {β γ : Type} (read : β → Except Failure γ)
    (lines : γ → Except ConversionError (List String)) (index : Nat)
    (elements : List (Except Failure β)) :
    ∀ stage ∈ paging read lines index elements, stage.shown.Answers := by
  induction elements generalizing index with
  | nil =>
    intro stage hstage
    rw [List.mem_singleton.mp hstage]
    exact Trace.answers_event rfl
  | cons x rest ih =>
    intro stage hstage
    cases x with
    | error f =>
      rcases List.mem_cons.mp hstage with rfl | later
      · exact Trace.answers_event rfl
      · exact ih (index + 1) stage later
    | ok element =>
      rcases List.mem_cons.mp hstage with rfl | later
      · exact Trace.answers_event rfl
      · rcases List.mem_cons.mp later with rfl | later
        · exact answers_printing _
        · exact ih (index + 1) stage later

end Stage

namespace Call

theorem answers_replyStages (c : Call) (reply : Reply) :
    ∀ stage ∈ c.replyStages reply, stage.shown.Answers := by
  match c with
  | createProductSet .. | getProductSet _ =>
    intro stage hstage
    rw [List.mem_singleton.mp hstage]
    exact Stage.answers_printing _
  | addProduct .. | deleteProductSet _ =>
    intro stage hstage
    rw [List.mem_singleton.mp hstage]
    exact Trace.answers_event rfl
  | list (.productSets _) => exact Stage.answers_paging _ _ _ _
  | list (.products _) => exact Stage.answers_paging _ _ _ _

/-- **After its answer** a command requests elements and prints, and does nothing else. -/
theorem answers_trace (c : Call) (reply : Reply) : (Stage.trace (c.replyStages reply)).Answers := by
  intro activity hactivity
  obtain ⟨stage, hstage, shown⟩ := Stage.exists_of_mem_trace hactivity
  exact c.answers_replyStages reply stage hstage activity shown

end Call

/-! ## Commands that print one reply -/

/-- What is printed goes through one stage. -/
theorem run_display (lines : Except ConversionError (List String)) (remote : Remote) (link : Link) :
    (Action.display lines).run remote link =
      let stage := Stage.printing (lines.mapError .conversion)
      ⟨Failure.raised stage.failure?, link, stage.shown⟩ := by
  cases lines <;> rfl

/-- A request whose result is printed. -/
theorem run_request_display {γ : Type} (c : Call) (read : Reply → Except Failure γ)
    (lines : γ → Except ConversionError (List String)) (remote : Remote) (link : Link) :
    (request c read >>= fun value => Action.display (lines value)).run remote link =
      ⟨Failure.raised
          ((remote.refusal? link).or (Stage.reading lines (read remote.reply)).failure?),
        remote.linkAfter link,
        remote.requestTrace link c ++
          if (remote.refusal? link).isSome then []
          else (Stage.reading lines (read remote.reply)).shown⟩ := by
  rw [Action.run_bind, run_request]
  cases refused : remote.refusal? link with
  | some f => simp [Outcome.andThen]
  | none =>
    cases value : read remote.reply with
    | error f => simp [Outcome.andThen, Stage.reading, Stage.printing, Except.bind]
    | ok a => simp [Outcome.andThen, Stage.reading, Except.bind, run_display]

/-! ## Listings -/

namespace Listing

/-- All elements from the one with this number on are fetched and printed. -/
def printFrom (index : Nat) (rest : List (Except Failure Entry)) : Action Unit := do
  let _ ← drainFrom (fun entry => Action.display entry.block) index rest
  return ()

theorem printFrom_nil (index : Nat) : printFrom index [] = Action.perform (.fetch index) := by
  simp [printFrom, drainFrom]

theorem printFrom_ok (index : Nat) (entry : Entry) (rest : List (Except Failure Entry)) :
    printFrom index (.ok entry :: rest) =
      Action.perform (.fetch index) >>= fun _ =>
        Action.display entry.block >>= fun _ => printFrom (index + 1) rest := by
  simp [printFrom, drainFrom]

theorem printFrom_error (index : Nat) (f : Failure) (rest : List (Except Failure Entry)) :
    printFrom index (.error f :: rest) =
      Action.perform (.fetch index) >>= fun _ => Action.fail f.normalized := by
  simp only [printFrom, drainFrom, bind_assoc, Action.fail_bind]

/-- **Printing a listing** goes through the stages of its elements, which are read one by one. -/
theorem run_printFrom {β γ : Type} (read : β → Except Failure γ) (entry : γ → Entry)
    (index : Nat) (elements : List (Except Failure β)) (remote : Remote) (link : Link) :
    let stages := Stage.paging read (fun value => (entry value).block) index elements
    (printFrom index (elements.map fun x => x.bind fun element => (read element).map entry)).run
        remote link =
      ⟨Failure.raised (Stage.firstFailure? stages), link, Stage.trace stages⟩ := by
  -- by induction on the elements; only one that is read and printed is followed by others
  induction elements generalizing index with
  | nil => rw [List.map_nil, printFrom_nil]; rfl
  | cons x rest ih =>
    cases x with
    | error f =>
      rw [List.map_cons, Except.bind, printFrom_error]
      rfl
    | ok element =>
      cases value : read element with
      | error f =>
        simp only [List.map_cons, Except.bind, value, Except.map]
        rw [printFrom_error]
        simp [Stage.paging, Stage.reading, Stage.printing, Except.bind, value, Action.perform]
      | ok a =>
        simp only [List.map_cons, Except.bind, value, Except.map]
        rw [printFrom_ok]
        have later := ih (index + 1)
        simp only [Except.bind, Except.map] at later
        simp only [Action.run_bind]
        cases shown : (entry a).block with
        | error reason =>
          have refused : (Except.error reason).mapError Failure.conversion =
            (.error (.conversion reason) : Except Failure (List String)) := rfl
          simp [Stage.paging, Stage.reading, Stage.printing, Except.bind, value, shown, refused,
            Action.perform]
        | ok lines =>
          have kept : (Except.ok lines).mapError Failure.conversion = .ok lines := rfl
          simp [Stage.paging, Stage.reading, Stage.printing, Stage.saying, Except.bind, value, shown,
            kept, Action.perform, Action.say, later]

end Listing

/-- The product sets of a reply are read one by one. -/
theorem Reply.elements_productSets (reply : Reply) (parent : String) :
    reply.elements (.productSets parent) =
      reply.productSets.map fun x => x.bind fun r => r.read.map .productSet := by
  refine List.map_congr_left fun x _ => ?_
  cases x with
  | error f => rfl
  | ok r =>
    cases h : r.read <;>
      simp [Reply.readElement, h, bind, Except.bind, Except.map, pure, Except.pure]

/-- The products of a reply need not be read. -/
theorem Reply.elements_products (reply : Reply) (name : String) :
    reply.elements (.products name) =
      reply.products.map fun x => x.bind fun p => (Except.ok p).map .product := by
  refine List.map_congr_left fun x _ => ?_
  cases x <;> rfl

/-- A listing is printed once its call has been answered. -/
theorem run_execute_list (query : Query) (remote : Remote) (link : Link) :
    let opening := remote.requestTrace link (.list query)
    let printed :=
      (Listing.printFrom 0 (remote.reply.elements query)).run remote (remote.linkAfter link)
    query.execute.run remote link =
      match remote.refusal? link with
      | some f => ⟨.error f.normalized, remote.linkAfter link, opening⟩
      | none => ⟨printed.result, printed.link, opening ++ printed.trace⟩ := by
  intro opening printed
  -- nothing is made of the elements once they are printed
  have opened : query.execute = Listing.start query >>= Listing.printFrom 0 := by
    simp only [Query.execute, Listing.drain, bind_assoc]
    rfl
  rw [opened, Action.run_bind, Listing.start, run_request]
  cases refused : remote.refusal? link with
  | some f => simp [Outcome.andThen, opening]
  | none => simp [Outcome.andThen, opening, printed]

/-- A command that prints one reply goes through one stage with it. -/
theorem run_execute_reading {γ : Type} {c : Call} {read : Reply → Except Failure γ}
    (lines : γ → Except ConversionError (List String))
    (executes : c.execute = request c read >>= fun value => Action.display (lines value))
    {remote : Remote} (replies : c.replyStages remote.reply = [.reading lines (read remote.reply)])
    (link : Link) :
    c.execute.run remote link =
      ⟨Failure.raised (Stage.firstFailure? (c.stages remote link)), remote.linkAfter link,
        Stage.trace (c.stages remote link)⟩ := by
  rw [Call.firstFailure?_stages, Call.trace_stages, executes, run_request_display, replies]
  simp

/-- A listing goes through the stages of its elements. -/
theorem run_execute_paging {β γ : Type} {query : Query} {read : β → Except Failure γ}
    {entry : γ → Entry} {remote : Remote} {elements : List (Except Failure β)}
    (converted : remote.reply.elements query =
      elements.map fun x => x.bind fun element => (read element).map entry)
    (replies : (Call.list query).replyStages remote.reply =
      Stage.paging read (fun value => (entry value).block) 0 elements)
    (link : Link) :
    (Call.list query).execute.run remote link =
      ⟨Failure.raised (Stage.firstFailure? ((Call.list query).stages remote link)),
        remote.linkAfter link, Stage.trace ((Call.list query).stages remote link)⟩ := by
  have printed := Listing.run_printFrom read entry 0 elements remote (remote.linkAfter link)
  rw [Call.firstFailure?_stages, Call.trace_stages, replies]
  change query.execute.run remote link = _
  rw [run_execute_list, converted, printed]
  cases remote.refusal? link <;> simp

/-- **A command is its stages.** -/
theorem run_execute (c : Call) (remote : Remote) (link : Link) :
    c.execute.run remote link =
      ⟨Failure.raised (Stage.firstFailure? (c.stages remote link)), remote.linkAfter link,
        Stage.trace (c.stages remote link)⟩ := by
  match c with
  | .createProductSet .. =>
    exact run_execute_reading (fun s : ProductSet => .ok ["Product set name: " ++ s.name]) rfl rfl link
  | .getProductSet _ => exact run_execute_reading ProductSet.block rfl rfl link
  | .addProduct .. =>
    exact run_execute_reading (fun _ : Unit => .ok ["Product added to product set."]) rfl rfl link
  | .deleteProductSet _ =>
    exact run_execute_reading (fun _ : Unit => .ok ["Product set deleted"]) rfl rfl link
  | .list (.productSets parent) =>
    exact run_execute_paging (remote.reply.elements_productSets parent) rfl link
  | .list (.products name) =>
    exact run_execute_paging (remote.reply.elements_products name) rfl link

end CatalogConsole
