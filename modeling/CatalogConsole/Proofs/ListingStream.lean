import CatalogConsole.Proofs.ConsoleRun

/-! # Listings are streamed

A listing command shows each element before it asks for the next one.  After its call, what it does
is a function of the elements alone.  `Listing.blocks` are their lines, with the failure of those that
cannot be given, read or printed in place of them, and `Listing.texts` the texts before the first such
failure.  `Trace.streamed` shows them one by one, and the last thing that is asked for is the
element after them, which either fails or is not there.

The elements of a listing of product sets are read and shown as a single product set is.  So the
texts are those that the command for a single product set prints, and an element that cannot be read or
printed ends a listing as it ends that command (`listing_streamed`).

An element can come with a timestamp that cannot be printed, and the error in place of an element may be
one that cannot be reported.  In both cases nothing is said about it (`untold_elements_end_listings`).
-/
namespace CatalogConsole

/-- Each text is shown after the element with its number has been requested. -/
def Trace.streamed (index : Nat) : List String → Trace
  | [] => []
  | text :: rest => .event (.fetch index) :: .event (.out text) :: streamed (index + 1) rest

/-- What is streamed asks for one element after another. -/
theorem Trace.fetches_streamed (index : Nat) (texts : List String) :
    (streamed index texts).view Event.index? = List.range' index texts.length := by
  induction texts generalizing index with
  | nil => rfl
  | cons text rest ih =>
    have later := ih (index + 1)
    simp [streamed, later, Event.index?, List.range'_succ]

namespace Listing

/-- The lines of an element, unless it cannot be given, read or printed. -/
def block (x : Except Failure Entry) : Except Failure (List String) :=
  x.bind fun entry => entry.block.mapError .conversion

/-- The lines of the elements, one by one. -/
def blocks (elements : List (Except Failure Entry)) : List (Except Failure (List String)) :=
  elements.map block

/-- An element has lines if it is there and can be printed. -/
theorem getElem?_blocks_eq_ok {elements : List (Except Failure Entry)} {j : Nat}
    {lines : List String} (h : (blocks elements)[j]? = some (.ok lines)) :
    ∃ entry, elements[j]? = some (.ok entry) ∧ entry.block = .ok lines := by
  rw [blocks, List.getElem?_map] at h
  obtain ⟨x, found, shown⟩ := Option.map_eq_some_iff.mp h
  cases x with
  | error f => cases shown
  | ok entry =>
    refine ⟨entry, found, ?_⟩
    change entry.block.mapError Failure.conversion = _ at shown
    cases printed : entry.block with
    | ok lines' => rw [printed] at shown; exact congrArg _ (Except.ok.inj shown)
    | error reason => rw [printed] at shown; cases shown

/-- Otherwise it fails itself, or it is a product set with too many digits. -/
theorem getElem?_blocks_eq_error {elements : List (Except Failure Entry)} {k : Nat} {f : Failure}
    (h : (blocks elements)[k]? = some (.error f)) : elements[k]? = some (.error f) ∨
      ∃ set, elements[k]? = some (.ok (.productSet set)) ∧ ¬ set.indexed.Printable ∧
        f = .conversion .unprintable := by
  rw [blocks, List.getElem?_map] at h
  obtain ⟨x, found, shown⟩ := Option.map_eq_some_iff.mp h
  match x with
  | .error g =>
    cases shown
    exact .inl found
  | .ok (.product p) => cases shown
  | .ok (.productSet set) =>
    change set.block.mapError Failure.conversion = _ at shown
    by_cases printable : set.indexed.Printable
    · rw [ProductSet.block_eq_ok_iff.mpr ⟨printable, rfl⟩] at shown
      cases shown
    · rw [ProductSet.block_of_unprintable printable] at shown
      cases shown
      exact .inr ⟨set, found, printable, rfl⟩

/-- The texts of the elements before the first that fails. -/
def texts : List (Except Failure (List String)) → List String
  | .ok lines :: rest => textOfLines lines :: texts rest
  | .error _ :: _ | [] => []

/-- The failure of the first element that fails. -/
def breach? : List (Except Failure (List String)) → Option Failure
  | .ok _ :: rest => breach? rest
  | .error f :: _ => some f
  | [] => none

/-- There is a text for each element before the first that fails. -/
theorem length_texts (elements : List (Except Failure (List String))) :
    (texts elements).length = stop elements := by
  induction elements with
  | nil => rfl
  | cons x rest ih =>
    cases x with
    | error f => rfl
    | ok lines => rw [texts, List.length_cons, ih, stop_ok]

/-- It is the text of its lines. -/
theorem getElem?_texts {elements : List (Except Failure (List String))} {j : Nat}
    (h : j < stop elements) : ∃ lines, elements[j]? = some (.ok lines) ∧
      (texts elements)[j]? = some (textOfLines lines) := by
  induction elements generalizing j with
  | nil => cases h
  | cons x rest ih =>
    cases x with
    | error f => cases h
    | ok lines =>
      cases j with
      | zero => exact ⟨lines, rfl, rfl⟩
      | succ j =>
        rw [stop_ok] at h
        exact ih (Nat.lt_of_succ_lt_succ h)

/-- The element after the last that is shown is the one that fails, if there is any. -/
theorem getElem?_stop_eq (elements : List (Except Failure (List String))) :
    elements[stop elements]? = (breach? elements).map .error := by
  induction elements with
  | nil => rfl
  | cons x rest ih =>
    cases x with
    | error f => rfl
    | ok lines => rw [stop_ok]; exact ih

/-- **The text of an element that is shown**, in full. -/
theorem text_of_shown {elements : List (Except Failure Entry)} {j : Nat}
    (h : j < stop (blocks elements)) : ∃ entry, elements[j]? = some (.ok entry) ∧
      (∀ set, entry = .productSet set → (texts (blocks elements))[j]? = some (
        "Product set name: " ++ set.name ++ "\nProduct set id: " ++ trailingId set.name ++
          "\nProduct set display name: " ++ set.displayName ++
          "\nProduct set index time:\n\tseconds: " ++ toString set.indexed.seconds ++
          "\n\tnanos: " ++ toString set.indexed.nanos ++ "\n")) ∧
      (∀ p, entry = .product p → (texts (blocks elements))[j]? = some (
        "Product name: " ++ p.name ++ "\nProduct id: " ++ trailingId p.name ++
          "\nProduct display name: " ++ p.displayName ++ "\nProduct description: " ++ p.description ++
          "\nProduct category: " ++ p.category ++ "\nProduct labels: [" ++
          String.intercalate ", " (p.labels.map fun label => label.1 ++ "=" ++ label.2) ++
          "]\n\n")) := by
  obtain ⟨lines, found, text⟩ := getElem?_texts h
  obtain ⟨entry, element, shown⟩ := getElem?_blocks_eq_ok found
  refine ⟨entry, element, ?_, ?_⟩
  · rintro set rfl
    rw [text, ProductSet.text_of_block shown]
  · rintro p rfl
    cases shown
    rw [text, Product.text_block]

end Listing

/-! ## The stages of a listing -/

namespace Stage

variable {β γ : Type} (read : β → Except Failure γ) (entry : γ → Entry)

/-- Elements that are read one by one. -/
abbrev readAll (elements : List (Except Failure β)) : List (Except Failure Entry) :=
  elements.map fun x => x.bind fun element => (read element).map entry

theorem blocks_readAll_ok (element : β) (rest : List (Except Failure β)) :
    Listing.blocks (readAll read entry (.ok element :: rest)) =
      Listing.block ((read element).map entry) :: Listing.blocks (readAll read entry rest) := rfl

/-- What is printed of an element that is read is its block. -/
theorem reading_eq_printing (value : Except Failure γ) :
    reading (fun a => (entry a).block) value = printing (Listing.block (value.map entry)) := by
  cases value <;> rfl

/-- The stages of a listing fail where its first element fails. -/
theorem firstFailure?_paging (index : Nat) (elements : List (Except Failure β)) :
    firstFailure? (paging read (fun value => (entry value).block) index elements) =
      Listing.breach? (Listing.blocks (readAll read entry elements)) := by
  induction elements generalizing index with
  | nil => rfl
  | cons x rest ih =>
    cases x with
    | error f => rfl
    | ok element =>
      rw [paging, firstFailure?_cons, firstFailure?_cons, ih, reading_eq_printing, blocks_readAll_ok]
      cases Listing.block ((read element).map entry) <;> simp [printing, saying, Listing.breach?]

/-- **The stages of a listing stream its texts**, and then one more element is asked for. -/
theorem trace_paging (index : Nat) (elements : List (Except Failure β)) :
    trace (paging read (fun value => (entry value).block) index elements) =
      Trace.streamed index (Listing.texts (Listing.blocks (readAll read entry elements))) ++
        [.event (.fetch
          (index + (Listing.texts (Listing.blocks (readAll read entry elements))).length))] := by
  induction elements generalizing index with
  | nil => rfl
  | cons x rest ih =>
    cases x with
    | error f => rfl
    | ok element =>
      rw [paging, trace_cons, trace_cons, ih, reading_eq_printing, blocks_readAll_ok]
      cases Listing.block ((read element).map entry) with
      | error f => simp [printing, Listing.texts, Trace.streamed]
      | ok lines =>
        simp [printing, saying, Listing.texts, Trace.streamed, Nat.add_assoc, Nat.add_comm 1]

end Stage

namespace Call

/-- What follows the call of a listing depends on the elements of the reply alone. -/
theorem replyStages_list (query : Query) (reply : Reply) :
    let blocks := Listing.blocks (reply.elements query)
    Stage.firstFailure? ((list query).replyStages reply) = Listing.breach? blocks ∧
      Stage.trace ((list query).replyStages reply) =
        Trace.streamed 0 (Listing.texts blocks) ++
          [.event (.fetch (Listing.texts blocks).length)] := by
  cases query with
  | productSets parent =>
    rw [reply.elements_productSets parent]
    have streams := Stage.trace_paging RemoteSet.read .productSet 0 reply.productSets
    rw [Nat.zero_add] at streams
    exact ⟨Stage.firstFailure?_paging RemoteSet.read .productSet 0 reply.productSets, streams⟩
  | products name =>
    rw [reply.elements_products name]
    have streams := Stage.trace_paging Except.ok .product 0 reply.products
    rw [Nat.zero_add] at streams
    exact ⟨Stage.firstFailure?_paging Except.ok .product 0 reply.products, streams⟩

end Call

/-! ## Command lines with an answer -/

namespace Session

/-- A command line whose words name a command, for which there are settings and a client, and whose
call does not fail. -/
structure Answered (session : Session) (s : SessionStep) (i : Invocation Operation)
    (settings : Settings) : Prop where
  resolved : Builtin.registry.resolve s.argv = .ok i
  usable : s.settings = .ok settings
  connected : s.remote.connectFailure? (session.link s.mode) = none
  answered : s.remote.reply.failure = none

variable {session : Session} {s : SessionStep} {i : Invocation Operation} {settings : Settings}

/-- What is seen before the call of a command. -/
def opening (session : Session) (s : SessionStep) (i : Invocation Operation) (place : Location) :
    Trace :=
  Console.runningNote place i.command.name :: (i.action.call place).note ::
    (session.link s.mode).connectTrace

/-- A command line with an answer makes its call and goes through the stages of the reply. -/
theorem Answered.step (h : session.Answered s i settings) :
    let call := i.action.call settings.location
    let result := Failure.raised (Stage.firstFailure? (call.replyStages s.remote.reply))
    (session.step s).2 =
      ⟨Console.ending result, opening session s i settings.location ++
        .event (.call call) :: (Stage.trace (call.replyStages s.remote.reply) ++
          Console.verdict i.command.name result)⟩ := by
  intro call result
  have refused : s.remote.refusal? (session.link s.mode) = none := by
    rw [Remote.refusal?, h.connected, h.answered]
    rfl
  rw [session.step_of_resolved h.resolved h.usable, Call.firstFailure?_stages, Call.trace_stages,
    refused]
  simp [Remote.requestTrace, h.connected, opening, result, call]

/-- Nothing but the construction of a client is seen before the call. -/
theorem view_opening {α : Type} (select : Event → Option α)
    (other : ∀ n, select (.connect n) = none) (session : Session) (s : SessionStep)
    (i : Invocation Operation) (place : Location) :
    (opening session s i place).view select = [] :=
  Service.view_connectTrace select other (session.link s.mode)

/-- A listing with an answer makes its call, streams the texts of its elements, and asks for one more. -/
theorem Answered.step_list (h : session.Answered s i settings) {query : Query}
    (lists : i.action.call settings.location = .list query) :
    let blocks := Listing.blocks (s.remote.reply.elements query)
    let result := Failure.raised (Listing.breach? blocks)
    (session.step s).2 =
      ⟨Console.ending result, opening session s i settings.location ++
        .event (.call (.list query)) :: (Trace.streamed 0 (Listing.texts blocks) ++
          .event (.fetch (Listing.texts blocks).length) ::
            Console.verdict i.command.name result)⟩ := by
  intro blocks result
  obtain ⟨failure, streams⟩ := Call.replyStages_list query s.remote.reply
  have stepped := h.step
  simp only [lists, failure, streams] at stepped
  rw [stepped]
  simp [blocks, result]

/-- If the failure of an element is let through, asking for the element is the last that is seen. -/
theorem Answered.step_list_of_untold (h : session.Answered s i settings) {query : Query}
    (lists : i.action.call settings.location = .list query) {f g : Failure}
    (broken : Listing.breach? (Listing.blocks (s.remote.reply.elements query)) = some f)
    (isLeft : f.normalized.report = .error g) :
    let texts := Listing.texts (Listing.blocks (s.remote.reply.elements query))
    (session.step s).2 =
      ⟨.error g, opening session s i settings.location ++
        .event (.call (.list query)) :: (Trace.streamed 0 texts ++ [.event (.fetch texts.length)])⟩ := by
  intro texts
  obtain ⟨unsaid, leaves⟩ := (Console.told_or_let_through i.command.name f).2 g isLeft
  have stepped := h.step_list lists
  simp only [broken, leaves, unsaid] at stepped
  exact stepped

/-- The command for a single product set prints it if it can be read, and prints nothing if not. -/
theorem Answered.step_getProductSet (h : session.Answered s i settings) {id : String}
    (shows : i.action = .getProductSet id) :
    let stage := Stage.reading ProductSet.block s.remote.reply.productSet.read
    (session.step s).2.ending = Console.ending (Failure.raised stage.failure?) ∧
      (session.step s).2.trace.view (·.textFor .output) = stage.shown.view (·.textFor .output) := by
  intro stage
  have stages : (i.action.call settings.location).replyStages s.remote.reply = [stage] := by
    rw [shows]
    rfl
  rw [h.step, stages]
  constructor
  · simp
  · rw [Trace.view_append, view_opening _ fun _ => rfl, Trace.view_event, Trace.view_append,
      Console.view_verdict _ fun _ => rfl]
    simp [Event.textFor]

/-- The command for a single product set prints the text of an element that has the same product
set, and fails as the listing does if that is the element that fails. -/
theorem Answered.shows_element (h : session.Answered s i settings) {id : String}
    (shows : i.action = .getProductSet id) {blocks : List (Except Failure (List String))} {j : Nat}
    (element : blocks[j]? =
      some (Listing.block (s.remote.reply.productSet.read.map .productSet))) :
    (j < Listing.stop blocks → (session.step s).2.ending = .ok .success ∧
      (session.step s).2.trace.view (·.textFor .output) = (Listing.texts blocks)[j]?.toList) ∧
    (j = Listing.stop blocks →
      (session.step s).2.ending = Console.ending (Failure.raised (Listing.breach? blocks)) ∧
      (session.step s).2.trace.view (·.textFor .output) = []) := by
  obtain ⟨ended, printed⟩ := h.step_getProductSet shows
  have stage : Stage.reading ProductSet.block s.remote.reply.productSet.read = _ :=
    Stage.reading_eq_printing Entry.productSet s.remote.reply.productSet.read
  rw [ended, printed, stage]
  constructor
  · intro early
    obtain ⟨lines, found, text⟩ := Listing.getElem?_texts early
    rw [Option.some.inj (element.symm.trans found), text]
    exact ⟨rfl, rfl⟩
  · rintro rfl
    rw [Listing.getElem?_stop_eq] at element
    obtain ⟨f, broken, eq⟩ := Option.map_eq_some_iff.mp element
    rw [← eq, broken]
    exact ⟨rfl, rfl⟩

end Session

/-- A product set in a reply is an element of the listing, read and printed. -/
theorem Reply.getElem?_productSets {reply : Reply} {j : Nat} {r : RemoteSet} (parent : String)
    (h : reply.productSets[j]? = some (.ok r)) :
    (Listing.blocks (reply.elements (.productSets parent)))[j]? =
      some (Listing.block (r.read.map .productSet)) := by
  rw [Listing.blocks, reply.elements_productSets, List.getElem?_map, List.getElem?_map, h]
  rfl

/-- **A listing is streamed.**  After the call, each element is requested and then shown, up to the
first that cannot be given, read or printed, which is requested and ends the listing; if there is none,
the element after the last is requested.  The product sets of a listing are shown, and fail, as the
command for a single product set has it, whatever session that command is in. -/
theorem listing_streamed {session : Session} {s : SessionStep} {i : Invocation Operation}
    {settings : Settings} (answered : session.Answered s i settings) {query : Query}
    (lists : i.action.call settings.location = .list query) :
    let report := (session.step s).2
    let elements := s.remote.reply.elements query
    ∃ (k : Nat) (before : Trace) (texts : List String) (tail : Trace),
      report.trace = before ++
        .event (.call (.list query)) :: (Trace.streamed 0 texts ++ .event (.fetch k) :: tail) ∧
      before.events = (session.link s.mode).connectTrace.events ∧
      report.trace.fetches = List.range (k + 1) ∧
      texts.length = k ∧ k ≤ elements.length ∧
      (∀ j < k, ∃ entry, elements[j]? = some (.ok entry) ∧
        (∀ set, entry = .productSet set → texts[j]? = some (
          "Product set name: " ++ set.name ++ "\nProduct set id: " ++ trailingId set.name ++
            "\nProduct set display name: " ++ set.displayName ++
            "\nProduct set index time:\n\tseconds: " ++ toString set.indexed.seconds ++
            "\n\tnanos: " ++ toString set.indexed.nanos ++ "\n")) ∧
        (∀ p, entry = .product p → texts[j]? = some (
          "Product name: " ++ p.name ++ "\nProduct id: " ++ trailingId p.name ++
            "\nProduct display name: " ++ p.displayName ++
            "\nProduct description: " ++ p.description ++
            "\nProduct category: " ++ p.category ++ "\nProduct labels: [" ++
            String.intercalate ", " (p.labels.map fun label => label.1 ++ "=" ++ label.2) ++
            "]\n\n"))) ∧
      (k = elements.length → tail = [] ∧ report.ending = .ok .success) ∧
      (k < elements.length → ∃ f,
        (elements[k]? = some (.error f) ∨
          ∃ set, elements[k]? = some (.ok (.productSet set)) ∧ ¬ set.indexed.Printable ∧
            f = .conversion .unprintable) ∧
        (f.Reported → ∃ c text, f.normalized = .call c ∧ c.text = .ok text ∧
          tail = [.event (.err
            ("Error executing " ++ i.command.name ++ ": " ++ text ++ "\n"))] ∧
          report.ending = .ok .failure) ∧
        (¬ f.Reported → tail = [] ∧ ∃ g, report.ending = .error g ∧ f.LeavesAs g)) ∧
      (∀ parent, query = .productSets parent →
        ∀ (session' : Session) (s' : SessionStep) (i' : Invocation Operation) (settings' : Settings)
          (id : String), session'.Answered s' i' settings' → i'.action = .getProductSet id →
        ∀ j, s.remote.reply.productSets[j]? = some (.ok s'.remote.reply.productSet) →
          (j < k → (session'.step s').2.ending = .ok .success ∧
            (session'.step s').2.trace.view (·.textFor .output) = texts[j]?.toList) ∧
          (j = k → (session'.step s').2.ending = report.ending ∧
            (session'.step s').2.trace.view (·.textFor .output) = [])) := by
  intro report elements
  let blocks := Listing.blocks elements
  let k := Listing.stop blocks
  let texts := Listing.texts blocks
  have length : texts.length = k := Listing.length_texts blocks
  have size : blocks.length = elements.length := List.length_map _
  have stepped := answered.step_list lists
  have ended : report.ending = Console.ending (Failure.raised (Listing.breach? blocks)) :=
    congrArg RunReport.ending stepped
  have traced : report.trace = Session.opening session s i settings.location ++
      .event (.call (.list query)) :: (Trace.streamed 0 texts ++ .event (.fetch k) ::
        Console.verdict i.command.name (Failure.raised (Listing.breach? blocks))) := by
    rw [← length]
    exact congrArg RunReport.trace stepped
  have last : blocks[k]? = (Listing.breach? blocks).map .error := Listing.getElem?_stop_eq blocks
  refine ⟨k, _, texts, _, traced, rfl, ?_, length, ?_, fun j hj => Listing.text_of_shown hj, ?_, ?_, ?_⟩
  · have numbers : report.trace.view Event.index? = List.range' 0 k ++ [k] := by
      rw [traced, Trace.view_append, Session.view_opening _ fun _ => rfl, Trace.view_event,
        Trace.view_append, Trace.fetches_streamed, length, Trace.view_event,
        Console.view_verdict _ fun _ => rfl]
      rfl
    rw [List.range_succ, List.range_eq_range']
    exact numbers
  · rw [← size]
    exact List.findIdx_le_length
  · intro complete
    -- there is no element to fail
    have whole : Listing.breach? blocks = none := by
      rw [complete, ← size, List.getElem?_eq_none (Nat.le_refl _)] at last
      simpa using last.symm
    rw [ended, whole]
    exact ⟨rfl, rfl⟩
  · intro broken
    rw [← size] at broken
    rw [List.getElem?_eq_getElem broken] at last
    obtain ⟨f, found, eq⟩ := Option.map_eq_some_iff.mp last.symm
    have fails : blocks[k]? = some (.error f) := by rw [List.getElem?_eq_getElem broken, eq]
    obtain ⟨told, letThrough⟩ := Console.told_or_let_through i.command.name f
    rw [ended, found]
    refine ⟨f, Listing.getElem?_blocks_eq_error fails, fun reported => ?_, fun unreported => ?_⟩
    · obtain ⟨text, isReport⟩ := (Failure.reported_iff f).mp reported
      obtain ⟨c, becomes, shown⟩ := Failure.call_of_report isReport
      obtain ⟨line, ends⟩ := told text isReport
      refine ⟨c, text, becomes, shown, ?_, ends⟩
      rw [line, Console.failureLine, textOfLines_cons, textOfLines_nil, String.append_empty]
    · obtain ⟨g, isLeft, leaves⟩ := Failure.exists_leavesAs unreported
      obtain ⟨silent, ends⟩ := letThrough g isLeft
      exact ⟨silent, g, ends, leaves⟩
  · rintro parent rfl session' s' i' settings' id answered' shows j hj
    rw [ended]
    exact answered'.shows_element shows (Reply.getElem?_productSets parent hj)

/-- A product set that cannot be read ends a listing at its place, and in the same way the command
for it alone.  The one in front of it has been shown. -/
theorem unreadable_set_ends_listing :
    let unreadable : RemoteSet := { name := "sets/b", indexTime := .fields .null .null }
    let place : Settings := ⟨"shop", "east"⟩
    let sets : List (Except Failure RemoteSet) :=
      [.ok { name := "sets/a" }, .ok unreadable, .ok { name := "sets/c" }]
    let list : SessionStep :=
      ⟨["list_product_sets"], some place, .ofList [], .own, { reply := { productSets := sets } }⟩
    let get : SessionStep :=
      ⟨["get_product_set", "b"], some place, .ofList [], .given,
        { reply := { productSet := unreadable } }⟩
    Session.Answered {} list ⟨Builtin.listProductSets, [], rfl⟩ place ∧
      Session.Answered {} get ⟨Builtin.getProductSet, ["b"], rfl⟩ place ∧
      (Session.step {} list).2.trace.fetches = [0, 1] ∧
      (Session.step {} list).2.trace.view (·.textFor .output) =
        ["Product set name: sets/a\nProduct set id: a\nProduct set display name: \n" ++
          "Product set index time:\n\tseconds: 0\n\tnanos: 0\n"] ∧
      (Session.step {} get).2.ending = (Session.step {} list).2.ending := by
  intro unreadable place sets list get
  have lists : Builtin.listProductSets ∈ Builtin.commands := by simp [Builtin.commands]
  have gets : Builtin.getProductSet ∈ Builtin.commands := by simp [Builtin.commands]
  have listed : Session.Answered {} list ⟨Builtin.listProductSets, [], rfl⟩ place :=
    ⟨Builtin.resolve_name lists [] rfl, rfl, rfl, rfl⟩
  have got : Session.Answered {} get ⟨Builtin.getProductSet, ["b"], rfl⟩ place :=
    ⟨Builtin.resolve_name gets ["b"] rfl, rfl, rfl, rfl⟩
  have fetched : (Session.step {} list).2.trace.fetches = [0, 1] := by decide +kernel
  have printed : (Session.step {} list).2.trace.view (·.textFor .output) =
      ["Product set name: sets/a\nProduct set id: a\nProduct set display name: \n" ++
        "Product set index time:\n\tseconds: 0\n\tnanos: 0\n"] := by decide +kernel
  obtain ⟨k, _, _, _, -, -, fetches, -, -, -, -, -, single⟩ := listing_streamed listed rfl
  -- one element has been shown
  have one : k = 1 := by
    have numbers := congrArg List.length (fetches.symm.trans fetched)
    simpa using numbers
  obtain ⟨-, fails⟩ := single _ rfl _ _ _ _ "b" got rfl 1 rfl
  exact ⟨listed, got, fetched, printed, (fails one.symm).1⟩

/-- **Listings that end at an element of which nothing is said.**  The error in place of an element is a
failed call, but one without description and code, and nothing is on the error stream.  Or an element is
there and can be read, but its seconds have too many digits: it is not shown, nor is another element
requested. -/
theorem untold_elements_end_listings :
    let long : RemoteSet :=
      { name := "sets/a", indexTime := .fields (.int Numeral.firstLong) (.int 0) }
    let report (sets : List (Except Failure RemoteSet)) :=
      (Session.step {} ⟨["list_product_sets"], some ⟨"shop", "east"⟩, .ofList [], .own,
        { reply := { productSets := sets } }⟩).2
    let undescribed := report [.ok { name := "sets/a" }, .error (.call ⟨none, none⟩)]
    (undescribed.ending = .error (.conversion .textless) ∧
      undescribed.trace.view (·.textFor .error) = []) ∧
    ((∃ set, long.read = .ok set) ∧
      (report [.ok long, .ok { name := "sets/b" }]).ending = .error (.conversion .unprintable) ∧
      (report [.ok long, .ok { name := "sets/b" }]).trace.fetches = [0] ∧
      (report [.ok long, .ok { name := "sets/b" }]).trace.view (·.textFor .output) = []) := by
  have tooLong := Numeral.not_printable_firstLong
  -- what the number is does not matter beyond that
  revert tooLong
  generalize Numeral.firstLong = n
  intro tooLong long report undescribed
  have lists : Builtin.listProductSets ∈ Builtin.commands := by simp [Builtin.commands]
  let s (sets : List (Except Failure RemoteSet)) : SessionStep :=
    ⟨["list_product_sets"], some ⟨"shop", "east"⟩, .ofList [], .own,
      { reply := { productSets := sets } }⟩
  have answered (sets : List (Except Failure RemoteSet)) :
      Session.Answered {} (s sets) ⟨Builtin.listProductSets, [], rfl⟩ ⟨"shop", "east"⟩ :=
    ⟨Builtin.resolve_name lists [] rfl, rfl, rfl, rfl⟩
  have first : undescribed = _ :=
    (answered [.ok { name := "sets/a" }, .error (.call ⟨none, none⟩)]).step_list_of_untold rfl rfl rfl
  have unreadable : Listing.block (long.read.map .productSet) = .error (.conversion .unprintable) := by
    have unprintable : ProductSet.block ⟨"sets/a", "", ⟨n, 0⟩⟩ = .error .unprintable :=
      ProductSet.block_of_unprintable fun printable => tooLong printable.1
    change (ProductSet.block ⟨"sets/a", "", ⟨n, 0⟩⟩).mapError Failure.conversion = _
    rw [unprintable]
    rfl
  let query := Query.productSets (Settings.location ⟨"shop", "east"⟩).path
  let sets : List (Except Failure RemoteSet) := [.ok long, .ok { name := "sets/b" }]
  have broken : Listing.blocks ((s sets).remote.reply.elements query) =
      .error (.conversion .unprintable) ::
        Listing.blocks ((s [.ok { name := "sets/b" }]).remote.reply.elements query) :=
    congrArg (· :: _) unreadable
  have second : report sets = _ :=
    (answered sets).step_list_of_untold rfl (congrArg Listing.breach? broken) rfl
  rw [broken] at second
  refine ⟨⟨congrArg RunReport.ending first, ?_⟩, ⟨_, rfl⟩, congrArg RunReport.ending second, ?_, ?_⟩
  · rw [first, Trace.view_append, Session.view_opening _ fun _ => rfl]
    rfl
  · change (report sets).trace.view _ = _
    rw [second, Trace.view_append, Session.view_opening _ fun _ => rfl]
    rfl
  · change (report sets).trace.view _ = _
    rw [second, Trace.view_append, Session.view_opening _ fun _ => rfl]
    rfl

end CatalogConsole
