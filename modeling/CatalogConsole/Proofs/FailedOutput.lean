import CatalogConsole.Proofs.Gates
import CatalogConsole.Proofs.ListingStream

/-! # What a failed command line has printed

A command that prints one reply prints it last, so if it fails it has printed nothing.  A listing is
another matter: each element is printed before the next is asked for, and what is printed cannot be
taken back when the service fails later.  So the rule that the output stream carries nothing for a
failed command holds but for listings that break off, and of those it carries just the elements that
came before (`failed_run_output`).
-/
namespace CatalogConsole

/-- Of a stream its texts are printed. -/
theorem Trace.view_output_streamed (index : Nat) (texts : List String) :
    (streamed index texts).view (·.textFor .output) = texts := by
  induction texts generalizing index with
  | nil => rfl
  | cons text rest ih =>
    rw [streamed, view_event, view_event, ih (index + 1)]
    rfl

/-- Lines that cannot be printed leave no text. -/
theorem Stage.view_output_of_printing {lines : Except Failure (List String)} {f : Failure}
    (fails : firstFailure? [printing lines] = some f) :
    (trace [printing lines]).view (·.textFor .output) = [] := by
  cases lines with
  | error g => rfl
  | ok lines => cases fails

namespace Call

/-- A reply on which a command fails has not been printed, unless it is a listing. -/
theorem view_output_replyStages {c : Call} {reply : Reply} {f : Failure}
    (fails : Stage.firstFailure? (c.replyStages reply) = some f) :
    (Stage.trace (c.replyStages reply)).view (·.textFor .output) = [] ∨
      ∃ query, c = .list query ∧ Listing.breach? (Listing.blocks (reply.elements query)) = some f ∧
        (Stage.trace (c.replyStages reply)).view (·.textFor .output) =
          Listing.texts (Listing.blocks (reply.elements query)) := by
  match c with
  | createProductSet .. | getProductSet _ => exact .inl (Stage.view_output_of_printing fails)
  | addProduct .. | deleteProductSet _ => cases fails
  | list query =>
    obtain ⟨failure, streams⟩ := replyStages_list query reply
    refine .inr ⟨query, rfl, failure.symm.trans fails, ?_⟩
    rw [streams, Trace.view_append, Trace.view_output_streamed]
    exact List.append_nil _

/-- **What a command has printed when it fails**: nothing, or the elements of a listing before the one
that fails. -/
theorem view_output_of_failed {c : Call} {remote : Remote} {link : Link} {f : Failure}
    (fails : Stage.firstFailure? (c.stages remote link) = some f) :
    (Stage.trace (c.stages remote link)).view (·.textFor .output) = [] ∨
      ∃ query, c = .list query ∧ remote.refusal? link = none ∧
        Listing.breach? (Listing.blocks (remote.reply.elements query)) = some f ∧
        (Stage.trace (c.stages remote link)).view (·.textFor .output) =
          Listing.texts (Listing.blocks (remote.reply.elements query)) := by
  rw [firstFailure?_stages] at fails
  rw [trace_stages, Trace.view_append, Service.view_output_requestTrace, List.nil_append]
  cases refused : remote.refusal? link with
  | some g => exact .inl rfl
  | none =>
    rw [refused, Option.none_or] at fails
    rcases view_output_replyStages fails with nothing | ⟨query, lists, breach, texts⟩
    · exact .inl nothing
    · exact .inr ⟨query, lists, rfl, breach, texts⟩

end Call

/-- A command that is carried out and has an exit code other than 0 has been stopped by a failure that
is reported. -/
theorem Console.reported_of_ending {failure? : Option Failure} {code : ExitCode}
    (ends : ending (Failure.raised failure?) = .ok code) (failed : code ≠ .success) :
    code = .failure ∧ ∃ f, failure? = some f ∧ f.Reported := by
  cases failure? with
  | none => exact absurd (Except.ok.inj ends).symm failed
  | some f =>
    obtain ⟨told, letThrough⟩ := told_or_let_through "" f
    by_cases reported : f.Reported
    · obtain ⟨text, isReport⟩ := (Failure.reported_iff f).mp reported
      rw [(told text isReport).2] at ends
      exact ⟨(Except.ok.inj ends).symm, f, rfl, reported⟩
    · obtain ⟨g, isLeft, -⟩ := Failure.exists_leavesAs reported
      rw [(letThrough g isLeft).2] at ends
      cases ends

/-- **A run with an exit code other than 0 has printed nothing, unless a listing broke off.**  In that
case its call had been answered, the element at which it broke off failed with something that is
reported, and the run has printed the elements before that one, each of them once and in order. -/
theorem failed_run_output (argv : List String) (given : Option Settings) (env : Environment)
    (remote : Remote) (link : Link) :
    let outcome := (Console.run argv given env).run remote link
    let printed := outcome.trace.view (·.textFor .output)
    ∀ code, outcome.result = .ok code → code ≠ .success →
      printed = [] ∨
      code = .failure ∧ ∃ i settings query,
        Builtin.registry.resolve argv = .ok i ∧
        given.elim (Settings.load env) .ok = .ok settings ∧
        i.action.call settings.location = .list query ∧
        remote.refusal? link = none ∧
        (∃ f, (remote.reply.elements query)[printed.length]? = some (.error f) ∧ f.Reported) ∧
        ∀ j < printed.length, ∃ entry, (remote.reply.elements query)[j]? = some (.ok entry) ∧
          (∀ set, entry = .productSet set → printed[j]? = some (
            "Product set name: " ++ set.name ++ "\nProduct set id: " ++ trailingId set.name ++
              "\nProduct set display name: " ++ set.displayName ++
              "\nProduct set index time:\n\tseconds: " ++ toString set.indexed.seconds ++
              "\n\tnanos: " ++ toString set.indexed.nanos ++ "\n")) ∧
          (∀ p, entry = .product p → printed[j]? = some (
            "Product name: " ++ p.name ++ "\nProduct id: " ++ trailingId p.name ++
              "\nProduct display name: " ++ p.displayName ++
              "\nProduct description: " ++ p.description ++
              "\nProduct category: " ++ p.category ++ "\nProduct labels: [" ++
              String.intercalate ", " (p.labels.map fun label => label.1 ++ "=" ++ label.2) ++
              "]\n\n")) := by
  intro outcome printed code ends failed
  rcases Console.run_cases argv given env remote link with
    ⟨text, -, helped⟩ | ⟨_, text, -, stopped, -⟩ | ⟨i, settings, resolved, usable, ran⟩
  · have success : outcome.result = .ok .success := congrArg Outcome.result helped
    exact absurd (Except.ok.inj (ends.symm.trans success)) failed
  · left
    exact congrArg (fun o => o.trace.view (·.textFor .output)) stopped
  · let call := i.action.call settings.location
    have shown : printed = (Stage.trace (call.stages remote link)).view (·.textFor .output) :=
      (congrArg (fun o => o.trace.view (·.textFor .output)) ran).trans
        (Console.view_output_around ..)
    have ended := (congrArg Outcome.result ran).symm.trans ends
    obtain ⟨isFailure, f, fails, reported⟩ := Console.reported_of_ending ended failed
    rcases Call.view_output_of_failed fails with nothing | ⟨query, lists, answered, breach, texts⟩
    · exact .inl (shown.trans nothing)
    · let blocks := Listing.blocks (remote.reply.elements query)
      have delivered : printed = Listing.texts blocks := shown.trans texts
      have count : printed.length = Listing.stop blocks := by
        rw [delivered, Listing.length_texts]
      have last : blocks[printed.length]? = some (.error f) := by
        rw [count, Listing.getElem?_stop_eq, breach]
        rfl
      refine .inr ⟨isFailure, i, settings, query, resolved, usable, lists, answered,
        ⟨f, ?_, reported⟩, ?_⟩
      · -- an element that cannot be printed is not reported
        rcases Listing.getElem?_blocks_eq_error last with broken | ⟨_, -, -, rfl⟩
        · exact broken
        · exact absurd reported id
      · intro j hj
        rw [count] at hj
        rw [delivered]
        exact Listing.text_of_shown hj

/-- A listing of products that breaks off at its third element has printed two. -/
theorem third_product_missing :
    let products : List (Except Failure Product) :=
      [.ok { name := "a" }, .ok { name := "b" },
        .error (.library (.api .serviceUnavailable (some "later") none)), .ok { name := "c" }]
    let outcome :=
      (Console.run ["list_products_in_product_set", "x"] (some ⟨"shop", "east"⟩) (.ofList [])).run
        { reply := { products } } ⟨true, 0⟩
    let printed := outcome.trace.view (·.textFor .output)
    outcome.result = .ok .failure ∧
      printed =
        ["Product name: a\nProduct id: a\nProduct display name: \nProduct description: \n" ++
            "Product category: \nProduct labels: []\n\n",
          "Product name: b\nProduct id: b\nProduct display name: \nProduct description: \n" ++
            "Product category: \nProduct labels: []\n\n"] ∧
      ∃ query f, (Reply.elements { products } query)[2]? = some (.error f) ∧ f.Reported := by
  intro products outcome printed
  have lists : Builtin.listProducts ∈ Builtin.commands := by simp [Builtin.commands]
  have resolved : Builtin.registry.resolve ["list_products_in_product_set", "x"] =
      .ok ⟨Builtin.listProducts, ["x"], rfl⟩ := Builtin.resolve_name lists ["x"] rfl
  have ran : outcome = _ :=
    Console.run_eq_stages resolved rfl _ _
  have ends : outcome.result = .ok .failure := by rw [ran]; rfl
  have texts : printed =
      ["Product name: a\nProduct id: a\nProduct display name: \nProduct description: \n" ++
          "Product category: \nProduct labels: []\n\n",
        "Product name: b\nProduct id: b\nProduct display name: \nProduct description: \n" ++
          "Product category: \nProduct labels: []\n\n"] := by
    change outcome.trace.view _ = _
    rw [ran]
    decide +kernel
  have two : printed.length = 2 := congrArg List.length texts
  refine ⟨ends, texts, ?_⟩
  rcases failed_run_output ["list_products_in_product_set", "x"] (some ⟨"shop", "east"⟩) (.ofList [])
      { reply := { products } } ⟨true, 0⟩ .failure ends (by decide) with
    nothing | ⟨-, _, _, query, -, -, -, -, ⟨f, broken, reported⟩, -⟩
  · have none : printed = [] := nothing
    rw [none] at two
    cases two
  · have third : (Reply.elements { products } query)[printed.length]? = some (.error f) := broken
    rw [two] at third
    exact ⟨query, f, third, reported⟩

/-- **A failed command can have printed**: a listing whose second element the service fails to give
ends with exit code 1, and its first element has been printed. -/
theorem broken_listing_has_printed :
    let sets : List (Except Failure RemoteSet) :=
      [.ok { name := "sets/a" }, .error (.library (.api .notFound (some "gone") none))]
    let outcome :=
      (Console.run ["list_product_sets"] (some ⟨"shop", "east"⟩) (.ofList [])).run
        { reply := { productSets := sets } } ⟨true, 0⟩
    outcome.result = .ok .failure ∧
      outcome.trace.view (·.textFor .output) =
        ["Product set name: sets/a\nProduct set id: a\nProduct set display name: \n" ++
          "Product set index time:\n\tseconds: 0\n\tnanos: 0\n"] ∧
      outcome.trace.view (·.textFor .output) ≠ [] := by
  intro sets outcome
  have lists : Builtin.listProductSets ∈ Builtin.commands := by simp [Builtin.commands]
  have resolved : Builtin.registry.resolve ["list_product_sets"] =
      .ok ⟨Builtin.listProductSets, [], rfl⟩ := Builtin.resolve_name lists [] rfl
  have ran : outcome = _ :=
    Console.run_eq_stages resolved rfl _ _
  have printed : outcome.trace.view (·.textFor .output) =
      ["Product set name: sets/a\nProduct set id: a\nProduct set display name: \n" ++
        "Product set index time:\n\tseconds: 0\n\tnanos: 0\n"] := by
    rw [ran]
    decide +kernel
  refine ⟨by rw [ran]; rfl, printed, ?_⟩
  rw [printed]
  exact List.cons_ne_nil _ _

end CatalogConsole
