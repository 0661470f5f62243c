import Mathlib
import CatalogConsole.Proofs.DividedText
import CatalogConsole.Proofs.FailedOutput

/-! # What the text of a listing tells

A listing is written as one text, and everything in it can be read back, provided that what the
service sends does not contain the characters that divide the text.  The text is divided into lines,
the lines into blocks, which have the same number of lines for every element, and the lines of a block
each say one thing behind words that do not change.

The labels of a product share a line.  There a key ends with the first equals sign and a label with the
first comma that has a blank behind it.  So keys must not contain either of them, and values not the
second; a value may have equals signs, and commas and blanks that are apart.  The line of no labels has
nothing between its brackets, and any label puts an equals sign there.

All of this is about what the program has read and can print.  A product set with too many digits ends
its listing, and instants that differ for the service may be read as one timestamp
(`unequal_listings_print_alike`).
-/
namespace CatalogConsole

/-! ## Lines -/

/-- The last segment of a line is a line. -/
theorem Lacks.trailingId {name : String} (line : Lacks name "\n") :
    Lacks (trailingId name) "\n" := by
  rw [lacks_lineFeed_iff] at *
  intro inside
  rw [toList_trailingId, List.mem_reverse] at inside
  exact line (List.mem_reverse.mp (List.takeWhile_subset _ inside))

/-- A natural number is written in digits. -/
theorem lacks_lineFeed_natural (n : Nat) : Lacks n.repr "\n" := by
  rw [lacks_lineFeed_iff, Nat.toList_repr]
  intro inside
  exact absurd (Nat.isDigit_of_mem_toDigits (by decide) (by decide) inside) (by decide)

/-- An integer is written in digits, with a sign if it is negative. -/
theorem lacks_lineFeed_integer : ∀ n : Int, Lacks n.repr "\n"
  | .ofNat m => lacks_lineFeed_natural m
  | .negSucc m => Lacks.lineFeed_append (by decide) (lacks_lineFeed_natural (m + 1))

/-! ## Product sets -/

namespace ProductSet

/-- **A product set is plain** if its names are lines and its timestamp can be printed. -/
structure IsPlain (s : ProductSet) : Prop where
  name : Lacks s.name "\n"
  displayName : Lacks s.displayName "\n"
  printable : s.indexed.Printable

/-- The lines of a product set whose timestamp can be printed. -/
def lines (s : ProductSet) : List String :=
  ["Product set name: " ++ s.name,
    "Product set id: " ++ trailingId s.name,
    "Product set display name: " ++ s.displayName,
    "Product set index time:",
    "\tseconds: " ++ toString s.indexed.seconds,
    "\tnanos: " ++ toString s.indexed.nanos]

theorem block_of_printable {s : ProductSet} (printable : s.indexed.Printable) :
    s.block = .ok s.lines :=
  block_eq_ok_iff.mpr ⟨printable, rfl⟩

theorem length_lines (s : ProductSet) : s.lines.length = 5 + 1 := rfl

/-- They are lines if the product set is plain. -/
theorem IsPlain.forall_lines {s : ProductSet} (plain : s.IsPlain) : ∀ l ∈ s.lines, Lacks l "\n" := by
  have name := plain.name
  have id := plain.name.trailingId
  have displayName := plain.displayName
  have seconds := lacks_lineFeed_integer s.indexed.seconds
  have nanos := lacks_lineFeed_integer s.indexed.nanos
  simp only [lacks_lineFeed_iff] at name id displayName seconds nanos ⊢
  simp [lines, name, id, displayName, seconds, nanos]

/-- **The lines of a product set tell the product set**, each field in a line of its own. -/
theorem lines_inj {s t : ProductSet} (same : s.lines = t.lines) : s = t := by
  obtain ⟨name, displayName, seconds, nanos⟩ := s
  obtain ⟨name', displayName', seconds', nanos'⟩ := t
  simp only [lines, List.cons.injEq, String.append_right_inj, Int.toString_eq_repr,
    Int.repr_inj] at same
  obtain ⟨rfl, -, rfl, -, rfl, rfl, -⟩ := same
  rfl

end ProductSet

/-! ## Products -/

namespace Product

/-- **A label is plain** if it is a line, the key does not contain what ends a key, and neither the key
nor the value contains what ends a label. -/
structure IsPlainLabel (label : String × String) : Prop where
  key_line : Lacks label.1 "\n"
  value_line : Lacks label.2 "\n"
  key_sign : Lacks label.1 "="
  key_comma : Lacks label.1 ", "
  value_comma : Lacks label.2 ", "

/-- **A product is plain** if its texts are lines and its labels are plain. -/
structure IsPlain (p : Product) : Prop where
  name : Lacks p.name "\n"
  displayName : Lacks p.displayName "\n"
  description : Lacks p.description "\n"
  category : Lacks p.category "\n"
  labels : ∀ label ∈ p.labels, IsPlainLabel label

theorem length_block (p : Product) : p.block.length = 6 + 1 := rfl

theorem labelText_ne_empty (label : String × String) : labelText label ≠ "" := by
  simp [labelText]

namespace IsPlainLabel

variable {label label' : String × String}

/-- A label ends before the next one. -/
theorem lacks_comma (plain : IsPlainLabel label) : Lacks (labelText label) ", " :=
  plain.key_comma.append_single plain.value_comma rfl (by decide)

/-- A label stays in its line. -/
theorem lacks_lineFeed (plain : IsPlainLabel label) : Lacks (labelText label) "\n" :=
  (plain.key_line.lineFeed_append (by decide)).lineFeed_append plain.value_line

/-- The key of a label ends with the first equals sign. -/
theorem labelText_inj (plain : IsPlainLabel label) (plain' : IsPlainLabel label')
    (same : labelText label = labelText label') : label = label' := by
  obtain ⟨key, value⟩ := plain.key_sign.eq_of_append (by decide) plain'.key_sign same
  exact Prod.ext key value

end IsPlainLabel

namespace IsPlain

variable {p q : Product}

/-- **The line of the labels tells them all**, with their order and their repetitions. -/
theorem labels_eq (plain : p.IsPlain) (plain' : q.IsPlain) (same : p.labelsText = q.labelsText) :
    p.labels = q.labels := by
  have separable {r : Product} (hr : r.IsPlain) :
      ∀ text ∈ r.labels.map labelText, text ≠ "" ∧ Lacks text ", " := by
    simp only [List.forall_mem_map]
    exact fun label h => ⟨labelText_ne_empty label, (hr.labels label h).lacks_comma⟩
  rw [labelsText, labelsText, String.append_left_inj, String.append_right_inj] at same
  have texts := eq_of_intercalate ", " (by decide) (separable plain) (separable plain') same
  rw [List.map_eq_flatMap, List.map_eq_flatMap] at texts
  refine eq_of_flatMap (fun _ => rfl) (fun label label' h h' one => ?_) plain.labels plain'.labels
    texts
  exact h.labelText_inj h' (List.singleton_inj.mp one)

/-- The block of a plain product consists of lines. -/
theorem lines_block (plain : p.IsPlain) : ∀ l ∈ p.block, Lacks l "\n" := by
  have labels : ∀ text ∈ p.labels.map labelText, Lacks text "\n" := by
    simp only [List.forall_mem_map]
    exact fun label h => (plain.labels label h).lacks_lineFeed
  have between := lacks_lineFeed_intercalate ", " (by decide) labels
  have name := plain.name
  have id := plain.name.trailingId
  have displayName := plain.displayName
  have description := plain.description
  have category := plain.category
  simp only [lacks_lineFeed_iff] at name id displayName description category between ⊢
  simp only [block, labelsText, List.forall_mem_cons, String.toList_append, List.mem_append, name,
    id, displayName, description, category, between]
  simp

/-- **The block of a plain product tells the product.** -/
theorem block_inj (plain : p.IsPlain) (plain' : q.IsPlain) (same : p.block = q.block) : p = q := by
  simp only [block, List.cons.injEq, String.append_right_inj] at same
  obtain ⟨name, -, displayName, description, category, labelsText, -⟩ := same
  have labels := plain.labels_eq plain' labelsText
  cases p
  cases q
  rw [Product.mk.injEq]
  exact ⟨name, displayName, description, category, labels⟩

end IsPlain

end Product

/-! ## Listings -/

/-- **The text of blocks of lines tells what they show**, if each block tells it. -/
theorem eq_of_textOfBlocks {α : Type} {block : α → List String} {n : Nat}
    (length : ∀ x, (block x).length = n + 1) {Plain : α → Prop}
    (lines : ∀ x, Plain x → ∀ l ∈ block x, Lacks l "\n")
    (inj : ∀ x y, Plain x → Plain y → block x = block y → x = y) {xs ys : List α}
    (plain : ∀ x ∈ xs, Plain x) (plain' : ∀ y ∈ ys, Plain y)
    (same : textOfLines (xs.flatMap block) = textOfLines (ys.flatMap block)) : xs = ys := by
  have all {zs : List α} (hz : ∀ z ∈ zs, Plain z) : ∀ l ∈ zs.flatMap block, Lacks l "\n" := by
    intro l inside
    obtain ⟨z, member, line⟩ := List.mem_flatMap.mp inside
    exact lines z (hz z member) l line
  exact eq_of_flatMap length inj plain plain' (eq_of_textOfLines (all plain) (all plain') same)

/-- All that a command line puts on the output stream. -/
def RunReport.printed (report : RunReport) : String := textOn .output report.trace.events

namespace Listing

/-- The product sets in front of the first that cannot be printed. -/
def printable (sets : List ProductSet) : List ProductSet :=
  sets.takeWhile fun p => p.indexed.Printable

/-- A listing of product sets has the texts of those, and breaks off if there are others. -/
theorem blocks_sets (sets : List ProductSet) :
    let blocks := blocks (sets.map fun p => .ok (.productSet p))
    String.join (texts blocks) = textOfLines ((printable sets).flatMap ProductSet.lines) ∧
      ((∃ p ∈ sets, ¬ p.indexed.Printable) →
        breach? blocks = some (.conversion .unprintable)) := by
  induction sets with
  | nil => exact ⟨rfl, fun ⟨_, member, _⟩ => absurd member List.not_mem_nil⟩
  | cons p rest ih =>
    obtain ⟨printed, broken⟩ := ih
    by_cases shown : p.indexed.Printable
    · have front : blocks ((p :: rest).map fun p => .ok (.productSet p)) =
          .ok p.lines :: blocks (rest.map fun p => .ok (.productSet p)) := by
        simp [blocks, block, Except.bind, Entry.block, ProductSet.block_of_printable shown,
          Except.mapError]
      simp only [front, texts, breach?, String.join_cons, printed, printable, List.takeWhile_cons,
        shown, decide_true, if_true, List.flatMap_cons, textOfLines_append, true_and]
      intro others
      exact broken (by simpa [shown] using others)
    · have front : blocks ((p :: rest).map fun p => .ok (.productSet p)) =
          .error (.conversion .unprintable) :: blocks (rest.map fun p => .ok (.productSet p)) := by
        simp [blocks, block, Except.bind, Entry.block, ProductSet.block_of_unprintable shown,
          Except.mapError]
      rw [front]
      simp [texts, breach?, printable, shown]

/-- If all can be printed, these are all. -/
theorem printable_of_plain {sets : List ProductSet} (plain : ∀ p ∈ sets, p.IsPlain) :
    printable sets = sets :=
  List.takeWhile_eq_self_iff.mpr fun p member => decide_eq_true (plain p member).printable

/-- A listing of products has the texts of all of them. -/
theorem join_texts_products (products : List Product) :
    String.join (texts (blocks (products.map fun p => .ok (.product p)))) =
      textOfLines (products.flatMap Product.block) := by
  induction products with
  | nil => rfl
  | cons p rest ih =>
    have front : blocks ((p :: rest).map fun p => .ok (.product p)) =
        .ok p.block :: blocks (rest.map fun p => .ok (.product p)) := rfl
    rw [front, texts, String.join_cons, ih, List.flatMap_cons, textOfLines_append]

end Listing

namespace Session

/-- **A command line lists these product sets**: it has an answer, it asks for all product sets, and
these are what the elements of the answer are read as. -/
structure ListsSets (session : Session) (s : SessionStep) (sets : List ProductSet) : Prop where
  answered : ∃ i settings, session.Answered s i settings ∧ i.action = .listProductSets
  read : s.remote.reply.productSets.map (·.bind RemoteSet.read) = sets.map .ok

/-- **A command line lists these products**: it has an answer, it asks for the products in a set, and
these are the elements of the answer. -/
structure ListsProducts (session : Session) (s : SessionStep) (products : List Product) : Prop where
  answered : ∃ i settings id, session.Answered s i settings ∧ i.action = .listProducts id
  read : s.remote.reply.products = products.map .ok

variable {session : Session} {s : SessionStep}

/-- A listing prints the texts of its elements. -/
theorem Answered.printed_list {i : Invocation Operation} {settings : Settings}
    (h : session.Answered s i settings) {query : Query}
    (lists : i.action.call settings.location = .list query) :
    (session.step s).2.printed =
      String.join (Listing.texts (Listing.blocks (s.remote.reply.elements query))) := by
  have shown : (session.step s).2.trace.view (·.textFor .output) =
      Listing.texts (Listing.blocks (s.remote.reply.elements query)) := by
    rw [h.step_list lists, Trace.view_append, view_opening _ fun _ => rfl, Trace.view_event,
      Trace.view_append, Trace.view_output_streamed, Trace.view_event,
      Console.view_verdict _ fun _ => rfl]
    simp [Event.textFor]
  exact congrArg String.join shown

section Sets
variable {sets : List ProductSet}

/-- What a listing of product sets is asked for, and its elements. -/
theorem ListsSets.elements_eq (h : session.ListsSets s sets) :
    ∃ i settings query, session.Answered s i settings ∧
      i.action.call settings.location = .list query ∧
      s.remote.reply.elements query = sets.map fun p => .ok (.productSet p) := by
  obtain ⟨⟨i, settings, answered, action⟩, read⟩ := h
  refine ⟨i, settings, .productSets settings.location.path, answered, by rw [action]; rfl, ?_⟩
  have each : (fun x : Except Failure RemoteSet => x.bind fun r => r.read.map Entry.productSet) =
      fun x => (x.bind RemoteSet.read).map .productSet := by
    funext x
    cases x <;> rfl
  have all := congrArg (List.map (Except.map Entry.productSet)) read
  rw [List.map_map, List.map_map] at all
  rw [Reply.elements_productSets, each]
  exact all

/-- It prints those in front of the first that cannot be printed, -/
theorem ListsSets.printed_eq (h : session.ListsSets s sets) :
    (session.step s).2.printed =
      textOfLines ((Listing.printable sets).flatMap ProductSet.lines) := by
  obtain ⟨i, settings, query, answered, lists, elements⟩ := h.elements_eq
  rw [answered.printed_list lists, elements, (Listing.blocks_sets sets).1]

/-- at which it ends. -/
theorem ListsSets.ending_eq (h : session.ListsSets s sets)
    (long : ∃ p ∈ sets, ¬ p.indexed.Printable) :
    (session.step s).2.ending = .error (.conversion .unprintable) := by
  obtain ⟨i, settings, query, answered, lists, elements⟩ := h.elements_eq
  have broken := (Listing.blocks_sets sets).2 long
  rw [← elements] at broken
  exact congrArg RunReport.ending (answered.step_list_of_untold lists broken rfl)

end Sets

/-- A listing of products prints theirs. -/
theorem ListsProducts.printed_eq {products : List Product} (h : session.ListsProducts s products) :
    (session.step s).2.printed = textOfLines (products.flatMap Product.block) := by
  obtain ⟨⟨i, settings, id, answered, action⟩, read⟩ := h
  have asks : i.action.call settings.location =
      .list (.products (settings.location.productSetPath id)) := by
    rw [action]
    rfl
  have whole : s.remote.reply.elements (.products (settings.location.productSetPath id)) =
      products.map fun p => .ok (.product p) := by
    rw [Reply.elements, read, List.map_map]
    rfl
  rw [answered.printed_list asks, whole, Listing.join_texts_products]

/-- Any product sets can be listed. -/
theorem listsSets_exists (session : Session) (sets : List ProductSet) :
    ∃ s, session.ListsSets s sets := by
  let remote (p : ProductSet) : RemoteSet :=
    ⟨p.name, p.displayName, .fields (.int p.indexed.seconds) (.int p.indexed.nanos)⟩
  let reply : Reply := { productSets := sets.map fun p => .ok (remote p) }
  let place : Settings := ⟨"shop", "east"⟩
  let s : SessionStep := ⟨["list_product_sets"], some place, .ofList [], .given, { reply }⟩
  have lists : Builtin.listProductSets ∈ Builtin.commands := by simp [Builtin.commands]
  have answered : session.Answered s ⟨Builtin.listProductSets, [], rfl⟩ place :=
    ⟨Builtin.resolve_name lists [] rfl, rfl, rfl, rfl⟩
  refine ⟨s, ⟨_, place, answered, rfl⟩, ?_⟩
  rw [List.map_map]
  rfl

/-- Any products can be listed. -/
theorem listsProducts_exists (session : Session) (products : List Product) :
    ∃ s, session.ListsProducts s products := by
  let reply : Reply := { products := products.map .ok }
  let place : Settings := ⟨"shop", "east"⟩
  let s : SessionStep :=
    ⟨["list_products_in_product_set", "x"], some place, .ofList [], .given, { reply }⟩
  have lists : Builtin.listProducts ∈ Builtin.commands := by simp [Builtin.commands]
  have answered : session.Answered s ⟨Builtin.listProducts, ["x"], rfl⟩ place :=
    ⟨Builtin.resolve_name lists ["x"] rfl, rfl, rfl, rfl⟩
  exact ⟨s, ⟨_, place, "x", answered, rfl⟩, rfl⟩

end Session

/-- **The text of a listing tells what is listed.**  Two listings of plain product sets print the same
text only if they list the same product sets, in the same order, and so do two listings of plain
products, whatever else is different about them.  A product set with too many digits is not told: its
listing prints what the listing of those in front of it does, and ends there.  Any product sets and any
products can be listed. -/
theorem listing_text_tells_elements :
    (∀ (session session' : Session) (s s' : SessionStep) (sets sets' : List ProductSet),
      session.ListsSets s sets → session'.ListsSets s' sets' →
      (∀ p ∈ sets, p.IsPlain) → (∀ p ∈ sets', p.IsPlain) →
      ((session.step s).2.printed = (session'.step s').2.printed ↔ sets = sets')) ∧
    (∀ (session session' : Session) (s s' : SessionStep) (products products' : List Product),
      session.ListsProducts s products → session'.ListsProducts s' products' →
      (∀ p ∈ products, p.IsPlain) → (∀ p ∈ products', p.IsPlain) →
      ((session.step s).2.printed = (session'.step s').2.printed ↔ products = products')) ∧
    (∀ (session session' : Session) (s s' : SessionStep) (sets : List ProductSet),
      session.ListsSets s sets → session'.ListsSets s' (Listing.printable sets) →
      (∃ p ∈ sets, ¬ p.indexed.Printable) →
      (session.step s).2.printed = (session'.step s').2.printed ∧
        (session.step s).2.ending = .error (.conversion .unprintable)) ∧
    ∀ session : Session, (∀ sets, ∃ s, session.ListsSets s sets) ∧
      ∀ products, ∃ s, session.ListsProducts s products := by
  refine ⟨?_, ?_, ?_, fun session => ⟨session.listsSets_exists, session.listsProducts_exists⟩⟩
  · intro session session' s s' sets sets' lists lists' plain plain'
    rw [lists.printed_eq, lists'.printed_eq, Listing.printable_of_plain plain,
      Listing.printable_of_plain plain']
    constructor
    · exact eq_of_textOfBlocks ProductSet.length_lines (fun _ => ProductSet.IsPlain.forall_lines)
        (fun _ _ _ _ => ProductSet.lines_inj) plain plain'
    · exact congrArg fun sets : List ProductSet => textOfLines (sets.flatMap ProductSet.lines)
  · intro session session' s s' products products' lists lists' plain plain'
    rw [lists.printed_eq, lists'.printed_eq]
    constructor
    · exact eq_of_textOfBlocks Product.length_block (fun _ => Product.IsPlain.lines_block)
        (fun _ _ => Product.IsPlain.block_inj) plain plain'
    · exact congrArg fun products : List Product => textOfLines (products.flatMap Product.block)
  · intro session session' s s' sets lists lists' long
    have front : Listing.printable (Listing.printable sets) = Listing.printable sets :=
      List.takeWhile_idem ..
    rw [lists.printed_eq, lists'.printed_eq, front]
    exact ⟨rfl, lists.ending_eq long⟩

/-- A label with an empty key and an empty value is seen, and labels with commas, blanks and equals
signs next to those that divide them are read as what they are. -/
theorem empty_label_is_seen :
    let bare : Product := { name := "shoe" }
    let labelled : Product := { name := "shoe", labels := [("", "")] }
    let crowded : Product := { name := "shoe", labels := [("size,", "4,5,"), (" ", "=6")] }
    let sets : List ProductSet := [{ name := "sets/a", indexed := ⟨-1, 0⟩ }]
    bare.IsPlain ∧ labelled.IsPlain ∧ crowded.IsPlain ∧ (∀ p ∈ sets, p.IsPlain) ∧
      ∃ s₁ s₂ s₃ s₄ : SessionStep,
        Session.ListsProducts {} s₁ [bare, crowded] ∧
        Session.ListsProducts {} s₂ [labelled, crowded] ∧
        Session.ListsSets {} s₃ sets ∧ Session.ListsSets {} s₄ (sets ++ sets) ∧
        (Session.step {} s₁).2.printed ≠ (Session.step {} s₂).2.printed ∧
        (Session.step {} s₃).2.printed ≠ (Session.step {} s₄).2.printed := by
  intro bare labelled crowded sets
  have bare_plain : bare.IsPlain :=
    ⟨by decide, by decide, by decide, by decide, fun _ h => by cases h⟩
  have labelled_plain : labelled.IsPlain := by
    refine ⟨by decide, by decide, by decide, by decide, ?_⟩
    exact List.forall_mem_singleton.mpr ⟨by decide, by decide, by decide, by decide, by decide⟩
  have crowded_plain : crowded.IsPlain := by
    refine ⟨by decide, by decide, by decide, by decide, List.forall_mem_cons.mpr ⟨?_, ?_⟩⟩
    · exact ⟨by decide, by decide, by decide, by decide, by decide⟩
    · exact List.forall_mem_singleton.mpr ⟨by decide, by decide, by decide, by decide, by decide⟩
  have sets_plain : ∀ p ∈ sets, p.IsPlain :=
    List.forall_mem_singleton.mpr ⟨by decide, by decide, by decide⟩
  obtain ⟨ofSets, ofProducts, -, all⟩ := listing_text_tells_elements
  obtain ⟨s₁, lists₁⟩ := (all {}).2 [bare, crowded]
  obtain ⟨s₂, lists₂⟩ := (all {}).2 [labelled, crowded]
  obtain ⟨s₃, lists₃⟩ := (all {}).1 sets
  obtain ⟨s₄, lists₄⟩ := (all {}).1 (sets ++ sets)
  refine ⟨bare_plain, labelled_plain, crowded_plain, sets_plain, s₁, s₂, s₃, s₄, lists₁, lists₂,
    lists₃, lists₄, fun same => ?_, fun same => ?_⟩
  · have equal := (ofProducts {} {} s₁ s₂ _ _ lists₁ lists₂
      (List.forall_mem_cons.mpr ⟨bare_plain, List.forall_mem_singleton.mpr crowded_plain⟩)
      (List.forall_mem_cons.mpr ⟨labelled_plain, List.forall_mem_singleton.mpr crowded_plain⟩)).mp same
    exact absurd equal (by decide)
  · have equal := (ofSets {} {} s₃ s₄ _ _ lists₃ lists₄ sets_plain
      (List.forall_mem_append.mpr ⟨sets_plain, sets_plain⟩)).mp same
    exact absurd equal (by decide)

/-- **Listings that are not told apart.**  Two product sets with too many digits in their seconds are
different, and nothing is printed of either.  And two instants that the service sends can be read as
the same timestamp: the second before the start of 1970 and the one after it. -/
theorem unequal_listings_print_alike :
    let listed (sets : List RemoteSet) : RunReport :=
      (Session.step {} ⟨["list_product_sets"], some ⟨"shop", "east"⟩, .ofList [], .given,
        { reply := { productSets := sets.map .ok } }⟩).2
    let long (n : Int) : RemoteSet := { name := "sets/a", indexTime := .fields (.int n) (.int 0) }
    let sent (seconds : Int) : RemoteSet :=
      { name := "sets/a", indexTime := .instant seconds 500000000 }
    let limit : Int := Numeral.firstLong
    ((listed [long limit]).printed = "" ∧ (listed [long (limit + 1)]).printed = "" ∧
      (long limit).read ≠ (long (limit + 1)).read) ∧
    (listed [sent (-1)]).printed = (listed [sent 0]).printed ∧
    (listed [sent (-1)]).printed =
      "Product set name: sets/a\nProduct set id: a\nProduct set display name: \n" ++
        "Product set index time:\n\tseconds: 0\n\tnanos: 500000000\n" := by
  intro listed long sent limit
  have lists : Builtin.listProductSets ∈ Builtin.commands := by simp [Builtin.commands]
  have printed (sets : List RemoteSet) (read : List ProductSet)
      (h : sets.map RemoteSet.read = read.map .ok) :
      (listed sets).printed = textOfLines ((Listing.printable read).flatMap ProductSet.lines) := by
    refine Session.ListsSets.printed_eq ⟨⟨⟨Builtin.listProductSets, [], rfl⟩, ⟨"shop", "east"⟩,
      ⟨Builtin.resolve_name lists [] rfl, rfl, rfl, rfl⟩, rfl⟩, ?_⟩
    rw [List.map_map]
    exact h
  have unprinted (n : Int) (tooLong : ¬ Numeral.Printable n) : (listed [long n]).printed = "" := by
    have nothing : Listing.printable [⟨"sets/a", "", ⟨n, 0⟩⟩] = [] :=
      List.takeWhile_cons_of_neg fun fits => tooLong (of_decide_eq_true fits).1
    rw [printed [long n] [⟨"sets/a", "", ⟨n, 0⟩⟩] rfl, nothing]
    rfl
  have unequal (n m : Int) (h : n ≠ m) : (long n).read ≠ (long m).read := fun same =>
    h (congrArg (fun p : ProductSet => p.indexed.seconds) (Except.ok.inj same))
  have next : ¬ Numeral.Printable (limit + 1) :=
    Numeral.not_printable_of_firstLong_le (Int.le_of_lt (Int.lt_succ limit))
  have early := printed [sent (-1)] [⟨"sets/a", "", ⟨0, 500000000⟩⟩] rfl
  have late := printed [sent 0] [⟨"sets/a", "", ⟨0, 500000000⟩⟩] rfl
  refine ⟨⟨unprinted limit Numeral.not_printable_firstLong, unprinted (limit + 1) next,
    unequal limit (limit + 1) (Int.ne_of_lt (Int.lt_succ limit))⟩, early.trans late.symm, ?_⟩
  rw [early]
  decide +kernel

end CatalogConsole
