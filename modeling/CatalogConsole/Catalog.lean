import CatalogConsole.Resource
import CatalogConsole.Time.Timestamp

/-! # The catalog

What the service keeps: product sets, which visual search queries run against, and products.  Both
are shown as blocks of lines; `ProductSet.block` and `Product.block` say which.  A product set whose
timestamp has too many digits cannot be shown.
-/
namespace CatalogConsole

/-- A named collection of products. -/
structure ProductSet where
  name : String
  displayName : String := ""
  indexed : Timestamp := ⟨0, 0⟩
  deriving DecidableEq, Repr

/-- A catalog item, with labels in their order. -/
structure Product where
  name : String
  displayName : String := ""
  description : String := ""
  category : String := ""
  labels : List (String × String) := []
  deriving DecidableEq, Repr

/-- An element of a listing. -/
inductive Entry
  | productSet (s : ProductSet)
  | product (p : Product)
  deriving DecidableEq, Repr

/-- Lines of text, each ended. -/
def textOfLines (lines : List String) : String :=
  String.join (lines.map (· ++ "\n"))

/-- The lines that show a product set, if its seconds and nanoseconds can be printed. -/
def ProductSet.block (s : ProductSet) : Except ConversionError (List String) := do
  let seconds ← printedInteger s.indexed.seconds
  let nanos ← printedInteger s.indexed.nanos
  return ["Product set name: " ++ s.name,
    "Product set id: " ++ trailingId s.name,
    "Product set display name: " ++ s.displayName,
    "Product set index time:",
    "\tseconds: " ++ seconds,
    "\tnanos: " ++ nanos]

namespace Product

/-- A label with its value. -/
def labelText (label : String × String) : String :=
  label.1 ++ "=" ++ label.2

/-- All labels in brackets. -/
def labelsText (p : Product) : String :=
  "[" ++ String.intercalate ", " (p.labels.map labelText) ++ "]"

/-- The lines that show a product; an empty one ends the block. -/
def block (p : Product) : List String :=
  ["Product name: " ++ p.name,
   "Product id: " ++ trailingId p.name,
   "Product display name: " ++ p.displayName,
   "Product description: " ++ p.description,
   "Product category: " ++ p.category,
   "Product labels: " ++ p.labelsText,
   ""]

end Product

/-- The lines that show an element of a listing, if it can be shown. -/
def Entry.block : Entry → Except ConversionError (List String)
  | productSet s => s.block
  | product p => .ok p.block

@[simp] theorem textOfLines_nil : textOfLines [] = "" := by simp [textOfLines]

@[simp] theorem textOfLines_cons (l : String) (rest : List String) :
    textOfLines (l :: rest) = l ++ "\n" ++ textOfLines rest := by simp [textOfLines]

theorem textOfLines_append (first second : List String) :
    textOfLines (first ++ second) = textOfLines first ++ textOfLines second := by
  simp [textOfLines]

namespace ProductSet

/-- A product set is shown if its timestamp can be printed. -/
theorem block_eq_ok_iff {s : ProductSet} {lines : List String} :
    s.block = .ok lines ↔ s.indexed.Printable ∧ lines =
      ["Product set name: " ++ s.name,
       "Product set id: " ++ trailingId s.name,
       "Product set display name: " ++ s.displayName,
       "Product set index time:",
       "\tseconds: " ++ toString s.indexed.seconds,
       "\tnanos: " ++ toString s.indexed.nanos] := by
  rw [block, Timestamp.Printable]
  by_cases seconds : Numeral.Printable s.indexed.seconds
  · rw [printedInteger_of_printable seconds]
    by_cases nanos : Numeral.Printable s.indexed.nanos
    · rw [printedInteger_of_printable nanos]
      simp [seconds, nanos, bind, Except.bind, pure, Except.pure, eq_comm]
    · rw [printedInteger_of_not_printable nanos]
      simp [nanos, bind, Except.bind]
  · rw [printedInteger_of_not_printable seconds]
    simp [seconds, bind, Except.bind]

/-- Else there are too many digits. -/
theorem block_of_unprintable {s : ProductSet} (long : ¬ s.indexed.Printable) :
    s.block = .error .unprintable := by
  rw [block]
  by_cases seconds : Numeral.Printable s.indexed.seconds
  · rw [printedInteger_of_printable seconds,
      printedInteger_of_not_printable fun nanos => long ⟨seconds, nanos⟩]
    rfl
  · rw [printedInteger_of_not_printable seconds]
    rfl

/-- The text of its lines. -/
theorem text_of_block {s : ProductSet} {lines : List String} (shown : s.block = .ok lines) :
    textOfLines lines =
      "Product set name: " ++ s.name ++ "\nProduct set id: " ++ trailingId s.name ++
        "\nProduct set display name: " ++ s.displayName ++
        "\nProduct set index time:\n\tseconds: " ++ toString s.indexed.seconds ++
        "\n\tnanos: " ++ toString s.indexed.nanos ++ "\n" := by
  rw [(block_eq_ok_iff.mp shown).2]
  simp only [textOfLines_cons, textOfLines_nil, ← String.toList_inj, String.toList_append]
  simp

end ProductSet

/-- The text of the lines of a product, which end with an empty one. -/
theorem Product.text_block (p : Product) :
    textOfLines p.block =
      "Product name: " ++ p.name ++ "\nProduct id: " ++ trailingId p.name ++
        "\nProduct display name: " ++ p.displayName ++ "\nProduct description: " ++ p.description ++
        "\nProduct category: " ++ p.category ++ "\nProduct labels: [" ++
        String.intercalate ", " (p.labels.map fun label => label.1 ++ "=" ++ label.2) ++
        "]\n\n" := by
  rw [block, labelsText]
  simp only [textOfLines_cons, textOfLines_nil, ← String.toList_inj, String.toList_append]
  simp
  rfl

end CatalogConsole
