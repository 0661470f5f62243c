import Mathlib.Data.List.Infix
import CatalogConsole.Catalog

/-! # Texts divided by marks

Texts are written one after another with a mark between them or behind each of them: a line feed ends
a line, an equals sign ends the key of a label, a comma and a blank stand between two labels.  If the
mark does not occur in the texts, they can be read back (`eq_of_textOfLines`, `eq_of_intercalate`).

A mark of several characters needs care.  It may not occur in a text, and yet begin there, as `, `
does with the comma of `a,`.  But it does not occur before the place where it has been put: if it did,
the two would overlap, and then a character would occur in it twice (`Lacks.nothing_behind`).  So a
text that lacks the mark ends where the mark is found first, whatever follows (`Lacks.eq_of_append`).
-/
namespace CatalogConsole

/-- A mark does not occur in a text. -/
def Lacks (s mark : String) : Prop := ¬ mark.toList <:+: s.toList

instance (s mark : String) : Decidable (Lacks s mark) := inferInstanceAs (Decidable (¬ _))

/-- A text without line feeds. -/
theorem lacks_lineFeed_iff {s : String} : Lacks s "\n" ↔ '\n' ∉ s.toList :=
  not_congr (List.singleton_infix_iff _ _)

namespace Lacks

variable {s t mark : String}

/-- There is no line feed in two texts together if there is none in either. -/
theorem lineFeed_append (hs : Lacks s "\n") (ht : Lacks t "\n") : Lacks (s ++ t) "\n" := by
  rw [lacks_lineFeed_iff] at *
  rw [String.toList_append, List.mem_append]
  exact not_or_intro hs ht

/-- A text that lacks a mark has no place for it. -/
theorem ne_append (lacks : Lacks s mark) (t rest : String) : s ≠ t ++ mark ++ rest := by
  rintro rfl
  exact lacks ⟨t.toList, rest.toList, by simp⟩

/-- Two texts are joined by a character that the mark does not have.  So the mark does not occur where
they meet. -/
theorem append_single (hs : Lacks s mark) (ht : Lacks t mark) {sign : String} {c : Char}
    (single : sign.toList = [c]) (other : c ∉ mark.toList) : Lacks (s ++ sign ++ t) mark := by
  have whole : (s ++ sign ++ t).toList = s.toList ++ c :: t.toList := by simp [single]
  intro occurs
  rw [whole, List.infix_append_iff] at occurs
  rcases occurs with inside | behind | ⟨first, second, split, ends, starts⟩
  · exact hs inside
  · rcases List.infix_cons_iff.mp behind with starts | inside
    · cases marked : mark.toList with
      | nil => exact hs (marked ▸ List.nil_infix)
      | cons d more =>
        rw [marked] at starts other
        exact other (List.mem_cons.mpr (.inl (List.cons_prefix_cons.mp starts).1.symm))
    · exact ht inside
  · cases second with
    | nil =>
      rw [List.append_nil] at split
      exact hs (split ▸ ends.isInfix)
    | cons d more =>
      rw [split, (List.cons_prefix_cons.mp starts).1] at other
      exact other (List.mem_append_right _ List.mem_cons_self)

section Distinct
variable (distinct : mark.toList.Nodup)
include distinct

/-- **The mark behind a text that lacks it is its first occurrence.** -/
theorem nothing_behind (lacks : Lacks s mark) {before behind : List Char}
    (occurs : s.toList ++ mark.toList = before ++ mark.toList ++ behind) : behind = [] := by
  rcases List.append_eq_append_iff.mp occurs with ⟨overlap, reach, split⟩ | ⟨after, inside, -⟩
  · rcases List.eq_nil_or_concat' overlap with rfl | ⟨overlap, c, rfl⟩
    · rw [List.append_nil] at reach
      exact absurd (reach ▸ List.infix_append before mark.toList []) (by simpa [Lacks] using lacks)
    · rcases List.eq_nil_or_concat' behind with none | ⟨behind, d, rfl⟩
      · exact none
      · -- the last character of the mark is also in the part that overlaps
        have ends : (before ++ (overlap ++ [c] ++ behind)) ++ [d] = (s.toList ++ overlap) ++ [c] := by
          rw [split] at reach
          simpa using reach
        have last : d = c := List.singleton_inj.mp (List.append_inj' ends rfl).2
        rw [split, List.nodup_append] at distinct
        exact absurd last.symm (distinct.2.2 c (by simp) d (by simp))
  · exact absurd (inside ▸ List.infix_append before mark.toList after) lacks

/-- **A text that lacks a mark ends where the mark is found first.** -/
theorem eq_of_append (hs : Lacks s mark) (ht : Lacks t mark) {rest rest' : String}
    (same : s ++ mark ++ rest = t ++ mark ++ rest') : s = t ∧ rest = rest' := by
  have chars : s.toList ++ mark.toList ++ rest.toList = t.toList ++ mark.toList ++ rest'.toList := by
    simpa using congrArg String.toList same
  have ended : s.toList ++ mark.toList = t.toList ++ mark.toList := by
    rcases List.append_eq_append_iff.mp chars with ⟨more, longer, -⟩ | ⟨more, longer, -⟩
    · rw [longer, ht.nothing_behind distinct longer, List.append_nil]
    · rw [longer, hs.nothing_behind distinct longer, List.append_nil]
  rw [ended] at chars
  exact ⟨String.toList_injective (List.append_cancel_right ended),
    String.toList_injective (List.append_cancel_left chars)⟩

end Distinct

end Lacks

/-- **Lines can be read back from their text.** -/
theorem eq_of_textOfLines : ∀ {lines lines' : List String}, (∀ l ∈ lines, Lacks l "\n") →
    (∀ l ∈ lines', Lacks l "\n") → textOfLines lines = textOfLines lines' → lines = lines'
  | [], [], _, _, _ => rfl
  | [], l :: rest, _, _, same => by
    rw [textOfLines_nil, textOfLines_cons] at same
    exact absurd same (Lacks.ne_append (by decide) l _)
  | l :: rest, [], _, _, same => by
    rw [textOfLines_nil, textOfLines_cons] at same
    exact absurd same.symm (Lacks.ne_append (by decide) l _)
  | l :: rest, l' :: rest', plain, plain', same => by
    rw [textOfLines_cons, textOfLines_cons] at same
    rw [List.forall_mem_cons] at plain plain'
    obtain ⟨rfl, more⟩ := plain.1.eq_of_append (by decide) plain'.1 same
    rw [eq_of_textOfLines plain.2 plain'.2 more]

section Intercalate
variable (mark : String)

/-- Some texts that are not empty do not make an empty one. -/
theorem intercalate_ne_empty {first : String} {rest : List String} (some : first ≠ "") :
    String.intercalate mark (first :: rest) ≠ "" := by
  intro empty
  cases rest with
  | nil => exact some (String.intercalate_singleton.symm.trans empty)
  | cons next more =>
    rw [String.intercalate_cons_cons, String.append_assoc, String.append_eq_empty_iff] at empty
    exact some empty.1

/-- **Texts can be read back** from what they are with a mark between them, if none is empty. -/
theorem eq_of_intercalate (distinct : mark.toList.Nodup) :
    ∀ {texts texts' : List String}, (∀ s ∈ texts, s ≠ "" ∧ Lacks s mark) →
      (∀ s ∈ texts', s ≠ "" ∧ Lacks s mark) →
      String.intercalate mark texts = String.intercalate mark texts' → texts = texts'
  | [], [], _, _, _ => rfl
  | [], s :: rest, _, plain', same =>
    absurd same.symm (intercalate_ne_empty mark (plain' s List.mem_cons_self).1)
  | s :: rest, [], plain, _, same =>
    absurd same (intercalate_ne_empty mark (plain s List.mem_cons_self).1)
  | [s], [t], _, _, same => by
    rw [String.intercalate_singleton, String.intercalate_singleton] at same
    rw [same]
  | [s], t :: u :: rest, plain, _, same => by
    rw [String.intercalate_singleton, String.intercalate_cons_cons] at same
    exact absurd same ((plain s List.mem_cons_self).2.ne_append _ _)
  | s :: u :: rest, [t], _, plain', same => by
    rw [String.intercalate_singleton, String.intercalate_cons_cons] at same
    exact absurd same.symm ((plain' t List.mem_cons_self).2.ne_append _ _)
  | s :: u :: rest, t :: v :: rest', plain, plain', same => by
    rw [String.intercalate_cons_cons, String.intercalate_cons_cons] at same
    rw [List.forall_mem_cons] at plain plain'
    obtain ⟨rfl, more⟩ := plain.1.2.eq_of_append distinct plain'.1.2 same
    rw [eq_of_intercalate distinct plain.2 plain'.2 more]

/-- There is no line feed between lines, unless there is one in the mark. -/
theorem lacks_lineFeed_intercalate (marked : Lacks mark "\n") :
    ∀ {texts : List String}, (∀ s ∈ texts, Lacks s "\n") →
      Lacks (String.intercalate mark texts) "\n"
  | [], _ => by
    rw [String.intercalate_nil]
    decide
  | [s], plain => by
    rw [String.intercalate_singleton]
    exact plain s List.mem_cons_self
  | s :: t :: rest, plain => by
    rw [List.forall_mem_cons] at plain
    rw [String.intercalate_cons_cons]
    exact (plain.1.lineFeed_append marked).lineFeed_append
      (lacks_lineFeed_intercalate marked plain.2)

end Intercalate

/-- What is written as so many texts for each element can be read back if the texts of one element
can. -/
theorem eq_of_flatMap {α β : Type} {write : α → List β} {n : Nat}
    (length : ∀ x, (write x).length = n + 1) {Plain : α → Prop}
    (inj : ∀ x y, Plain x → Plain y → write x = write y → x = y) :
    ∀ {xs ys : List α}, (∀ x ∈ xs, Plain x) → (∀ y ∈ ys, Plain y) →
      xs.flatMap write = ys.flatMap write → xs = ys
  | [], [], _, _, _ => rfl
  | [], y :: _, _, _, same =>
    absurd (List.flatMap_eq_nil_iff.mp same.symm y List.mem_cons_self)
      (List.ne_nil_of_length_eq_add_one (length y))
  | x :: _, [], _, _, same =>
    absurd (List.flatMap_eq_nil_iff.mp same x List.mem_cons_self)
      (List.ne_nil_of_length_eq_add_one (length x))
  | x :: xs, y :: ys, plain, plain', same => by
    rw [List.flatMap_cons, List.flatMap_cons] at same
    rw [List.forall_mem_cons] at plain plain'
    obtain ⟨first, more⟩ := List.append_inj same ((length x).trans (length y).symm)
    rw [inj x y plain.1 plain'.1 first, eq_of_flatMap length inj plain.2 plain'.2 more]

end CatalogConsole
