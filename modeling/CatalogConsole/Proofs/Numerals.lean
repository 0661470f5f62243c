import Mathlib.Data.List.Forall2
import Mathlib.Data.List.TakeWhile
import Mathlib.Data.Nat.Digits.Defs
import CatalogConsole.Numeral.Integer

/-! # What a numeral is

A numeral is an optional sign and decimal digits, one or more, with at most one low line between two of
them (`Numeral.IsNumeral`).  The digits may be of any script, and the integer is what they stand for in
the decimal system.  A text stands for an integer if it is a numeral of it between blanks
(`Numeral.StandsFor`), and that is what `integer?` reads (`integer?_eq_some_iff`).

Nothing in a numeral is a blank, so the numeral is all that is left when the blanks are gone.  And
everything behind its sign is a digit or a low line, so all its digits are counted when a text is looked
at for having too many of them (`excess?_of_standsFor`).
-/
namespace CatalogConsole.Numeral

open Text

/-! ## Blanks around a text -/

/-- A text that has this part between blanks. -/
def Padded (part text : List Char) : Prop :=
  ∃ before behind, text = before ++ part ++ behind ∧ (∀ c ∈ before, isBlank c = true) ∧
    ∀ c ∈ behind, isBlank c = true

/-- Trimming takes off blanks only. -/
theorem padded_trimmed (text : List Char) : Padded (trimmed isBlank text) text := by
  refine ⟨text.takeWhile isBlank, ((text.dropWhile isBlank).reverse.takeWhile isBlank).reverse, ?_,
    List.all_eq_true.mp List.all_takeWhile, ?_⟩
  · rw [trimmed, rightTrimmed, List.append_assoc, ← List.reverse_append,
      List.takeWhile_append_dropWhile, List.reverse_reverse, List.takeWhile_append_dropWhile]
  · intro c inside
    exact List.all_eq_true.mp List.all_takeWhile c (List.mem_reverse.mp inside)

/-- Blanks are dropped up to a character that is none. -/
theorem dropWhile_blanks {before part behind : List Char} (blank : ∀ c ∈ before, isBlank c = true)
    (solid : ∀ c ∈ part, isBlank c = false) (some : part ≠ []) :
    (before ++ (part ++ behind)).dropWhile isBlank = part ++ behind := by
  obtain ⟨c, rest, rfl⟩ := List.exists_cons_of_ne_nil some
  have first : ¬ isBlank c = true := by
    rw [solid c List.mem_cons_self]
    exact Bool.false_ne_true
  rw [List.dropWhile_append_of_pos blank, List.cons_append, List.dropWhile_cons_of_neg first]

/-- **A part without blanks is what is left** of a text that has it between blanks. -/
theorem trimmed_of_padded {part text : List Char} (padded : Padded part text)
    (solid : ∀ c ∈ part, isBlank c = false) (some : part ≠ []) : trimmed isBlank text = part := by
  obtain ⟨before, behind, rfl, blank, blank'⟩ := padded
  have fromEnd : (behind.reverse ++ (part.reverse ++ [])).dropWhile isBlank = part.reverse ++ [] := by
    refine dropWhile_blanks (fun c h => ?_) (fun c h => ?_) fun none => ?_
    · exact blank' c (List.mem_reverse.mp h)
    · exact solid c (List.mem_reverse.mp h)
    · exact some (List.reverse_eq_nil_iff.mp none)
  rw [List.append_nil] at fromEnd
  rw [trimmed, rightTrimmed, List.append_assoc, dropWhile_blanks blank solid some,
    List.reverse_append, fromEnd, List.reverse_reverse]

/-! ## Digits -/

/-- A digit is no blank. -/
theorem isBlank_of_digit {c : Char} {d : Nat} (digit : digitValue? c = some d) :
    isBlank c = false := by
  have apart : ∀ start ∈ digitZeros, ∀ r ∈ blankRanges, start + 10 ≤ r.first ∨ r.last < start := by
    decide
  obtain ⟨start, block, value⟩ := List.exists_of_findSome?_eq_some digit
  obtain ⟨place, small⟩ := digitFrom?_eq_some_iff.mp value
  rw [← Bool.not_eq_true, isBlank, inRanges_iff]
  rintro ⟨r, blank, above, below⟩
  rcases apart start block r blank with before | behind <;> omega

/-- **The number that digits stand for**, whatever scripts they are from, in the decimal system. -/
def Spells (cs : List Char) (n : Nat) : Prop :=
  ∃ ds, List.Forall₂ (fun c d => digitValue? c = some d) cs ds ∧ Nat.ofDigits 10 ds.reverse = n

/-- Nothing else is among them. -/
theorem Spells.digit {cs : List Char} {n : Nat} (h : Spells cs n) :
    ∀ c ∈ cs, ∃ d, digitValue? c = some d := by
  obtain ⟨ds, digits, -⟩ := h
  clear n
  induction digits with
  | nil => exact fun c inside => nomatch inside
  | cons first _ ih => exact List.forall_mem_cons.mpr ⟨⟨_, first⟩, ih⟩

/-- One more digit at the end counts once, and all before it ten times. -/
theorem Spells.concat {cs : List Char} {n : Nat} (h : Spells cs n) {c : Char} {d : Nat}
    (digit : digitValue? c = some d) : Spells (cs ++ [c]) (10 * n + d) := by
  obtain ⟨ds, digits, value⟩ := h
  refine ⟨ds ++ [d], List.rel_append digits (.cons digit .nil), ?_⟩
  rw [List.reverse_append, List.reverse_singleton, List.singleton_append, Nat.ofDigits_cons, value]
  omega

/-- Zeros in front do not change the number. -/
theorem Spells.zeros_append {cs : List Char} {n : Nat} (h : Spells cs n) (k : Nat) :
    Spells (List.replicate k '0' ++ cs) n := by
  induction k with
  | zero => exact h
  | succ k ih =>
    obtain ⟨ds, digits, value⟩ := ih
    refine ⟨0 :: ds, .cons (by decide) digits, ?_⟩
    rw [List.reverse_cons, Nat.ofDigits_append, value, Nat.ofDigits_singleton, Nat.mul_zero,
      Nat.add_zero]

/-- The number can be built up from the front. -/
theorem ofDigits_reverse (ds : List Nat) :
    Nat.ofDigits 10 ds.reverse = ds.foldl (fun n d => 10 * n + d) 0 := by
  rw [Nat.ofDigits_eq_foldr, List.foldr_reverse]
  simp only [Nat.cast_id, Nat.add_comm]

/-! ## Low lines -/

/-- Characters of which each may have a low line in front of it. -/
inductive Spaced : List Char → List Char → Prop
  | nil : Spaced [] []
  | next (c : Char) {cs text : List Char} (rest : Spaced cs text) : Spaced (c :: cs) (c :: text)
  | apart (c : Char) {cs text : List Char} (rest : Spaced cs text) :
    Spaced (c :: cs) ('_' :: c :: text)

/-- **Characters with at most one low line between two of them**, and with none at the ends. -/
inductive Grouped : List Char → List Char → Prop
  | mk (c : Char) {cs text : List Char} (rest : Spaced cs text) : Grouped (c :: cs) (c :: text)

namespace Spaced
variable {cs text : List Char}

/-- There need not be any low lines. -/
theorem refl : ∀ cs : List Char, Spaced cs cs
  | [] => .nil
  | c :: cs => .next c (refl cs)

/-- A text has the characters and perhaps low lines. -/
theorem mem (h : Spaced cs text) : ∀ c ∈ text, c = '_' ∨ c ∈ cs := by
  induction h with
  | nil => exact fun c inside => nomatch inside
  | next c rest ih =>
    intro x inside
    rcases List.mem_cons.mp inside with rfl | later
    · exact .inr List.mem_cons_self
    · exact (ih x later).imp_right (List.mem_cons_of_mem _)
  | apart c rest ih =>
    intro x inside
    rcases List.mem_cons.mp inside with rfl | later
    · exact .inl rfl
    · rcases List.mem_cons.mp later with rfl | later
      · exact .inr List.mem_cons_self
      · exact (ih x later).imp_right (List.mem_cons_of_mem _)

/-- Without the low lines it has all characters. -/
theorem countP_eq (h : Spaced cs text) (others : ∀ c ∈ cs, c ≠ '_') :
    text.countP (· ≠ '_') = cs.length := by
  induction h with
  | nil => rfl
  | next c rest ih =>
    obtain ⟨other, others⟩ := List.forall_mem_cons.mp others
    rw [List.countP_cons_of_pos (by simpa using other), ih others, List.length_cons]
  | apart c rest ih =>
    obtain ⟨other, others⟩ := List.forall_mem_cons.mp others
    rw [List.countP_cons_of_neg (by simp), List.countP_cons_of_pos (by simpa using other),
      ih others, List.length_cons]

end Spaced

/-- So all of them but the first may have one in front. -/
theorem Grouped.spaced {cs text : List Char} (h : Grouped cs text) : Spaced cs text := by
  cases h with
  | mk c rest => exact .next c rest

/-- No low line is a digit. -/
theorem ne_lowLine_of_digit {c : Char} {d : Nat} (digit : digitValue? c = some d) : c ≠ '_' := by
  rintro rfl
  have other : digitValue? '_' = none := by decide
  exact nomatch other.symm.trans digit

/-- The reader goes on with a digit, and skips a low line in front of it. -/
theorem digitsAfter?_digit {n d : Nat} {c : Char} (digit : digitValue? c = some d)
    (text : List Char) : digitsAfter? n (c :: text) = digitsAfter? (10 * n + d) text := by
  have other := ne_lowLine_of_digit digit
  rw [digitsAfter?]
  · simp [digit]
  · exact fun _ _ lowLine _ => other lowLine

theorem digitsAfter?_lowLine {n d : Nat} {c : Char} (digit : digitValue? c = some d)
    (text : List Char) : digitsAfter? n ('_' :: c :: text) = digitsAfter? (10 * n + d) text := by
  rw [digitsAfter?]
  simp [digit]

/-- **The reader takes digits with low lines in front of them**, and puts their values behind what it
has read so far. -/
theorem digitsAfter?_eq_some_iff {n m : Nat} {text : List Char} :
    digitsAfter? n text = some m ↔ ∃ cs ds, Spaced cs text ∧
      List.Forall₂ (fun c d => digitValue? c = some d) cs ds ∧
        ds.foldl (fun n d => 10 * n + d) n = m := by
  constructor
  · intro read
    fun_induction digitsAfter? n text with
    | case1 n => exact ⟨[], [], .nil, .nil, Option.some.inj read⟩
    | case2 n c rest ih =>
      obtain ⟨d, digit, later⟩ := Option.bind_eq_some_iff.mp read
      obtain ⟨cs, ds, spaced, digits, value⟩ := ih d later
      exact ⟨c :: cs, d :: ds, .apart c spaced, .cons digit digits, value⟩
    | case3 n c rest _ ih =>
      obtain ⟨d, digit, later⟩ := Option.bind_eq_some_iff.mp read
      obtain ⟨cs, ds, spaced, digits, value⟩ := ih d later
      exact ⟨c :: cs, d :: ds, .next c spaced, .cons digit digits, value⟩
  · rintro ⟨cs, ds, spaced, digits, rfl⟩
    induction spaced generalizing n ds with
    | nil =>
      cases digits
      exact digitsAfter?_nil n
    | next c _ ih =>
      cases digits with
      | cons digit digits =>
        rw [digitsAfter?_digit digit]
        exact ih _ digits
    | apart c _ ih =>
      cases digits with
      | cons digit digits =>
        rw [digitsAfter?_lowLine digit]
        exact ih _ digits

/-- **Digits are read as the number that they stand for**, and nothing else is read. -/
theorem digits?_eq_some_iff {n : Nat} {text : List Char} :
    digits? text = some n ↔ ∃ cs, Grouped cs text ∧ Spells cs n := by
  constructor
  · intro read
    cases text with
    | nil => cases read
    | cons c rest =>
      rw [digits?_cons] at read
      obtain ⟨d, digit, later⟩ := Option.bind_eq_some_iff.mp read
      obtain ⟨cs, ds, spaced, digits, value⟩ := digitsAfter?_eq_some_iff.mp later
      refine ⟨c :: cs, .mk c spaced, d :: ds, .cons digit digits, ?_⟩
      rw [ofDigits_reverse, ← value, List.foldl_cons, Nat.mul_zero, Nat.zero_add]
  · rintro ⟨_, grouped, ds, digits, value⟩
    cases grouped with
    | mk c spaced =>
      cases digits with
      | cons digit digits =>
        rw [ofDigits_reverse, List.foldl_cons, Nat.mul_zero, Nat.zero_add] at value
        rw [digits?_cons, digit, Option.bind_some]
        exact digitsAfter?_eq_some_iff.mpr ⟨_, _, spaced, digits, value⟩

/-! ## Signs -/

/-- What can stand in front of digits. -/
inductive Sign
  | none
  | plus
  | minus
  deriving DecidableEq, Repr

/-- How a sign is written. -/
def Sign.text : Sign → List Char
  | none => []
  | plus => ['+']
  | minus => ['-']

/-- The integer of a number with a sign. -/
def Sign.apply (n : Nat) : Sign → Int
  | none | plus => n
  | minus => -n

/-- **A numeral of an integer**, with these digits: they stand behind a sign or none, with at most one
low line between two of them. -/
inductive IsNumeral : List Char → List Char → Int → Prop
  | mk (sign : Sign) {text cs : List Char} {n : Nat} (grouped : Grouped cs text)
    (spells : Spells cs n) : IsNumeral (sign.text ++ text) cs (sign.apply n)

section Signs
variable {text : List Char} {n : Nat}

/-- Digits begin with a digit. -/
theorem ne_cons_of_digits (read : digits? text = some n) {c : Char} (other : digitValue? c = none)
    (rest : List Char) : text ≠ c :: rest := by
  rintro rfl
  rw [digits?_cons, other] at read
  cases read

/-- Behind a sign, digits are read as what they are. -/
theorem signed?_append (sign : Sign) (read : digits? text = some n) :
    signed? (sign.text ++ text) = some (sign.apply n) := by
  cases sign with
  | none =>
    have unsigned := signed?.eq_3 text (ne_cons_of_digits read (by decide))
      (ne_cons_of_digits read (by decide))
    rw [Sign.text, List.nil_append, unsigned, read]
    rfl
  | plus => rw [Sign.text, List.singleton_append, signed?, read]; rfl
  | minus => rw [Sign.text, List.singleton_append, signed?, read]; rfl

/-- There are always digits behind the sign. -/
theorem exists_sign {m : Int} (read : signed? text = some m) :
    ∃ sign body n, text = Sign.text sign ++ body ∧ digits? body = some n ∧ sign.apply n = m := by
  fun_cases signed? text with
  | case1 body =>
    cases digits : digits? body with
    | none => rw [signed?, digits] at read; cases read
    | some n =>
      rw [signed?, digits] at read
      exact ⟨.minus, body, n, rfl, digits, Option.some.inj read⟩
  | case2 body =>
    rw [signed?] at read
    obtain ⟨n, digits, value⟩ := Option.map_eq_some_iff.mp read
    exact ⟨.plus, body, n, rfl, digits, value⟩
  | case3 _ notMinus notPlus =>
    rw [signed?.eq_3 text notMinus notPlus] at read
    obtain ⟨n, digits, value⟩ := Option.map_eq_some_iff.mp read
    exact ⟨.none, text, n, rfl, digits, value⟩

/-- Without the sign there are the digits. -/
theorem withoutSign_append (sign : Sign) (read : digits? text = some n) :
    withoutSign (sign.text ++ text) = text := by
  cases sign with
  | none =>
    exact withoutSign.eq_3 text (ne_cons_of_digits read (by decide))
      (ne_cons_of_digits read (by decide))
  | plus => rfl
  | minus => rfl

end Signs

/-- **The reader of integers reads numerals**, and nothing else. -/
theorem signed?_eq_some_iff {n : Int} {text : List Char} :
    signed? text = some n ↔ ∃ cs, IsNumeral text cs n := by
  constructor
  · intro read
    obtain ⟨sign, body, m, rfl, digits, rfl⟩ := exists_sign read
    obtain ⟨cs, grouped, spells⟩ := digits?_eq_some_iff.mp digits
    exact ⟨cs, .mk sign grouped spells⟩
  · rintro ⟨cs, ⟨sign, grouped, spells⟩⟩
    exact signed?_append sign (digits?_eq_some_iff.mpr ⟨cs, grouped, spells⟩)

/-! ## The characters of a numeral -/

section Characters
variable {text cs : List Char} {n : Nat}

/-- Digits with low lines are what is looked at when digits are counted. -/
theorem isNumeralChar_of_grouped (grouped : Grouped cs text) (spells : Spells cs n) :
    ∀ c ∈ text, isNumeralChar c = true := by
  have digits (c : Char) (inside : c ∈ cs) : isNumeralChar c = true := by
    obtain ⟨d, digit⟩ := spells.digit c inside
    rw [isNumeralChar, digit, Option.isSome_some, Bool.or_true]
  intro c inside
  rcases grouped.spaced.mem c inside with rfl | digit
  · decide
  · exact digits c digit

/-- All digits are counted, and nothing else is. -/
theorem countP_of_grouped (grouped : Grouped cs text) (spells : Spells cs n) :
    text.countP (· ≠ '_') = cs.length := by
  have others (c : Char) (inside : c ∈ cs) : c ≠ '_' := by
    obtain ⟨d, digit⟩ := spells.digit c inside
    exact ne_lowLine_of_digit digit
  exact grouped.spaced.countP_eq others

/-- Neither a digit nor a low line is a blank. -/
theorem isBlank_of_isNumeralChar {c : Char} (h : isNumeralChar c = true) : isBlank c = false := by
  rw [isNumeralChar, Bool.or_eq_true, decide_eq_true_eq, Option.isSome_iff_exists] at h
  rcases h with rfl | ⟨d, digit⟩
  · decide
  · exact isBlank_of_digit digit

end Characters

namespace IsNumeral
variable {text cs : List Char} {n : Int}

/-- Nothing in a numeral is a blank. -/
theorem solid (h : IsNumeral text cs n) : ∀ c ∈ text, isBlank c = false := by
  obtain ⟨sign, grouped, spells⟩ := h
  have signs : ∀ c ∈ sign.text, isBlank c = false := by
    cases sign with
    | none => exact nofun
    | plus => exact List.forall_mem_singleton.mpr (by decide)
    | minus => exact List.forall_mem_singleton.mpr (by decide)
  refine List.forall_mem_append.mpr ⟨signs, fun c inside => ?_⟩
  exact isBlank_of_isNumeralChar (isNumeralChar_of_grouped grouped spells c inside)

theorem ne_nil (h : IsNumeral text cs n) : text ≠ [] := by
  obtain ⟨sign, ⟨c, rest⟩, -⟩ := h
  simp

end IsNumeral

/-! ## Texts that stand for integers -/

/-- **A text stands for an integer**, with these digits: it is a numeral of it between blanks. -/
def StandsFor (text : String) (cs : List Char) (n : Int) : Prop :=
  ∃ part, Padded part text.toList ∧ IsNumeral part cs n

/-- **A text is read as the integer that it stands for**, if it stands for one. -/
theorem integer?_eq_some_iff {text : String} {n : Int} :
    integer? text = some n ↔ ∃ cs, StandsFor text cs n := by
  constructor
  · intro read
    obtain ⟨cs, numeral⟩ := signed?_eq_some_iff.mp read
    exact ⟨cs, _, padded_trimmed text.toList, numeral⟩
  · rintro ⟨cs, part, padded, numeral⟩
    rw [integer?, trimmed_of_padded padded numeral.solid numeral.ne_nil]
    exact signed?_eq_some_iff.mpr ⟨cs, numeral⟩

/-- **A text that stands for an integer has too many digits** if it has more than the limit. -/
theorem excess?_of_standsFor {text : String} {cs : List Char} {n : Int}
    (h : StandsFor text cs n) :
    excess? text = if digitLimit < cs.length then some cs.length else none := by
  obtain ⟨part, padded, numeral⟩ := h
  have trims := trimmed_of_padded padded numeral.solid numeral.ne_nil
  obtain ⟨sign, grouped, spells⟩ := numeral
  have read := digits?_eq_some_iff.mpr ⟨_, grouped, spells⟩
  have whole := List.takeWhile_eq_self_iff.mpr (isNumeralChar_of_grouped grouped spells)
  simp only [excess?, trims, withoutSign_append sign read, whole, read,
    countP_of_grouped grouped spells, Option.isSome_some, Bool.and_true, decide_eq_true_eq]

/-- Digits by themselves stand for the integer that they spell. -/
theorem standsFor_digits {cs : List Char} {n : Nat} (spells : Spells cs n) (some : cs ≠ []) :
    StandsFor (String.ofList cs) cs n := by
  obtain ⟨c, rest, rfl⟩ := List.exists_cons_of_ne_nil some
  have grouped : Grouped (c :: rest) (c :: rest) := .mk c (.refl rest)
  refine ⟨c :: rest, ⟨[], [], by simp, nofun, nofun⟩, ?_⟩
  exact .mk .none grouped spells

/-! ## Printed integers -/

/-- **A number is printed in its digits.** -/
theorem spells_toDigits (n : Nat) : Spells (Nat.toDigits 10 n) n := by
  have single : ∀ d ∈ List.range 10, digitValue? (Nat.digitChar d) = some d := by decide
  induction n using Nat.strong_induction_on with
  | _ n ih =>
    by_cases small : n < 10
    · rw [Nat.toDigits_of_lt_base small]
      refine ⟨[n], .cons (single n (List.mem_range.mpr small)) .nil, ?_⟩
      simp
    · have last := single (n % 10) (List.mem_range.mpr (Nat.mod_lt n (by decide)))
      have spelled := (ih (n / 10) (by omega)).concat last
      rw [Nat.div_add_mod] at spelled
      rw [Nat.toDigits_eq_if (by decide), if_neg small]
      exact spelled

/-- The sign that is printed. -/
def Sign.ofInteger (n : Int) : Sign := if n < 0 then minus else none

/-- **An integer is printed as a sign, if it is negative, and digits.** -/
theorem toList_toString (n : Int) :
    (toString n).toList = (Sign.ofInteger n).text ++ Nat.toDigits 10 n.natAbs := by
  cases n with
  | ofNat m =>
    have unsigned : ¬ Int.ofNat m < 0 := Int.not_lt.mpr (Int.natCast_nonneg m)
    rw [Int.toString_eq_repr, Sign.ofInteger, if_neg unsigned]
    exact Nat.toList_repr
  | negSucc m =>
    rw [Int.toString_eq_repr, Sign.ofInteger, if_pos (Int.negSucc_lt_zero m), Int.repr,
      String.toList_append, Nat.toList_repr]
    rfl

/-- What is printed, with low lines between digits, is a numeral. -/
theorem isNumeral_of_printed {n : Int} {text : List Char}
    (grouped : Grouped (Nat.toDigits 10 n.natAbs) text) :
    IsNumeral ((Sign.ofInteger n).text ++ text) (Nat.toDigits 10 n.natAbs) n := by
  have value : (Sign.ofInteger n).apply n.natAbs = n := by
    unfold Sign.ofInteger
    split <;> simp only [Sign.apply] <;> omega
  have numeral := IsNumeral.mk (Sign.ofInteger n) grouped (spells_toDigits n.natAbs)
  rwa [value] at numeral

end CatalogConsole.Numeral
