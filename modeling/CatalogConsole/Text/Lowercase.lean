import CatalogConsole.Text.CaseTable

/-! # Lower case

`lowercase` replaces every character by its lower-case form in the full sense of the Unicode
Standard.  Two characters need more than the table of partners: a capital I with a dot above
becomes an i followed by a combining dot, and a capital sigma takes its final form at the end of a
word.
-/
namespace CatalogConsole.Text

/-- Greek capital sigma. -/
def capitalSigma : Char := '\u03a3'

/-- Greek small sigma, inside a word. -/
def smallSigma : Char := '\u03c3'

/-- Greek small sigma, at the end of a word. -/
def finalSigma : Char := '\u03c2'

/-- Latin capital I with a dot above. -/
def dottedCapitalI : Char := '\u0130'

/-- The lower-case partner of a character that has one, and any other character itself. -/
def lowerPartner (c : Char) : Char :=
  match lowerRuns.findSome? (·.lower? c.toNat) with
  | some n => Char.ofNat n
  | none => c

/-- Whether the first character that is not passed over is a letter with a case. -/
def leadsToCased (s : List Char) : Bool :=
  match s.dropWhile isCaseIgnorable with
  | [] => false
  | c :: _ => isCased c

/-- Whether a sigma ends a word: a letter comes before it and none after it.  `before` is the text
in front of it, nearest character first, and `after` the text behind it. -/
def endsWord (before after : List Char) : Bool :=
  leadsToCased before && !leadsToCased after

/-- The lower-case form of `c` between `before`, nearest character first, and `after`. -/
def lowerForm (before : List Char) (c : Char) (after : List Char) : List Char :=
  if c = capitalSigma then [if endsWord before after then finalSigma else smallSigma]
  else if c = dottedCapitalI then ['i', '\u0307']
  else [lowerPartner c]

/-- The lower-case form of a text that follows `before`, nearest character first. -/
def lowerAfter (before : List Char) : List Char → List Char
  | [] => []
  | c :: rest => lowerForm before c rest ++ lowerAfter (c :: before) rest

/-- The text in lower case. -/
def lowercase (s : String) : String :=
  String.ofList (lowerAfter [] s.toList)

@[simp] theorem lowerAfter_nil (before : List Char) : lowerAfter before [] = [] := rfl

@[simp] theorem lowerAfter_cons (before : List Char) (c : Char) (rest : List Char) :
    lowerAfter before (c :: rest) = lowerForm before c rest ++ lowerAfter (c :: before) rest := rfl

@[simp] theorem toList_lowercase (s : String) :
    (lowercase s).toList = lowerAfter [] s.toList := by
  simp [lowercase]

/-- What the table says of a character: a run goes through it and gives its partner, or no run goes
through it and it is its own. -/
theorem lowerPartner_cases (c : Char) :
    (∃ r ∈ lowerRuns, r.Meets c.toNat ∧
      (lowerPartner c).toNat = r.lower + (c.toNat - r.first)) ∨
    (∀ r ∈ lowerRuns, ¬ r.Meets c.toNat) ∧ lowerPartner c = c := by
  cases found : lowerRuns.findSome? (·.lower? c.toNat) with
  | none =>
    refine .inr ⟨fun r hr => ?_, by rw [lowerPartner, found]⟩
    exact CaseRun.lower?_eq_none_iff.mp (List.findSome?_eq_none_iff.mp found r hr)
  | some n =>
    obtain ⟨r, hr, gives⟩ := List.exists_of_findSome?_eq_some found
    obtain ⟨meets, rfl⟩ := CaseRun.lower?_eq_some_iff.mp gives
    refine .inl ⟨r, hr, meets, ?_⟩
    have valid := (CaseRun.partner_isValidChar hr meets).1
    have partner : lowerPartner c = Char.ofNat (r.lower + (c.toNat - r.first)) := by
      rw [lowerPartner, found]
    rw [partner, show Char.ofNat _ = Char.ofNatAux _ valid from dif_pos valid]
    rfl

/-! ## Text that is in lower case already -/

/-- A character is settled if its lower-case form is the character itself, whatever stands around
it. -/
def Settled (c : Char) : Prop :=
  c ≠ dottedCapitalI ∧ ∀ r ∈ lowerRuns, ¬ r.Meets c.toNat

instance (c : Char) : Decidable (Settled c) := inferInstanceAs (Decidable (_ ∧ _))

/-- A run goes through the capital sigma, so it is not settled. -/
theorem Settled.ne_capitalSigma {c : Char} (h : Settled c) : c ≠ capitalSigma := by
  rintro rfl
  exact h.2 ⟨0x3a3, 0x3ab, 1, 0x3c3⟩ (by decide +kernel) (by decide)

theorem lowerForm_of_settled {c : Char} (h : Settled c) (before after : List Char) :
    lowerForm before c after = [c] := by
  rw [lowerForm, if_neg h.ne_capitalSigma, if_neg h.1]
  rcases lowerPartner_cases c with ⟨r, hr, meets, -⟩ | ⟨-, own⟩
  · exact absurd meets (h.2 r hr)
  · rw [own]

theorem settled_lowerPartner {c : Char} (h : c ≠ dottedCapitalI) : Settled (lowerPartner c) := by
  rcases lowerPartner_cases c with ⟨r, hr, meets, partner⟩ | ⟨unmet, own⟩
  · have code := CaseRun.partner_isValidChar hr meets
    refine ⟨fun dotted => code.2 ?_, fun r' hr' => ?_⟩
    · rw [← partner, dotted]
      rfl
    · rw [partner]
      exact CaseRun.not_meets_partner hr hr' meets
  · rw [own]
    exact ⟨h, unmet⟩

/-- **A lower-case form is settled**, that of a sigma in either place and that of the capital I with
a dot above included. -/
theorem settled_of_mem_lowerForm {before after : List Char} {c d : Char}
    (h : d ∈ lowerForm before c after) : Settled d := by
  unfold lowerForm at h
  split at h
  · rw [List.mem_singleton.mp h]
    split
    · decide +kernel
    · decide +kernel
  · split at h
    · rcases List.mem_cons.mp h with rfl | h
      · decide +kernel
      · rw [List.mem_singleton.mp h]
        decide +kernel
    · rename_i other
      rw [List.mem_singleton.mp h]
      exact settled_lowerPartner other

theorem lowerAfter_of_settled (before : List Char) {s : List Char} (h : ∀ c ∈ s, Settled c) :
    lowerAfter before s = s := by
  induction s generalizing before with
  | nil => rfl
  | cons c rest ih =>
    rw [lowerAfter_cons, lowerForm_of_settled (h c List.mem_cons_self),
      ih (c :: before) fun d hd => h d (List.mem_cons_of_mem _ hd)]
    rfl

theorem settled_of_mem_lowerAfter {before s : List Char} {d : Char}
    (h : d ∈ lowerAfter before s) : Settled d := by
  induction s generalizing before with
  | nil => cases h
  | cons c rest ih =>
    rw [lowerAfter_cons, List.mem_append] at h
    rcases h with here | later
    · exact settled_of_mem_lowerForm here
    · exact ih later

/-- **The texts in lower case** are those of settled characters. -/
theorem lowercase_eq_self_iff {s : String} : lowercase s = s ↔ ∀ c ∈ s.toList, Settled c := by
  constructor
  · intro same c hc
    rw [← same, toList_lowercase] at hc
    exact settled_of_mem_lowerAfter hc
  · intro settled
    rw [lowercase, lowerAfter_of_settled [] settled, String.ofList_toList]

/-- A character that is in lower case or has no case, among those before the accented capitals. -/
def isPlain (c : Char) : Bool :=
  c.toNat < 0x41 || (0x5a < c.toNat && c.toNat < 0xc0)

theorem settled_of_plain {c : Char} (plain : isPlain c = true) : Settled c := by
  -- the first run is that of the capitals A to Z, and all others begin later
  have apart : ∀ r ∈ lowerRuns, r.first = 0x41 ∧ r.last = 0x5a ∨ 0xc0 ≤ r.first := by
    decide +kernel
  refine ⟨?_, fun r hr => ?_⟩
  · rintro rfl
    exact absurd plain (by decide)
  · rintro ⟨first, last, -⟩
    have range := apart r hr
    simp only [isPlain, Bool.or_eq_true, Bool.and_eq_true, decide_eq_true_eq] at plain
    omega

/-- A text of plain characters is its own lower case. -/
theorem lowercase_of_plain {s : String} (plain : s.toList.all isPlain = true) :
    lowercase s = s := by
  rw [lowercase_eq_self_iff]
  exact fun c hc => settled_of_plain (List.all_eq_true.mp plain c hc)

end CatalogConsole.Text
