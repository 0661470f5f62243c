import CatalogConsole.Proofs.NormalizedFailures
import CatalogConsole.Proofs.Numerals
import CatalogConsole.Time.Timestamp

/-! # Which values are integers

Status codes and the fields of an index time are converted in the same way, but what a failed conversion
comes to is different.  An index time cannot be read then, and the error is that of the seconds if they
have one (`IndexTime.read_fields_eq_error_iff`).  A status code that is refused counts as none, whatever is
wrong with it, but for the infinities, whose conversion fails in a way of its own (`statusCode_eq_none_iff`).

A text is converted to the integer that it stands for (`Value.toInteger_text_eq_ok_iff`), but not if it has
more digits than are read: such a text is refused although it stands for an integer
(`long_numeral_has_no_code`).
-/
namespace CatalogConsole

open Numeral

/-! ## Texts -/

namespace Value
variable {s : String}

/-- A text is converted by reading it, but its digits are counted first. -/
theorem toInteger_text_eq_ok_iff_read {n : Int} :
    (text s).toInteger = .ok n ↔ excess? s = none ∧ integer? s = some n := by
  rw [toInteger]
  cases excess? s <;> cases integer? s <;> simp

/-- **The texts that are converted** stand for an integer and do not have too many digits. -/
theorem toInteger_text_eq_ok_iff {n : Int} :
    (text s).toInteger = .ok n ↔ ∃ cs, StandsFor s cs n ∧ cs.length ≤ digitLimit := by
  rw [toInteger_text_eq_ok_iff_read, integer?_eq_some_iff]
  constructor
  · rintro ⟨few, cs, stands⟩
    refine ⟨cs, stands, ?_⟩
    rw [excess?_of_standsFor stands] at few
    by_contra many
    rw [if_pos (Nat.lt_of_not_le many)] at few
    cases few
  · rintro ⟨cs, stands, few⟩
    refine ⟨?_, cs, stands⟩
    rw [excess?_of_standsFor stands, if_neg (Nat.not_lt_of_le few)]

/-- One with too many digits is refused for that. -/
theorem toInteger_text_of_many {cs : List Char} {n : Int} (stands : StandsFor s cs n)
    (many : digitLimit < cs.length) : (text s).toInteger = .error (.tooManyDigits cs.length) := by
  have excess := excess?_of_standsFor stands
  rw [if_pos many] at excess
  simp only [toInteger, excess]

end Value

/-! ## Status codes -/

/-- **A value is refused**: it is of another kind than numbers are, or does not have their form. -/
def ConversionError.IsRefusal (e : ConversionError) : Prop := e.kind = .value ∨ e.kind = .type

/-- What is not converted is refused, unless it is an infinity, which is too large. -/
theorem Value.kind_of_toInteger {v : Value} {e : ConversionError} (failed : v.toInteger = .error e) :
    (e.IsRefusal ↔ e ≠ .infinite) ∧ (e.kind = .overflow ↔ e = .infinite) := by
  have refused (e : ConversionError) (h : e.IsRefusal) (other : e ≠ .infinite) :
      (e.IsRefusal ↔ e ≠ .infinite) ∧ (e.kind = .overflow ↔ e = .infinite) := by
    refine ⟨iff_of_true h other, iff_of_false (fun overflow => ?_) other⟩
    rcases h with kind | kind <;> rw [overflow] at kind <;> cases kind
  cases v with
  | null | list _ | record _ =>
    cases failed
    exact refused _ (.inr rfl) (by simp)
  | bool _ | int _ => cases failed
  | real x =>
    cases x with
    | nan =>
      cases failed
      exact refused _ (.inl rfl) (by simp)
    | infinite negative =>
      cases failed
      refine ⟨iff_of_false ?_ fun other => other rfl, iff_of_true rfl rfl⟩
      rintro (value | type)
      · cases value
      · cases type
    | finite negative significand exponent => cases failed
  | text s =>
    rw [toInteger] at failed
    split at failed <;> cases failed <;> exact refused _ (.inl rfl) (by simp)

section StatusCode
variable {v : Value}

/-- A value has a status code if it is converted, and it is the same integer. -/
theorem statusCode_eq_some_iff {n : Int} : statusCode v = .ok (some n) ↔ v.toInteger = .ok n := by
  rw [statusCode_eq_ok_iff]
  constructor
  · rintro (⟨m, integer, same⟩ | ⟨-, -, -, none⟩)
    · rw [integer, Option.some.inj same]
    · cases none
  · intro integer
    exact .inl ⟨n, integer, rfl⟩

/-- It has none if it is refused. -/
theorem statusCode_eq_none_iff :
    statusCode v = .ok none ↔ ∃ e, v.toInteger = .error e ∧ e.IsRefusal := by
  rw [statusCode_eq_ok_iff]
  constructor
  · rintro (⟨m, -, some⟩ | ⟨e, failed, finite, -⟩)
    · cases some
    · exact ⟨e, failed, (Value.kind_of_toInteger failed).1.mpr finite⟩
  · rintro ⟨e, failed, refused⟩
    exact .inr ⟨e, failed, (Value.kind_of_toInteger failed).1.mp refused, rfl⟩

/-- Only an infinity has a status code that is an error. -/
theorem statusCode_eq_error_iff {e : ConversionError} :
    statusCode v = .error e ↔ v.toInteger = .error e ∧ e = .infinite := by
  by_cases infinite : v.IsInfinite
  · rw [statusCode_of_infinite infinite, v.toInteger_eq_infinite_iff.mpr infinite]
    constructor
    · intro error
      cases error
      exact ⟨rfl, rfl⟩
    · rintro ⟨-, rfl⟩
      rfl
  · obtain ⟨code, read⟩ := statusCode_of_finite infinite
    rw [read]
    refine iff_of_false nofun ?_
    rintro ⟨failed, rfl⟩
    exact infinite (v.toInteger_eq_infinite_iff.mp failed)

end StatusCode

/-! ## Index times -/

namespace IndexTime
variable {seconds nanos : Value}

/-- Both fields have to be converted. -/
theorem read_fields_eq_ok_iff {t : Timestamp} : (fields seconds nanos).read = .ok t ↔
    seconds.toInteger = .ok t.seconds ∧ nanos.toInteger = .ok t.nanos := by
  obtain ⟨s, n⟩ := t
  rw [read]
  cases seconds.toInteger <;> cases nanos.toInteger <;> simp [bind, Except.bind, pure, Except.pure]

/-- The seconds come first. -/
theorem read_fields_eq_error_iff {e : ConversionError} : (fields seconds nanos).read = .error e ↔
    seconds.toInteger = .error e ∨
      (∃ s, seconds.toInteger = .ok s) ∧ nanos.toInteger = .error e := by
  rw [read]
  cases seconds.toInteger <;> cases nanos.toInteger <;> simp [bind, Except.bind, pure, Except.pure]

end IndexTime

/-! ## All of it -/

/-- **The integers that are read from values.**

No text is an error as a status code.  It has a code if it stands for an integer with no more digits than
are read, and that integer is the code.  Any other numeral is refused for its digits.  An integer that is
printed comes back, whatever blanks are put around it and wherever low lines are put between its digits,
as long as it has not too many of them.

An index time with two fields is read if both of them have status codes, and they are its parts.  Else
the error is that of the seconds if they are not converted, and that of the nanoseconds if only they
are not.

A status code is what the value is converted to.  There is none for null and what is refused, as an
unacceptable value or as one of the wrong type, and no other value than an infinity, which is too large,
is an error. -/
theorem integers_read_from_values (s : String) (n : Int) (x y : Value) :
    (∃ code, statusCode (.text s) = .ok code) ∧
    (statusCode (.text s) = .ok (some n) ↔ ∃ cs, StandsFor s cs n ∧ cs.length ≤ digitLimit) ∧
    (∀ cs, StandsFor s cs n → digitLimit < cs.length → statusCode (.text s) = .ok none ∧
      (Value.text s).toInteger = .error (.tooManyDigits cs.length)) ∧
    (toString n).toList = (Sign.ofInteger n).text ++ Nat.toDigits 10 n.natAbs ∧
    (∀ text, Grouped (Nat.toDigits 10 n.natAbs) text →
      Padded ((Sign.ofInteger n).text ++ text) s.toList →
        (Nat.toDigits 10 n.natAbs).length ≤ digitLimit → statusCode (.text s) = .ok (some n)) ∧
    (∀ t, (IndexTime.fields x y).read = .ok t ↔
      statusCode x = .ok (some t.seconds) ∧ statusCode y = .ok (some t.nanos)) ∧
    (∀ e, (IndexTime.fields x y).read = .error e ↔ x.toInteger = .error e ∨
      (∃ m, statusCode x = .ok (some m)) ∧ y.toInteger = .error e) ∧
    (statusCode x = .ok (some n) ↔ x.toInteger = .ok n) ∧
    (statusCode x = .ok none ↔
      x = .null ∨ ∃ e, x.toInteger = .error e ∧ (e.kind = .value ∨ e.kind = .type)) ∧
    (∀ e, statusCode x = .error e ↔ x.toInteger = .error e ∧ e = .infinite) ∧
    ∀ e, x.toInteger = .error e → (e.kind = .overflow ↔ e = .infinite) := by
  have coded : statusCode (.text s) = .ok (some n) ↔
      ∃ cs, StandsFor s cs n ∧ cs.length ≤ digitLimit :=
    statusCode_eq_some_iff.trans Value.toInteger_text_eq_ok_iff
  refine ⟨statusCode_of_finite nofun, coded, ?_, toList_toString n, ?_, ?_, ?_,
    statusCode_eq_some_iff, ?_, fun e => statusCode_eq_error_iff,
    fun e failed => (Value.kind_of_toInteger failed).2⟩
  · intro cs stands many
    have refused := Value.toInteger_text_of_many stands many
    exact ⟨statusCode_eq_none_iff.mpr ⟨_, refused, .inl rfl⟩, refused⟩
  · intro text grouped padded few
    exact coded.mpr ⟨_, ⟨_, padded, isNumeral_of_printed grouped⟩, few⟩
  · intro t
    rw [IndexTime.read_fields_eq_ok_iff, statusCode_eq_some_iff, statusCode_eq_some_iff]
  · intro e
    simp only [statusCode_eq_some_iff]
    exact IndexTime.read_fields_eq_error_iff
  · refine statusCode_eq_none_iff.trans (iff_or_self.mpr ?_)
    rintro rfl
    exact ⟨_, Value.toInteger_null, .inr rfl⟩

/-- There are numerals of the same integer with any number of digits. -/
theorem standsFor_seven (zeros : Nat) : StandsFor (String.ofList (List.replicate zeros '0' ++ ['7']))
    (List.replicate zeros '0' ++ ['7']) 7 := by
  have seven : Spells ['7'] 7 := ⟨[7], .cons (by decide) .nil, rfl⟩
  exact standsFor_digits (seven.zeros_append zeros) (List.append_ne_nil_of_right_ne_nil _ nofun)

/-- Zeros count, so it can have too many. -/
theorem seven_exceeds {zeros : Nat} (many : digitLimit ≤ zeros) :
    digitLimit < (List.replicate zeros '0' ++ ['7']).length := by
  rw [List.length_append, List.length_replicate]
  exact Nat.lt_succ_of_le many

/-- A numeral may have digits of several scripts, and of two fields that are refused the first counts. -/
theorem minus_thirty_four_read :
    statusCode (.text "\u2003-٣_4 ") = .ok (some (-34)) ∧
    statusCode (.text "-3_4\n") = .ok (some (-34)) ∧
    statusCode (.text (String.ofList (List.replicate 4300 '0' ++ ['7']))) = .ok none ∧
    (IndexTime.fields (.text "x") .null).read = .error (.malformed "x") := by
  obtain ⟨-, mixed, -⟩ := integers_read_from_values "\u2003-٣_4 " (-34) .null .null
  obtain ⟨-, -, -, -, printed, -⟩ := integers_read_from_values "-3_4\n" (-34) .null .null
  obtain ⟨-, -, long, -⟩ :=
    integers_read_from_values (String.ofList (List.replicate 4300 '0' ++ ['7'])) 7 .null .null
  obtain ⟨-, -, -, -, -, -, failed, -⟩ := integers_read_from_values "" 0 (.text "x") .null
  have spells : Spells ['٣', '4'] 34 := ⟨[3, 4], .cons (by decide) (.cons (by decide) .nil), rfl⟩
  have numeral : IsNumeral ['-', '٣', '_', '4'] ['٣', '4'] (-34) :=
    .mk .minus (.mk '٣' (.apart '4' .nil)) spells
  have grouped : Grouped (Nat.toDigits 10 (-34 : Int).natAbs) ['3', '_', '4'] :=
    .mk '3' (.apart '4' .nil)
  refine ⟨mixed.mpr ⟨['٣', '4'], ⟨_, ?_, numeral⟩, by decide⟩, printed _ grouped ?_ (by decide),
    (long _ (standsFor_seven 4300) (seven_exceeds (by decide))).1, (failed _).mpr (.inl rfl)⟩
  · exact ⟨['\u2003'], [' '], rfl, List.forall_mem_singleton.mpr (by decide),
      List.forall_mem_singleton.mpr (by decide)⟩
  · exact ⟨[], ['\n'], rfl, nofun, List.forall_mem_singleton.mpr (by decide)⟩

/-- **A numeral with too many digits has no code**, although it stands for an integer. -/
theorem long_numeral_has_no_code :
    StandsFor (String.ofList (List.replicate 4300 '0' ++ ['7']))
      (List.replicate 4300 '0' ++ ['7']) 7 ∧
    statusCode (.text (String.ofList (List.replicate 4300 '0' ++ ['7']))) = .ok none ∧
    ¬ ∀ s n, statusCode (.text s) = .ok (some n) ↔ ∃ cs, StandsFor s cs n := by
  have refused := Value.toInteger_text_of_many (standsFor_seven 4300) (seven_exceeds (by decide))
  have uncoded := statusCode_eq_none_iff.mpr ⟨_, refused, .inl rfl⟩
  refine ⟨standsFor_seven 4300, uncoded, fun always => ?_⟩
  have coded := (always _ 7).mpr ⟨_, standsFor_seven 4300⟩
  rw [uncoded] at coded
  cases coded

end CatalogConsole
