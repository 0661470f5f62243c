import CatalogConsole.Failure

/-! # Which failures are reported

A failure that reaches the console is reported if it is a failed call with a text, and let through
otherwise.  Errors of the client library become failed calls on the way, but for two exceptions.  An
error may have no text to describe the call by, and a status code that is an infinity cannot be read;
then the error is replaced by that reason.  `Failure.Reported` says this in terms of the failure as it
was raised, and `reported_iff` that it is the same as to have a report in the end.
-/
namespace CatalogConsole

/-- A value is an infinity of either sign. -/
def Value.IsInfinite (v : Value) : Prop := ∃ negative, v = .real (.infinite negative)

/-- Only an infinity is refused as one. -/
theorem Value.toInteger_eq_infinite_iff (v : Value) :
    v.toInteger = .error .infinite ↔ v.IsInfinite := by
  constructor
  · intro h
    cases v with
    | real x =>
      cases x with
      | infinite negative => exact ⟨negative, rfl⟩
      | nan => cases h
      | finite negative significand exponent => cases h
    | text s =>
      rw [toInteger] at h
      split at h <;> cases h
    | null | bool | int | list | record => cases h
  · rintro ⟨negative, rfl⟩
    rfl

/-- A status code can be read unless it is an infinity. -/
theorem statusCode_of_finite {v : Value} (finite : ¬ v.IsInfinite) :
    ∃ code, statusCode v = .ok code := by
  rw [← Value.toInteger_eq_infinite_iff] at finite
  unfold statusCode
  split
  · exact ⟨none, rfl⟩
  · split
    · exact ⟨_, rfl⟩
    · rename_i infinite
      exact absurd infinite finite
    · exact ⟨none, rfl⟩

/-- Which values have a status code, and which: the integer that they stand for, or none if they
stand for no integer.  Only an infinity has neither. -/
theorem statusCode_eq_ok_iff (v : Value) (code : Option Int) :
    statusCode v = .ok code ↔
      (∃ n, v.toInteger = .ok n ∧ code = some n) ∨
        ∃ reason, v.toInteger = .error reason ∧ reason ≠ .infinite ∧ code = none := by
  -- null is a value that stands for no integer, like others
  cases integer : v.toInteger with
  | ok n =>
    have read : statusCode v = .ok (some n) := by
      cases v <;> simp_all [statusCode]
    simp [read, eq_comm]
  | error reason =>
    have read : statusCode v = if reason = .infinite then .error .infinite else .ok none := by
      cases v <;> cases reason <;> simp_all [statusCode]
    by_cases infinite : reason = .infinite <;> simp [read, infinite, eq_comm]

theorem statusCode_of_infinite {v : Value} (infinite : v.IsInfinite) :
    statusCode v = .error .infinite := by
  obtain ⟨negative, rfl⟩ := infinite
  rfl

namespace CallError

/-- **A failed call that can be put into words**: it has a description, or a status code that can be
printed, which is all that it takes. -/
def HasText (c : CallError) : Prop :=
  (c.code = none → c.message ≠ none) ∧ ∀ n, c.code = some n → Numeral.Printable n

theorem text_of_some {c : CallError} {n : Int} (coded : c.code = some n)
    (printable : Numeral.Printable n) :
    c.text = .ok (toString n ++ " " ++ messageOrNone c.message) := by
  simp only [text, coded, printedInteger_of_printable printable]
  rfl

theorem text_of_none {c : CallError} {message : String} (uncoded : c.code = none)
    (described : c.message = some message) : c.text = .ok message := by
  rw [text, uncoded, described]

theorem text_of_long {c : CallError} {n : Int} (coded : c.code = some n)
    (long : ¬ Numeral.Printable n) : c.text = .error .unprintable := by
  simp only [text, coded, printedInteger_of_not_printable long]
  rfl

theorem text_of_nothing {c : CallError} (uncoded : c.code = none) (undescribed : c.message = none) :
    c.text = .error .textless := by
  rw [text, uncoded, undescribed]

/-- The text of a failed call is what makes it one that can be put into words. -/
theorem hasText_iff {c : CallError} : c.HasText ↔ ∃ text, c.text = .ok text := by
  cases code : c.code with
  | some n =>
    by_cases printable : Numeral.Printable n
    · simp [HasText, code, printable, text_of_some code printable]
    · simp [HasText, code, printable, text_of_long code printable]
  | none =>
    cases message : c.message with
    | some message => simp [HasText, code, message, text_of_none code message]
    | none => simp [HasText, code, message, text_of_nothing code message]

end CallError

namespace Failure

/-- **A failure that the console reports**: a failed call that can be put into words, or an error of the
client library that has a description and a status code and becomes one. -/
def Reported : Failure → Prop
  | call c => c.HasText
  | library e => ∃ description, e.description = .ok description ∧ ¬ e.code.IsInfinite ∧
      ∀ n, e.code.toInteger = .ok n → Numeral.Printable n
  | fault .. | conversion _ => False

/-- An error of the client library that can be described becomes a failed call unless its status code is
an infinity. -/
theorem normalized_library_of_finite {e : LibraryError} {description : String}
    (described : e.description = .ok description) (finite : ¬ e.code.IsInfinite) :
    ∃ code, statusCode e.code = .ok code ∧
      (library e).normalized = call ⟨some description, code⟩ := by
  obtain ⟨code, h⟩ := statusCode_of_finite finite
  refine ⟨code, h, ?_⟩
  simp [normalized, LibraryError.toCallError, described, h, bind, Except.bind, pure, Except.pure]

theorem normalized_library_of_infinite {e : LibraryError} {description : String}
    (described : e.description = .ok description) (infinite : e.code.IsInfinite) :
    (library e).normalized = conversion .infinite := by
  simp [normalized, LibraryError.toCallError, described, statusCode_of_infinite infinite, bind,
    Except.bind]

/-- One that cannot be described is replaced by the reason for that, whatever its status code. -/
theorem normalized_library_of_undescribed {e : LibraryError} {reason : ConversionError}
    (undescribed : e.description = .error reason) : (library e).normalized = conversion reason := by
  simp [normalized, LibraryError.toCallError, undescribed, bind, Except.bind]

/-- Any other failure stays as it is. -/
theorem normalized_of_ne_library {f : Failure} (other : ∀ e, f ≠ library e) : f.normalized = f := by
  cases f with
  | library e => exact absurd rfl (other e)
  | _ => rfl

/-- A failed call has a report if it has a text, and the report is just that. -/
theorem exists_report_call_iff {c : CallError} :
    (∃ text, (call c).report = .ok text) ↔ ∃ text, c.text = .ok text := by
  cases shown : c.text with
  | ok text => simp [report_call_of_ok shown]
  | error reason => simp [report_call_of_error shown]

/-- **A failure is reported if and only if it has a report in the end.** -/
theorem reported_iff (f : Failure) : f.Reported ↔ ∃ text, f.normalized.report = .ok text := by
  cases f with
  | call c =>
    rw [normalized_call, Reported, CallError.hasText_iff, exists_report_call_iff]
  | library e =>
    cases description : e.description with
    | error reason =>
      simp [Reported, description, normalized_library_of_undescribed description, report]
    | ok d =>
      by_cases infinite : e.code.IsInfinite
      · simp [Reported, description, infinite, normalized_library_of_infinite description infinite,
          report]
      · obtain ⟨code, read, becomes⟩ := normalized_library_of_finite description infinite
        -- the code of the failed call is the integer that the code of the error stands for, if any
        have coded : (∀ n, e.code.toInteger = .ok n → Numeral.Printable n) ↔
            (⟨some d, code⟩ : CallError).HasText := by
          rcases (statusCode_eq_ok_iff e.code code).mp read with
            ⟨n, integer, rfl⟩ | ⟨reason, refused, -, rfl⟩
          · simp [CallError.HasText, integer]
          · simp [CallError.HasText, refused]
        simp only [Reported, description, Except.ok.injEq, exists_eq_left', infinite,
          not_false_eq_true, true_and]
        rw [coded, becomes, CallError.hasText_iff, exists_report_call_iff]
  | fault | conversion =>
    refine ⟨False.elim, ?_⟩
    rintro ⟨text, h⟩
    cases h

/-- A failure that is reported is a failed call in the end, and its report is the text of that. -/
theorem call_of_report {f : Failure} {text : String} (h : f.report = .ok text) :
    ∃ c, f = call c ∧ c.text = .ok text := by
  cases f with
  | call c =>
    refine ⟨c, rfl, ?_⟩
    cases shown : c.text with
    | ok text' => rw [report_call_of_ok shown] at h; exact congrArg _ (Except.ok.inj h)
    | error reason => rw [report_call_of_error shown] at h; cases h
  | fault | conversion | library => cases h

/-- **What leaves in place of a failure that is not reported.** -/
structure LeavesAs (f g : Failure) : Prop where
  /-- A fault leaves as it is. -/
  kept : ∀ kind, f.kind? = some kind → g = f
  /-- So would a failed call, but there is nothing to say about it, -/
  textless : ∀ c, f = call c → c.code = none → g = conversion .textless
  /-- or its code has too many digits. -/
  long : ∀ c, f = call c → c.code ≠ none → g = conversion .unprintable
  /-- An error of the client library that has no description leaves as the reason for that, -/
  undescribed : ∀ e reason, f = library e → e.description = .error reason → g = conversion reason
  /-- one whose code is an infinity as the failure to read it, -/
  infinite : ∀ e d, f = library e → e.description = .ok d → e.code.IsInfinite →
    g = conversion .infinite
  /-- and any other because its code has too many digits. -/
  long_code : ∀ e d, f = library e → e.description = .ok d → ¬ e.code.IsInfinite →
    g = conversion .unprintable

namespace LeavesAs

theorem fault {f : Failure} {kind : FaultKind} (isFault : f.kind? = some kind) : f.LeavesAs f := by
  cases f with
  | fault | conversion =>
    refine ⟨fun _ _ => rfl, ?_, ?_, ?_, ?_, ?_⟩
    all_goals
      intros
      contradiction
  | call | library => cases isFault

theorem call_of_uncoded {c : CallError} (uncoded : c.code = none) :
    (call c).LeavesAs (conversion .textless) where
  kept := by rintro _ ⟨⟩
  textless := fun _ _ _ => rfl
  long := by
    rintro _ ⟨⟩ coded
    exact absurd uncoded coded
  undescribed := by rintro _ _ ⟨⟩
  infinite := by rintro _ _ ⟨⟩
  long_code := by rintro _ _ ⟨⟩

theorem call_of_coded {c : CallError} (coded : c.code ≠ none) :
    (call c).LeavesAs (conversion .unprintable) where
  kept := by rintro _ ⟨⟩
  textless := by
    rintro _ ⟨⟩ uncoded
    exact absurd uncoded coded
  long := fun _ _ _ => rfl
  undescribed := by rintro _ _ ⟨⟩
  infinite := by rintro _ _ ⟨⟩
  long_code := by rintro _ _ ⟨⟩

variable {e : LibraryError}

theorem library_of_undescribed {reason : ConversionError}
    (undescribed : e.description = .error reason) : (library e).LeavesAs (conversion reason) where
  kept := by rintro _ ⟨⟩
  textless := by rintro _ ⟨⟩
  long := by rintro _ ⟨⟩
  undescribed := by
    rintro _ _ ⟨⟩ other
    exact congrArg _ (Except.error.inj (undescribed.symm.trans other))
  infinite := by
    rintro _ _ ⟨⟩ described
    cases undescribed.symm.trans described
  long_code := by
    rintro _ _ ⟨⟩ described
    cases undescribed.symm.trans described

theorem library_of_infinite {d : String} (described : e.description = .ok d)
    (infinite : e.code.IsInfinite) : (library e).LeavesAs (conversion .infinite) where
  kept := by rintro _ ⟨⟩
  textless := by rintro _ ⟨⟩
  long := by rintro _ ⟨⟩
  undescribed := by
    rintro _ _ ⟨⟩ undescribed
    cases described.symm.trans undescribed
  infinite := fun _ _ _ _ _ => rfl
  long_code := by
    rintro _ _ ⟨⟩ - finite
    exact absurd infinite finite

theorem library_of_finite {d : String} (described : e.description = .ok d)
    (finite : ¬ e.code.IsInfinite) : (library e).LeavesAs (conversion .unprintable) where
  kept := by rintro _ ⟨⟩
  textless := by rintro _ ⟨⟩
  long := by rintro _ ⟨⟩
  undescribed := by
    rintro _ _ ⟨⟩ undescribed
    cases described.symm.trans undescribed
  infinite := by
    rintro _ _ ⟨⟩ - infinite
    exact absurd infinite finite
  long_code := fun _ _ _ _ _ => rfl

end LeavesAs

/-- A failed call without a text has nothing that could be one, or a code with too many digits. -/
theorem report_call_of_untold {c : CallError} (untold : ¬ c.HasText) :
    (c.code = none → (call c).report = .error (conversion .textless)) ∧
      (c.code ≠ none → (call c).report = .error (conversion .unprintable)) := by
  rw [CallError.HasText] at untold
  cases code : c.code with
  | none =>
    have undescribed : c.message = none := by simpa [code] using untold
    have leaves := report_call_of_error (CallError.text_of_nothing code undescribed)
    simp [leaves]
  | some n =>
    have long : ¬ Numeral.Printable n := by simpa [code] using untold
    have leaves := report_call_of_error (CallError.text_of_long code long)
    simp [leaves]

/-- **A failure that is not reported has no report**, and leaves as `LeavesAs` has it. -/
theorem exists_leavesAs {f : Failure} (unreported : ¬ f.Reported) :
    ∃ g, f.normalized.report = .error g ∧ f.LeavesAs g := by
  cases f with
  | fault | conversion => exact ⟨_, rfl, .fault rfl⟩
  | call c =>
    obtain ⟨textless, long⟩ := report_call_of_untold unreported
    by_cases uncoded : c.code = none
    · exact ⟨_, textless uncoded, .call_of_uncoded uncoded⟩
    · exact ⟨_, long uncoded, .call_of_coded uncoded⟩
  | library e =>
    cases description : e.description with
    | error reason =>
      refine ⟨conversion reason, ?_, .library_of_undescribed description⟩
      rw [normalized_library_of_undescribed description]
      rfl
    | ok d =>
      by_cases infinite : e.code.IsInfinite
      · refine ⟨conversion .infinite, ?_, .library_of_infinite description infinite⟩
        rw [normalized_library_of_infinite description infinite]
        rfl
      · obtain ⟨code, read, becomes⟩ := normalized_library_of_finite description infinite
        have untold : ¬ (⟨some d, code⟩ : CallError).HasText := by
          intro told
          obtain ⟨text, shown⟩ := CallError.hasText_iff.mp told
          refine unreported ((reported_iff _).mpr ⟨text, ?_⟩)
          rw [becomes, report_call_of_ok shown]
        have coded : code ≠ none := by
          rintro rfl
          exact untold ⟨fun _ => Option.some_ne_none d, fun _ none => by cases none⟩
        refine ⟨conversion .unprintable, ?_, .library_of_finite description infinite⟩
        rw [becomes]
        exact (report_call_of_untold untold).2 coded

/-- What leaves is a fault: neither a failed call nor an error of the client library ever does. -/
theorem kind?_of_report {f g : Failure} (leaves : f.normalized.report = .error g) :
    ∃ kind, g.kind? = some kind := by
  cases normal : f.normalized with
  | library e => exact absurd normal (normalized_ne_library f e)
  | call c =>
    rw [normal] at leaves
    cases shown : c.text with
    | ok text => rw [report_call_of_ok shown] at leaves; cases leaves
    | error reason =>
      rw [report_call_of_error shown] at leaves
      cases leaves
      exact ⟨_, rfl⟩
  | fault | conversion =>
    rw [normal] at leaves
    cases leaves
    exact ⟨_, rfl⟩

end Failure

end CatalogConsole
