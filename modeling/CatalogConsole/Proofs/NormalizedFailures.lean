import CatalogConsole.Proofs.FailureReports
import CatalogConsole.Service

/-! # What becomes of a failure

A guarded action normalizes its failure: an error of the client library becomes a failed call, and
any other failure stays as it is.  `LibraryError.StandsFor` says which failed call that is, field by
field. The description is the error's own message, or its text if it has none, and the code is the
integer that the error's code stands for, or none if that stands for no integer.  There is no failed
call if the description would have to be a text that the error does not have, or if the code is an
infinity, and the failure is then the reason for that (`LibraryError.toCallError_eq_ok_iff`).

A failed call is put into words much as the error of an answered call is, but not quite: an error
without a message has its code twice in the words of the failed call, since its text, which begins
with the code, takes the place of the message (`failures_normalized`).  A code with too many digits
cannot be put into words at all (`long_code_without_text`).
-/
namespace CatalogConsole

/-! ## The failed call -/

namespace LibraryError

/-- An error that does not carry a message that could describe a call. -/
def LacksMessage (e : LibraryError) : Prop := e.message? = none ∨ e.message? = some ""

/-- **The failed call that an error of the client library stands for**: what its fields are. -/
structure StandsFor (e : LibraryError) (c : CallError) : Prop where
  /-- A message that is not empty is the description. -/
  own_message : ∀ m, e.message? = some m → m ≠ "" → c.message = some m
  /-- In place of one that is missing or empty there is the text of the error. -/
  own_text : e.LacksMessage → ∃ t, e.text = .ok t ∧ c.message = some t
  /-- The code is the integer that the error's code stands for. -/
  code_eq_some : ∀ n, e.code.toInteger = .ok n → c.code = some n
  /-- There is none if that stands for no integer. -/
  code_eq_none : ∀ reason, e.code.toInteger = .error reason → c.code = none

theorem description_of_message {e : LibraryError} {m : String} (own : e.message? = some m)
    (nonempty : m ≠ "") : e.description = .ok m := by
  simp only [description, own, if_neg nonempty]

theorem description_of_text {e : LibraryError} (lacks : e.LacksMessage) : e.description = e.text := by
  rcases lacks with missing | empty
  · simp only [description, missing]
  · simp only [description, empty, if_true]

/-- Either an error carries a message that describes the call, or its text has to. -/
theorem message_cases (e : LibraryError) :
    (∃ m, e.message? = some m ∧ m ≠ "") ∨ e.LacksMessage := by
  cases own : e.message? with
  | none => exact .inr (.inl own)
  | some m =>
    by_cases empty : m = ""
    · exact .inr (.inr (empty ▸ own))
    · exact .inl ⟨m, rfl, empty⟩

/-- Only an error without message and text has no description. -/
theorem description_eq_error_iff {e : LibraryError} {reason : ConversionError} :
    e.description = .error reason ↔ e.LacksMessage ∧ e.text = .error reason := by
  constructor
  · intro undescribed
    rcases e.message_cases with ⟨m, own, nonempty⟩ | lacks
    · rw [description_of_message own nonempty] at undescribed
      cases undescribed
    · exact ⟨lacks, description_of_text lacks ▸ undescribed⟩
  · rintro ⟨lacks, textless⟩
    rw [description_of_text lacks, textless]

/-- The description of an error is the only one that a failed call in its place can have. -/
theorem StandsFor.description_eq {e : LibraryError} {c : CallError} (h : e.StandsFor c) :
    ∃ d, e.description = .ok d ∧ c.message = some d := by
  rcases e.message_cases with ⟨m, own, nonempty⟩ | lacks
  · exact ⟨m, description_of_message own nonempty, h.own_message m own nonempty⟩
  · obtain ⟨t, shown, described⟩ := h.own_text lacks
    exact ⟨t, (description_of_text lacks).trans shown, described⟩

/-- **An error whose code is finite becomes the failed call that it stands for**, and no other. -/
theorem toCallError_eq_ok_iff {e : LibraryError} (finite : ¬ e.code.IsInfinite) (c : CallError) :
    e.toCallError = .ok c ↔ e.StandsFor c := by
  obtain ⟨code, read⟩ := statusCode_of_finite finite
  have codes := (statusCode_eq_ok_iff e.code code).mp read
  have becomes {d : String} (described : e.description = .ok d) :
      e.toCallError = .ok ⟨some d, code⟩ := by
    rw [toCallError, described, read]
    rfl
  constructor
  · intro h
    cases described : e.description with
    | error reason =>
      rw [toCallError, described] at h
      cases h
    | ok d =>
      obtain rfl : c = ⟨some d, code⟩ := Except.ok.inj (h.symm.trans (becomes described))
      refine ⟨fun m own nonempty => ?_, fun lacks => ⟨d, ?_, rfl⟩, fun n integer => ?_,
        fun reason refused => ?_⟩
      · rw [description_of_message own nonempty] at described
        exact congrArg some (Except.ok.inj described).symm
      · exact (description_of_text lacks).symm.trans described
      · rcases codes with ⟨n', integer', rfl⟩ | ⟨reason, refused, -, -⟩
        · exact congrArg some (Except.ok.inj (integer'.symm.trans integer))
        · cases refused.symm.trans integer
      · rcases codes with ⟨n, integer, -⟩ | ⟨-, -, -, rfl⟩
        · cases integer.symm.trans refused
        · rfl
  · intro stands
    obtain ⟨d, described, message⟩ := stands.description_eq
    obtain ⟨message', code'⟩ := c
    obtain rfl : message' = some d := message
    rw [becomes described]
    rcases codes with ⟨n, integer, rfl⟩ | ⟨reason, refused, -, rfl⟩
    · obtain rfl : code' = some n := stands.code_eq_some n integer
      rfl
    · obtain rfl : code' = none := stands.code_eq_none reason refused
      rfl

/-- An error with which the service answers a call carries the code of its kind. -/
theorem code_api_of_some {kind : ApiErrorKind} {n : Nat} (coded : kind.statusCode? = some n)
    (message : Option String) : (api kind message none).code = .int n := by
  simp [api, coded]

theorem code_api_of_none {kind : ApiErrorKind} (uncoded : kind.statusCode? = none)
    (message : Option String) : (api kind message none).code = .null := by
  simp [api, uncoded]

/-- The codes of all kinds can be printed. -/
theorem printable_statusCode {kind : ApiErrorKind} {n : Nat} (coded : kind.statusCode? = some n) :
    Numeral.Printable (n : Int) := by
  have small : n ≤ 504 := by
    cases kind <;> simp_all [ApiErrorKind.statusCode?] <;> omega
  exact Numeral.printable_of_natAbs_le (m := 504) (by simpa using small) (by decide)

end LibraryError

/-- A failed call that an error of the client library has become is the one in its place. -/
theorem Failure.normalized_library_eq_call_iff {e : LibraryError} {c : CallError} :
    (library e).normalized = call c ↔ e.toCallError = .ok c := by
  rw [normalized]
  cases e.toCallError <;> simp

/-- **A failed call in words**: its description, behind its code if it has one that can be printed. -/
theorem CallError.text_of_described {c : CallError} {m : String} (described : c.message = some m) :
    (∀ n, c.code = some n → Numeral.Printable n → c.text = .ok (toString n ++ " " ++ m)) ∧
      (∀ n, c.code = some n → ¬ Numeral.Printable n → c.text = .error .unprintable) ∧
      (c.code = none → c.text = .ok m) := by
  refine ⟨fun n coded printable => ?_, fun n => text_of_long, fun uncoded => ?_⟩
  · rw [text_of_some coded printable, described]
    rfl
  · exact text_of_none uncoded described

/-- **A failed call and the error that it stands for in words**, where the error tells its code and its
message.  They say the same if the error has both.  Without a message the failed call says the code
once more, and without a code it has nothing in front of its description. -/
theorem LibraryError.StandsFor.text_eq {e : LibraryError} {c : CallError} (h : e.StandsFor c)
    (tells : e.TellsCodeAndMessage) :
    (∀ n, e.code = .int n → Numeral.Printable n →
      (∀ m, e.message? = some m → m ≠ "" → c.text = e.text) ∧
      (e.LacksMessage → ∃ t, e.text = .ok t ∧ c.text = .ok (toString n ++ " " ++ t))) ∧
    (e.code = .null →
      (∀ m, e.message? = some m → m ≠ "" → c.text = .ok m) ∧
      (e.LacksMessage → c.text = e.text)) := by
  constructor
  · intro n isInt printable
    have code : c.code = some n := h.code_eq_some n (by rw [isInt, Value.toInteger_int])
    constructor
    · intro m own nonempty
      rw [CallError.text_of_some code printable, h.own_message m own nonempty, tells, own, isInt,
        answerText, Value.printed_int, printedInteger_of_printable printable]
      rfl
    · intro lacks
      obtain ⟨t, shown, described⟩ := h.own_text lacks
      exact ⟨t, shown, (CallError.text_of_described described).1 n code printable⟩
  · intro isNull
    have code : c.code = none := h.code_eq_none _ (by rw [isNull, Value.toInteger_null])
    constructor
    · intro m own nonempty
      exact CallError.text_of_none code (h.own_message m own nonempty)
    · intro lacks
      obtain ⟨t, shown, described⟩ := h.own_text lacks
      rw [shown, CallError.text_of_none code described]

/-! ## Guarded actions -/

namespace Service

variable {α : Type} {action : Action α} {remote : Remote} {link : Link}

/-- What a guarded action fails with is the failure normalized. -/
theorem result_guarded_of_error (operation resource : String) {f : Failure}
    (raised : (action.run remote link).result = .error f) :
    ((guarded operation resource action).run remote link).result = .error f.normalized := by
  rcases ran : action.run remote link with ⟨result, link', trace⟩
  obtain rfl : result = .error f := by rw [← raised, ran]
  simp [guarded, Action.note, ran]

/-- What it has as its result is the result. -/
theorem result_guarded_of_ok (operation resource : String) {a : α}
    (returned : (action.run remote link).result = .ok a) :
    ((guarded operation resource action).run remote link).result = .ok a := by
  rcases ran : action.run remote link with ⟨result, link', trace⟩
  obtain rfl : result = .ok a := by rw [← returned, ran]
  simp [guarded, Action.note, ran]

/-- **To guard an action twice changes nothing about what it comes to.** -/
theorem result_guarded_guarded (operation resource operation' resource' : String)
    (action : Action α) (remote : Remote) (link : Link) :
    ((guarded operation' resource' (guarded operation resource action)).run remote link).result =
      ((guarded operation resource action).run remote link).result := by
  cases came : (action.run remote link).result with
  | ok a =>
    have once := result_guarded_of_ok operation resource came
    rw [once, result_guarded_of_ok operation' resource' once]
  | error f =>
    have once := result_guarded_of_error operation resource came
    rw [once, result_guarded_of_error operation' resource' once, Failure.normalized_normalized]

end Service

/-- **What a guarded action fails with.**  A failure that is not an error of the client library is
let through.  An error whose code is finite, and which has a message or else a text, becomes the failed
call that it stands for; this says its code, if it has one, and then its description, unless the code
has too many digits.  Where a text is needed and there is none, the reason for that takes the place of
the error, and so does the failure to read a code that is infinite.  Another guard around the first
changes nothing.

An error that tells its code and its message is put into the words of the failed call as into its own
if it has both.  Those with which the service answers a call do so, each with the code of its kind. -/
theorem failures_normalized {α : Type} (operation resource : String) (action : Action α)
    (remote : Remote) (link : Link) :
    let inside := (action.run remote link).result
    let outside := ((Service.guarded operation resource action).run remote link).result
    (∀ f, inside = .error f → (∀ e, f ≠ .library e) → outside = .error f) ∧
    (∀ e, inside = .error (.library e) → ¬ e.code.IsInfinite →
      (e.LacksMessage → ∃ t, e.text = .ok t) →
      ∃ c m, outside = .error (.call c) ∧ e.StandsFor c ∧ c.message = some m ∧
        (∀ n, c.code = some n → Numeral.Printable n → c.text = .ok (toString n ++ " " ++ m)) ∧
        (∀ n, c.code = some n → ¬ Numeral.Printable n → c.text = .error .unprintable) ∧
        (c.code = none → c.text = .ok m)) ∧
    (∀ e reason, inside = .error (.library e) → e.LacksMessage → e.text = .error reason →
      outside = .error (.conversion reason)) ∧
    (∀ e, inside = .error (.library e) → e.code.IsInfinite →
      (e.LacksMessage → ∃ t, e.text = .ok t) →
      ∃ f, outside = .error f ∧ f = .conversion .infinite ∧ f.kind? = some .overflow) ∧
    (∀ operation' resource', ((Service.guarded operation' resource'
      (Service.guarded operation resource action)).run remote link).result = outside) ∧
    (∀ e, inside = .error (.library e) → e.TellsCodeAndMessage →
      (∀ n, e.code = .int n → Numeral.Printable n → ∃ c, outside = .error (.call c) ∧
        (∀ m, e.message? = some m → m ≠ "" → c.text = e.text) ∧
        (e.LacksMessage → ∃ t, e.text = .ok t ∧ c.text = .ok (toString n ++ " " ++ t))) ∧
      (e.code = .null → ∃ c, outside = .error (.call c) ∧
        (∀ m, e.message? = some m → m ≠ "" → c.text = .ok m) ∧
        (e.LacksMessage → c.text = e.text))) ∧
    ∀ kind message,
      let e := LibraryError.api kind message none
      e.TellsCodeAndMessage ∧ e.message? = message ∧
        (∀ n, kind.statusCode? = some n → e.code = .int n ∧ Numeral.Printable (n : Int)) ∧
        (kind.statusCode? = none → e.code = .null) := by
  intro inside outside
  have left {f : Failure} (raised : inside = .error f) : outside = .error f.normalized :=
    Service.result_guarded_of_error operation resource raised
  have described {e : LibraryError} (worded : e.LacksMessage → ∃ t, e.text = .ok t) :
      ∃ d, e.description = .ok d := by
    rcases e.message_cases with ⟨m, own, nonempty⟩ | lacks
    · exact ⟨m, LibraryError.description_of_message own nonempty⟩
    · rw [LibraryError.description_of_text lacks]
      exact worded lacks
  have becomes {e : LibraryError} (raised : inside = .error (.library e))
      (finite : ¬ e.code.IsInfinite) (worded : e.LacksMessage → ∃ t, e.text = .ok t) :
      ∃ c, outside = .error (.call c) ∧ e.StandsFor c := by
    obtain ⟨d, isDescription⟩ := described worded
    obtain ⟨code, -, called⟩ := Failure.normalized_library_of_finite isDescription finite
    exact ⟨_, (left raised).trans (congrArg _ called), (LibraryError.toCallError_eq_ok_iff finite _).mp
      (Failure.normalized_library_eq_call_iff.mp called)⟩
  refine ⟨?_, ?_, ?_, ?_, ?_, ?_, ?_⟩
  · intro f raised other
    rw [left raised, Failure.normalized_of_ne_library other]
  · intro e raised finite worded
    obtain ⟨c, called, stands⟩ := becomes raised finite worded
    obtain ⟨m, -, message⟩ := stands.description_eq
    exact ⟨c, m, called, stands, message, CallError.text_of_described message⟩
  · intro e reason raised lacks textless
    rw [left raised, Failure.normalized_library_of_undescribed
      (LibraryError.description_eq_error_iff.mpr ⟨lacks, textless⟩)]
  · intro e raised infinite worded
    obtain ⟨d, isDescription⟩ := described worded
    rw [left raised, Failure.normalized_library_of_infinite isDescription infinite]
    exact ⟨_, rfl, rfl, rfl⟩
  · intro operation' resource'
    exact Service.result_guarded_guarded operation resource operation' resource' action remote link
  · intro e raised tells
    constructor
    · intro n isInt printable
      have finite : ¬ e.code.IsInfinite := by
        rw [isInt]
        rintro ⟨negative, ⟨⟩⟩
      have text : e.text = .ok (toString n ++ " " ++ messageOrNone e.message?) := by
        rw [tells, isInt, LibraryError.answerText, Value.printed_int,
          printedInteger_of_printable printable]
        rfl
      obtain ⟨c, called, stands⟩ := becomes raised finite fun _ => ⟨_, text⟩
      exact ⟨c, called, (stands.text_eq tells).1 n isInt printable⟩
    · intro isNull
      have finite : ¬ e.code.IsInfinite := by
        rw [isNull]
        rintro ⟨negative, ⟨⟩⟩
      have text : e.text = .ok ("None" ++ " " ++ messageOrNone e.message?) := by
        rw [tells, isNull, LibraryError.answerText, Value.printed_null]
        rfl
      obtain ⟨c, called, stands⟩ := becomes raised finite fun _ => ⟨_, text⟩
      exact ⟨c, called, (stands.text_eq tells).2 isNull⟩
  · intro kind message e
    exact ⟨LibraryError.api_tells kind message none, rfl,
      fun n coded => ⟨LibraryError.code_api_of_some coded message,
        LibraryError.printable_statusCode coded⟩,
      fun uncoded => LibraryError.code_api_of_none uncoded message⟩

/-- A guarded action lets a missing key through.  A code that is a numeral is read, and the details
of an error are its description; an infinite code takes the place of its error; and an error without
a message says its code twice. -/
theorem guarded_failures_told :
    let outside (f : Failure) :=
      ((Service.guarded "connect" "client" (Action.fail f : Action Unit)).run {} {}).result
    let expired : LibraryError :=
      .general [.text "token", .int 7] (some (.text " +4_2 "))
    let lost : LibraryError := .general [] (some (.real (.infinite true)))
    outside (.fault .key (.text "bug")) = .error (.fault .key (.text "bug")) ∧
    (∃ c, outside (.library expired) = .error (.call c) ∧ c.text = .ok "42 ('token', 7)") ∧
    outside (.library lost) = .error (.conversion .infinite) ∧
    ∃ c, outside (.library (.api .notFound (some "") none)) = .error (.call c) ∧
      c.text = .ok "404 404 " := by
  intro outside expired lost
  have finite : ¬ expired.code.IsInfinite := by
    rintro ⟨negative, infinite⟩
    cases infinite
  have details : expired.text = .ok "('token', 7)" := by
    have token : Text.quoted "token" = "'token'" := by decide +kernel
    have seven : printedInteger 7 = .ok "7" := printedInteger_of_printable (by decide)
    have items : Value.shownItems [.text "token", .int 7] = .ok ["'token'", "7"] := by
      simp only [Value.shownItems, Value.shown, token, seven]
      rfl
    change LibraryError.detailsText [.text "token", .int 7] = _
    rw [LibraryError.detailsText, items]
    rfl
    all_goals simp
  obtain ⟨through, -⟩ := failures_normalized "connect" "client"
    (Action.fail (.fault .key (.text "bug")) : Action Unit) {} {}
  obtain ⟨-, called, -⟩ := failures_normalized "connect" "client"
    (Action.fail (.library expired) : Action Unit) {} {}
  obtain ⟨-, -, -, replaced, -⟩ := failures_normalized "connect" "client"
    (Action.fail (.library lost) : Action Unit) {} {}
  obtain ⟨-, -, -, -, -, answered, kinds⟩ := failures_normalized "connect" "client"
    (Action.fail (.library (.api .notFound (some "") none)) : Action Unit) {} {}
  refine ⟨through _ rfl ?_, ?_, ?_, ?_⟩
  · intro e same
    cases same
  · obtain ⟨c, m, told, stands, described, text, -⟩ := called _ rfl finite fun _ => ⟨_, details⟩
    refine ⟨c, told, ?_⟩
    obtain ⟨t, shown, message⟩ := stands.own_text (.inl rfl)
    obtain rfl : t = "('token', 7)" := Except.ok.inj (shown.symm.trans details)
    obtain rfl : m = "('token', 7)" := Option.some.inj (described.symm.trans message)
    rw [text 42 (stands.code_eq_some 42 rfl) (by decide)]
    rfl
  · obtain ⟨f, told, isInfinite, -⟩ := replaced _ rfl ⟨true, rfl⟩ fun _ => ⟨_, rfl⟩
    rw [← isInfinite]
    exact told
  · obtain ⟨tells, -, coded, -⟩ := kinds .notFound (some "")
    obtain ⟨code, printable⟩ := coded 404 rfl
    obtain ⟨c, told, -, twice⟩ := (answered _ rfl tells).1 _ code printable
    obtain ⟨t, shown, text⟩ := twice (.inr rfl)
    refine ⟨c, told, ?_⟩
    obtain rfl : t = "404 " := Except.ok.inj (shown.symm.trans (by rfl))
    rw [text]
    rfl

/-- **A code with too many digits** has no text.  If the error has no message, the reason for that takes
the place of the failed call, and if it has one, the failed call cannot be put into words.  An error
that takes one detail cannot even be made with two. -/
theorem long_code_without_text :
    let outside (f : Failure) :=
      ((Service.guarded "connect" "client" (Action.fail f : Action Unit)).run {} {}).result
    let long : Value := .int Numeral.firstLong
    ¬ long.IsInfinite ∧
    outside (.library (.api .apiCall (some "") (some long))) = .error (.conversion .unprintable) ∧
    (∃ c, outside (.library (.api .apiCall (some "gone") (some long))) = .error (.call c) ∧
      c.text = .error .unprintable) ∧
    outside (.reauthentication [.text "a", .text "b"] none) = .error (.fault .type (.text
      "ReauthFailError.__init__() takes from 1 to 2 positional arguments but 3 were given")) := by
  intro outside long
  have unprintable : LibraryError.answerText long (some "") = .error .unprintable := by
    rw [LibraryError.answerText, Value.printed_int,
      printedInteger_of_not_printable Numeral.not_printable_firstLong]
    rfl
  refine ⟨fun ⟨_, infinite⟩ => (nomatch infinite), ?_,
    ⟨⟨some "gone", some Numeral.firstLong⟩, rfl,
      CallError.text_of_long rfl Numeral.not_printable_firstLong⟩, rfl⟩
  have left : outside (.library (.api .apiCall (some "") (some long))) = .error _ := rfl
  rw [left, Failure.normalized_library_of_undescribed (e := .api .apiCall (some "") (some long))
    (LibraryError.description_eq_error_iff.mpr ⟨.inr rfl, unprintable⟩)]

end CatalogConsole
