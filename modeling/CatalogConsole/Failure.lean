import CatalogConsole.Failure.Library

/-! # Failures

`Failure` is everything that can stop an operation on the service: an error of the client library,
a failed call as this program reports it, a reply that cannot be read, or a fault of another kind
that comes from outside.  `Failure.normalized` is the only way from the first to the second: it
turns an error of the client library into a `CallError` and leaves all other failures alone.  Only a
failed call is ever reported to the user, and only if it has a text, which `Failure.report` gives.
-/
namespace CatalogConsole

/-- A call of the service that failed: a description and the status code, as far as they are known. -/
structure CallError where
  message : Option String
  code : Option Int := none
  deriving DecidableEq, Repr

/-- The text of a failed call: its description, after the status code if there is one.  Without a
status code nothing stands in for a description that is missing, and a status code may have too many
digits. -/
def CallError.text (e : CallError) : Except ConversionError String :=
  match e.code, e.message with
  | none, some message => .ok message
  | none, none => .error .textless
  | some n, message => do
    let code ← printedInteger n
    return code ++ " " ++ messageOrNone message

/-- What can stop an operation on the service. -/
inductive Failure
  | fault (kind : FaultKind) (detail : Value)
  | conversion (e : ConversionError)
  | call (e : CallError)
  | library (e : LibraryError)

/-- A status code as an integer.  A code that is missing, of another kind or malformed counts as
none, but an infinite one is an error. -/
def statusCode (code : Value) : Except ConversionError (Option Int) :=
  match code with
  | .null => .ok none
  | v =>
    match v.toInteger with
    | .ok n => .ok (some n)
    | .error .infinite => .error .infinite
    | .error _ => .ok none

namespace LibraryError

/-- The description of the failed call: the error's message unless it is missing or empty, and
else the whole text of the error, which it may not have. -/
def description (e : LibraryError) : Except ConversionError String :=
  match e.message? with
  | some m => if m = "" then e.text else .ok m
  | none => e.text

/-- The failed call that an error of the client library stands for. -/
def toCallError (e : LibraryError) : Except ConversionError CallError := do
  let description ← e.description
  let code ← statusCode e.code
  return ⟨some description, code⟩

end LibraryError

namespace Failure

/-- An error of the client library becomes a failed call, or the reason why its text or its status
code cannot be read.  Every other failure stays as it is. -/
def normalized : Failure → Failure
  | library e =>
    match e.toCallError with
    | .ok callError => call callError
    | .error reason => conversion reason
  | f => f

/-- The text of a failure, if it has one.  A missing key is shown as it is inside other values, in quotes
if it is a text. -/
def text : Failure → Except ConversionError String
  | fault .key detail => detail.shown
  | fault _ detail => detail.printed
  | conversion e => .ok e.message
  | call e => e.text
  | library e => e.text

/-- The kind of fault that a failure is, if it is one. -/
def kind? : Failure → Option FaultKind
  | fault kind _ => some kind
  | conversion e => some e.kind
  | call _ => none
  | library _ => none

/-- The text by which a failure is reported.  Only a failed call is; any other failure goes on, and so
does the reason why a failed call has no text. -/
def report : Failure → Except Failure String
  | call e => e.text.mapError conversion
  | f => .error f

/-- A failed call is reported by its text, -/
theorem report_call_of_ok {c : CallError} {text : String} (shown : c.text = .ok text) :
    (call c).report = .ok text := by
  rw [report, shown]
  rfl

/-- and the reason why it has none goes on. -/
theorem report_call_of_error {c : CallError} {reason : ConversionError}
    (untold : c.text = .error reason) : (call c).report = .error (conversion reason) := by
  rw [report, untold]
  rfl

/-- The failure to have credentials confirmed.  The error takes no more than one detail, so it cannot
even be made with more. -/
def reauthentication (details : List Value) (code : Option Value) : Failure :=
  match details with
  | [] => library (.reauthentication .null code)
  | [detail] => library (.reauthentication detail code)
  | _ =>
    fault .type (.text ("ReauthFailError.__init__() takes from 1 to 2 positional arguments but " ++
      toString (details.length + 1) ++ " were given"))

@[simp] theorem normalized_fault (kind : FaultKind) (detail : Value) :
    (fault kind detail).normalized = fault kind detail := rfl

@[simp] theorem normalized_conversion (e : ConversionError) :
    (conversion e).normalized = conversion e := rfl

@[simp] theorem normalized_call (e : CallError) : (call e).normalized = call e := rfl

/-- A normalized failure is never an error of the client library. -/
theorem normalized_ne_library (f : Failure) (e : LibraryError) : f.normalized ≠ library e := by
  cases f with
  | library e' => simp only [normalized]; cases e'.toCallError <;> simp
  | _ => simp [normalized]

/-- To normalize twice is to normalize once. -/
@[simp] theorem normalized_normalized (f : Failure) : f.normalized.normalized = f.normalized := by
  match h : f.normalized with
  | .library e => exact absurd h (normalized_ne_library f e)
  | .fault .. | .conversion .. | .call .. => rfl

end Failure

end CatalogConsole
