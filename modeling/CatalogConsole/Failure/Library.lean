import CatalogConsole.Value

/-! # Errors of the client library

The client library reports that the service refused a call, that it gave up trying again, or that
it has no usable credentials.  Every such error has a text of its own, may carry a message, and may
carry a status code.  The status code can be any value: the library does not see to it that it is a
number.

How the library puts its errors into words is not in this program's hands, so a `LibraryError` is no
more than the three things that can be asked of it.  What is documented of the errors with which the
service answers a call is `LibraryError.TellsCodeAndMessage`.  The functions that follow make the
errors of the library as it is, one for each way in which it puts them into words.
-/
namespace CatalogConsole

/-- The kinds of error with which the service answers a call. -/
inductive ApiErrorKind
  | apiCall
  | redirection
  | movedPermanently
  | notModified
  | temporaryRedirect
  | resumeIncomplete
  | client
  | badRequest
  | invalidArgument
  | failedPrecondition
  | outOfRange
  | unauthorized
  | unauthenticated
  | forbidden
  | permissionDenied
  | notFound
  | methodNotAllowed
  | conflict
  | alreadyExists
  | aborted
  | lengthRequired
  | preconditionFailed
  | requestRangeNotSatisfiable
  | tooManyRequests
  | resourceExhausted
  | cancelled
  | server
  | internal
  | unknown
  | dataLoss
  | methodNotImplemented
  | badGateway
  | serviceUnavailable
  | gatewayTimeout
  | deadlineExceeded
  deriving DecidableEq, Repr

/-- The status code that goes with a kind of error, for the kinds that have one. -/
def ApiErrorKind.statusCode? : ApiErrorKind → Option Nat
  | apiCall | redirection | client | server | unknown | dataLoss => none
  | movedPermanently => some 301
  | notModified => some 304
  | temporaryRedirect => some 307
  | resumeIncomplete => some 308
  | badRequest | invalidArgument | failedPrecondition | outOfRange => some 400
  | unauthorized | unauthenticated => some 401
  | forbidden | permissionDenied => some 403
  | notFound => some 404
  | methodNotAllowed => some 405
  | conflict | alreadyExists | aborted => some 409
  | lengthRequired => some 411
  | preconditionFailed => some 412
  | requestRangeNotSatisfiable => some 416
  | tooManyRequests | resourceExhausted => some 429
  | cancelled => some 499
  | internal => some 500
  | methodNotImplemented => some 501
  | badGateway => some 502
  | serviceUnavailable => some 503
  | gatewayTimeout | deadlineExceeded => some 504

/-- An error of the client library. -/
structure LibraryError where
  /-- The message that it carries, if it carries one. -/
  message? : Option String
  /-- The status code that it carries, which is null if it carries none. -/
  code : Value
  /-- Its text, or why it has none. -/
  text : Except ConversionError String

/-- A message in the middle of a text, which says so if it is missing. -/
def messageOrNone (message : Option String) : String :=
  message.getD "None"

namespace LibraryError

/-- The text of a code and a message. -/
def answerText (code : Value) (message : Option String) : Except ConversionError String := do
  let code ← code.printed
  return code ++ " " ++ messageOrNone message

/-- **What is documented of an error with which the service answers a call**: that its text is its code
and its message. -/
def TellsCodeAndMessage (e : LibraryError) : Prop :=
  e.text = answerText e.code e.message?

/-- The service answered a call with an error.  A code that is set on the error takes the place of the
one that goes with its kind. -/
def api (kind : ApiErrorKind) (message : Option String) (code : Option Value) : LibraryError :=
  let code := code.getD ((kind.statusCode?.map fun n => Value.int n).getD .null)
  ⟨message, code, answerText code message⟩

/-- A call was tried again until the time for it ran out.  No code is ever set on this error. -/
def retriesExhausted (message lastCause : Option String) : LibraryError :=
  ⟨message, .null, .ok (messageOrNone message ++ ", last exception: " ++ messageOrNone lastCause)⟩

/-- The text of the details of an error: nothing, the only one as it is, or a bracketed list. -/
def detailsText : List Value → Except ConversionError String
  | [] => .ok ""
  | [v] => v.printed
  | details => do
    let details ← Value.shownItems details
    return "(" ++ String.intercalate ", " details ++ ")"

/-- Something else went wrong, most often with the credentials. -/
def general (details : List Value) (code : Option Value) : LibraryError :=
  ⟨none, code.getD .null, detailsText details⟩

/-- The credentials have to be confirmed, and that failed. -/
def reauthentication (detail : Value) (code : Option Value) : LibraryError :=
  ⟨none, code.getD .null, do return "Reauthentication failed. " ++ (← detail.printed)⟩

theorem api_tells (kind : ApiErrorKind) (message : Option String) (code : Option Value) :
    (api kind message code).TellsCodeAndMessage := rfl

end LibraryError

end CatalogConsole
