import CatalogConsole.Trace

/-! # Actions

An action works against the remote side.  It starts from the state of the link to the service, may
fail, and leaves a trace and the link in a new state.  Actions are put in sequence with `>>=`: the
second starts from the link that the first leaves and adds to its trace, and it does not take place
at all when the first fails.
-/
namespace CatalogConsole

/-- The link to the service: whether a client is held, and how many constructions of a client have
been attempted so far. -/
structure Link where
  held : Bool := false
  attempts : Nat := 0
  deriving DecidableEq, Repr

/-- What an action comes to: a result or a failure, the link afterwards and the trace. -/
structure Outcome (α : Type) where
  result : Except Failure α
  link : Link
  trace : Trace

/-- An action with results of type `α`. -/
@[ext] structure Action (α : Type) where
  /-- The outcome for this remote side, with the link in this state. -/
  run : Remote → Link → Outcome α

namespace Outcome

variable {α β γ : Type}

/-- The outcome of a first action followed by a second one, which starts from the first one's
result and link. -/
def andThen (first : Outcome α) (second : α → Link → Outcome β) : Outcome β :=
  match first.result with
  | .error f => ⟨.error f, first.link, first.trace⟩
  | .ok a =>
    let last := second a first.link
    ⟨last.result, last.link, first.trace ++ last.trace⟩

/-- The same outcome, except that an error of the client library becomes a failed call. -/
def normalized (outcome : Outcome α) : Outcome α :=
  match outcome.result with
  | .ok _ => outcome
  | .error f => { outcome with result := .error f.normalized }

@[simp] theorem normalized_ok (a : α) (link : Link) (trace : Trace) :
    (⟨.ok a, link, trace⟩ : Outcome α).normalized = ⟨.ok a, link, trace⟩ := rfl

@[simp] theorem normalized_error (f : Failure) (link : Link) (trace : Trace) :
    (⟨.error f, link, trace⟩ : Outcome α).normalized = ⟨.error f.normalized, link, trace⟩ := rfl

@[simp] theorem andThen_ok (a : α) (link : Link) (trace : Trace)
    (second : α → Link → Outcome β) :
    (⟨.ok a, link, trace⟩ : Outcome α).andThen second =
      ⟨(second a link).result, (second a link).link, trace ++ (second a link).trace⟩ := rfl

@[simp] theorem andThen_error (f : Failure) (link : Link) (trace : Trace)
    (second : α → Link → Outcome β) :
    (⟨.error f, link, trace⟩ : Outcome α).andThen second = ⟨.error f, link, trace⟩ := rfl

/-- Of three in a row it does not matter which two are taken together. -/
theorem andThen_assoc (first : Outcome α) (second : α → Link → Outcome β)
    (third : β → Link → Outcome γ) :
    (first.andThen second).andThen third =
      first.andThen fun a link => (second a link).andThen third := by
  obtain ⟨result, link, trace⟩ := first
  cases result with
  | error f => rfl
  | ok a =>
    simp only [andThen_ok]
    generalize second a link = middle
    obtain ⟨result, link, trace'⟩ := middle
    cases result <;> simp

end Outcome

namespace Action

variable {α β γ : Type}

/-- The action that does nothing and has this result. -/
def pure (a : α) : Action α :=
  ⟨fun _ link => ⟨.ok a, link, []⟩⟩

/-- One action after another. -/
def bind (first : Action α) (second : α → Action β) : Action β :=
  ⟨fun remote link => (first.run remote link).andThen fun a => (second a).run remote⟩

instance : Monad Action where
  pure := pure
  bind := bind

/-- The action that does nothing but fail. -/
def fail (f : Failure) : Action α :=
  ⟨fun _ link => ⟨.error f, link, []⟩⟩

/-- The action that does nothing and has the given result or failure. -/
def ofExcept : Except Failure α → Action α
  | .ok a => pure a
  | .error f => fail f

/-- The action that leaves one entry in the trace. -/
def emit (activity : Activity) : Action Unit :=
  ⟨fun _ link => ⟨.ok (), link, [activity]⟩⟩

/-- The action that does something visible. -/
def perform (e : Event) : Action Unit :=
  emit (.event e)

/-- The action that sends a debugging message to the log. -/
def note (logger message : String) : Action Unit :=
  emit (.note ⟨.debug, logger, message⟩)

/-- Writes lines on the output stream. -/
def say (lines : List String) : Action Unit :=
  perform (.out (textOfLines lines))

/-- Writes lines on the output stream, unless they cannot be printed. -/
def display (lines : Except ConversionError (List String)) : Action Unit := do
  say (← ofExcept (lines.mapError .conversion))

/-- Writes lines on the error stream. -/
def complain (lines : List String) : Action Unit :=
  perform (.err (textOfLines lines))

/-- The same action, except that an error of the client library becomes a failed call. -/
def normalized (action : Action α) : Action α :=
  ⟨fun remote link => (action.run remote link).normalized⟩

@[simp] theorem run_pure (a : α) (remote : Remote) (link : Link) :
    (Pure.pure a : Action α).run remote link = ⟨.ok a, link, []⟩ := rfl

@[simp] theorem run_bind (first : Action α) (second : α → Action β) (remote : Remote)
    (link : Link) :
    (first >>= second).run remote link =
      (first.run remote link).andThen fun a => (second a).run remote := rfl

theorem id_map (action : Action α) : id <$> action = action := by
  ext remote link
  change (action.run remote link).andThen (fun a link => ⟨.ok a, link, []⟩) = _
  obtain ⟨result, link, trace⟩ := action.run remote link
  cases result <;> simp

theorem bind_assoc (first : Action α) (second : α → Action β) (third : β → Action γ) :
    first >>= second >>= third = first >>= fun a => second a >>= third := by
  ext remote link
  simp only [run_bind]
  exact Outcome.andThen_assoc _ _ _

instance : LawfulMonad Action :=
  LawfulMonad.mk' Action id_map (fun a second => by ext remote link; simp) bind_assoc

@[simp] theorem run_fail (f : Failure) (remote : Remote) (link : Link) :
    (fail f : Action α).run remote link = ⟨.error f, link, []⟩ := rfl

@[simp] theorem run_map (f : α → β) (action : Action α) (remote : Remote) (link : Link) :
    (f <$> action).run remote link =
      ⟨(action.run remote link).result.map f, (action.run remote link).link,
        (action.run remote link).trace⟩ := by
  change (action.run remote link).andThen (fun a link => ⟨.ok (f a), link, []⟩) = _
  obtain ⟨result, link, trace⟩ := action.run remote link
  cases result <;> simp [Except.map]

@[simp] theorem fail_bind (f : Failure) (second : α → Action β) : fail f >>= second = fail f := rfl

@[simp] theorem run_ofExcept (e : Except Failure α) (remote : Remote) (link : Link) :
    (ofExcept e).run remote link = ⟨e, link, []⟩ := by
  cases e <;> rfl

/-- What can be printed is written, and else there is the reason why not. -/
@[simp] theorem display_ok (lines : List String) : display (.ok lines) = say lines := rfl

@[simp] theorem display_error (reason : ConversionError) :
    display (.error reason) = fail (.conversion reason) := rfl

@[simp] theorem run_emit (activity : Activity) (remote : Remote) (link : Link) :
    (emit activity).run remote link = ⟨.ok (), link, [activity]⟩ := rfl

@[simp] theorem run_normalized (action : Action α) (remote : Remote) (link : Link) :
    action.normalized.run remote link = (action.run remote link).normalized := rfl

end Action

end CatalogConsole
