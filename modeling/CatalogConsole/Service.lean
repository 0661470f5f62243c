import CatalogConsole.Action

/-! # The service

Every operation on the service is one call, made through a client that is constructed when it is
first needed and then kept.  Around construction and call, errors of the client library turn into
failed calls, and a note for the log comes before each of the two.
-/
namespace CatalogConsole.Service

variable {α : Type}

/-- The logger that the notes of the service go to. -/
def logger : String := "product_search"

/-- An action on a resource, with a note before it and with errors of the client library
normalized. -/
def guarded (operation resource : String) (action : Action α) : Action α := do
  Action.note logger (operation ++ " " ++ resource)
  action.normalized

/-- Constructs a client, which is held if that works. -/
def construct : Action Unit :=
  ⟨fun remote link =>
    let trace := [Activity.event (.connect link.attempts)]
    match remote.construction link.attempts with
    | none => ⟨.ok (), ⟨true, link.attempts + 1⟩, trace⟩
    | some f => ⟨.error f, ⟨link.held, link.attempts + 1⟩, trace⟩⟩

/-- Makes sure that a client is held. -/
def connect : Action Unit :=
  ⟨fun remote link =>
    if link.held then ⟨.ok (), link, []⟩
    else (guarded "connect" "ProductSearchClient" construct).run remote link⟩

/-- Where a client is held, there is nothing to do. -/
@[simp] theorem run_connect_of_held (remote : Remote) (attempts : Nat) :
    connect.run remote ⟨true, attempts⟩ = ⟨.ok (), ⟨true, attempts⟩, []⟩ := rfl

/-- The note that comes before the construction of a client. -/
def connectNote : Activity :=
  .note ⟨.debug, logger, "connect ProductSearchClient"⟩

/-- A construction that works leaves the client held. -/
theorem run_connect_of_works {remote : Remote} {attempts : Nat}
    (works : remote.construction attempts = none) :
    connect.run remote ⟨false, attempts⟩ =
      ⟨.ok (), ⟨true, attempts + 1⟩, [connectNote, .event (.connect attempts)]⟩ := by
  simp [connect, guarded, construct, works, connectNote, Action.note]

/-- A construction that fails leaves no client. -/
theorem run_connect_of_fails {remote : Remote} {attempts : Nat} {f : Failure}
    (fails : remote.construction attempts = some f) :
    connect.run remote ⟨false, attempts⟩ =
      ⟨.error f.normalized, ⟨false, attempts + 1⟩, [connectNote, .event (.connect attempts)]⟩ := by
  simp [connect, guarded, construct, fails, connectNote, Action.note]

/-- Makes a call on the client. -/
def send (c : Call) : Action Reply :=
  ⟨fun remote link =>
    let trace := [Activity.event (.call c)]
    match remote.reply.failure with
    | none => ⟨.ok remote.reply, link, trace⟩
    | some f => ⟨.error f, link, trace⟩⟩

theorem run_send_of_answered {remote : Remote} (answered : remote.reply.failure = none) (c : Call)
    (link : Link) :
    (send c).run remote link = ⟨.ok remote.reply, link, [.event (.call c)]⟩ := by
  simp [send, answered]

theorem run_send_of_refused {remote : Remote} {f : Failure}
    (refused : remote.reply.failure = some f) (c : Call) (link : Link) :
    (send c).run remote link = ⟨.error f, link, [.event (.call c)]⟩ := by
  simp [send, refused]

/-- A whole operation: makes sure of a client, makes the call, and reads the reply. -/
def request (c : Call) (read : Reply → Except Failure α) : Action α :=
  guarded c.method c.resource do
    connect
    let reply ← send c
    Action.ofExcept (read reply)

/-- An operation that gives back a product set. -/
def requestSet (c : Call) : Action ProductSet :=
  request c fun reply => reply.productSet.read

/-- An operation that gives nothing back. -/
def order (c : Call) : Action Unit :=
  request c fun _ => .ok ()

end CatalogConsole.Service
