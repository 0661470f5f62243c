import CatalogConsole.Service

/-! # Listings

A listing gives the elements that a query gets back, one at a time.  The call is made when the
first element is asked for, and an element is fetched only when it is asked for.  A listing is
finished once it has found the end or has failed in any way, and after that it does nothing.
`drain` takes all elements in turn, and `drain_eq_next` says that it does so by asking for the next
one until there is none.
-/
namespace CatalogConsole

/-- A listing of what a query gets back. -/
inductive Listing
  /-- Nothing has been asked for. -/
  | fresh (query : Query)
  /-- The call has been made; these elements are left, of which the first has this number. -/
  | running (index : Nat) (rest : List (Except Failure Entry))
  /-- There is nothing left to ask for. -/
  | finished

namespace Listing

/-- Makes the call of a listing. -/
def start (query : Query) : Action (List (Except Failure Entry)) :=
  Service.request (.list query) fun reply => .ok (reply.elements query)

/-- Fetches the next of the elements that are left. -/
def advance (index : Nat) : List (Except Failure Entry) → Action (Option Entry × Listing)
  | [] => do
    Action.perform (.fetch index)
    return (none, finished)
  | .ok entry :: rest => do
    Action.perform (.fetch index)
    return (some entry, running (index + 1) rest)
  | .error f :: _ => do
    Action.perform (.fetch index)
    Action.fail f.normalized

/-- The next element, if there is one, and the listing after it.  When this fails the listing is
finished. -/
def next : Listing → Action (Option Entry × Listing)
  | fresh query => do advance 0 (← start query)
  | running index rest => advance index rest
  | finished => return (none, finished)

/-- Takes all elements that are left, with an action on each before the next is fetched. -/
def drainFrom (visit : Entry → Action Unit) (index : Nat) :
    List (Except Failure Entry) → Action (List Entry)
  | [] => do
    Action.perform (.fetch index)
    return []
  | .ok entry :: rest => do
    Action.perform (.fetch index)
    visit entry
    return entry :: (← drainFrom visit (index + 1) rest)
  | .error f :: _ => do
    Action.perform (.fetch index)
    Action.fail f.normalized

/-- Takes all elements of a listing, with an action on each before the next is fetched. -/
def drain (visit : Entry → Action Unit) : Listing → Action (List Entry)
  | fresh query => do drainFrom visit 0 (← start query)
  | running index rest => drainFrom visit index rest
  | finished => return []

theorem drainFrom_eq_advance (visit : Entry → Action Unit) (index : Nat)
    (rest : List (Except Failure Entry)) :
    drainFrom visit index rest = do
      let (found, rest) ← advance index rest
      match found with
      | none => return []
      | some entry =>
        visit entry
        return entry :: (← drain visit rest) := by
  match rest with
  | [] => simp [drainFrom, advance]
  | .ok entry :: rest => simp [drainFrom, advance, drain]
  | .error f :: rest => simp [drainFrom, advance]

/-- To take all elements is to ask for the next one, act on it, and take all that are left then. -/
theorem drain_eq_next (visit : Entry → Action Unit) (listing : Listing) :
    drain visit listing = do
      let (found, rest) ← next listing
      match found with
      | none => return []
      | some entry =>
        visit entry
        return entry :: (← drain visit rest) := by
  cases listing with
  | finished => simp [drain, next]
  | running index rest => exact drainFrom_eq_advance visit index rest
  | fresh query =>
    simp only [drain, next, bind_assoc]
    exact congrArg _ (funext (drainFrom_eq_advance visit 0))

section Stop
variable {α : Type}

/-- The number of the first element that fails, or that of the one after the last if none does. -/
def stop (elements : List (Except Failure α)) : Nat :=
  elements.findIdx fun x => !x.isOk

@[simp] theorem stop_nil : stop ([] : List (Except Failure α)) = 0 := rfl

@[simp] theorem stop_error (f : Failure) (rest : List (Except Failure α)) :
    stop (.error f :: rest) = 0 := rfl

@[simp] theorem stop_ok (a : α) (rest : List (Except Failure α)) :
    stop (.ok a :: rest) = stop rest + 1 := by
  simp [stop, List.findIdx_cons, Except.isOk, Except.toBool]

/-- The elements before that one do not fail. -/
theorem getElem?_of_lt_stop {elements : List (Except Failure α)} {k : Nat}
    (h : k < stop elements) : ∃ a, elements[k]? = some (.ok a) := by
  induction elements generalizing k with
  | nil => cases h
  | cons x rest ih =>
    cases x with
    | error f => cases h
    | ok a =>
      cases k with
      | zero => exact ⟨a, rfl⟩
      | succ k =>
        rw [stop_ok] at h
        exact ih (Nat.lt_of_succ_lt_succ h)

/-- That one does, unless there is none. -/
theorem getElem?_stop (elements : List (Except Failure α)) :
    elements[stop elements]? = none ∨ ∃ f, elements[stop elements]? = some (.error f) := by
  induction elements with
  | nil => exact .inl rfl
  | cons x rest ih =>
    cases x with
    | error f => exact .inr ⟨f, rfl⟩
    | ok a =>
      rw [stop_ok]
      exact ih

end Stop

/-- The elements that are left, without anything done on them. -/
def collect : Listing → Action (List Entry) :=
  drain fun _ => return ()

end Listing

end CatalogConsole
