import CatalogConsole.Service.Listing

/-! # Operations

An operation is what a user can ask for, relative to a location.  `Operation.call` is the one call
that it makes, and `Call.execute` makes a call and prints what comes back.  A listing is printed
element by element, each before the next is fetched.  What has come back may turn out to be nothing
that can be printed, and that ends the operation too.
-/
namespace CatalogConsole

/-- What a user can ask for, relative to a location. -/
inductive Operation
  | createProductSet (id displayName : String)
  | listProductSets
  | getProductSet (id : String)
  | listProducts (productSetId : String)
  | addProduct (productSetId productId : String)
  | deleteProductSet (id : String)
  deriving DecidableEq, Repr

/-- The call that an operation makes. -/
def Operation.call (place : Location) : Operation → Call
  | createProductSet id displayName => .createProductSet place.path displayName id
  | listProductSets => .list (.productSets place.path)
  | getProductSet id => .getProductSet (place.productSetPath id)
  | listProducts id => .list (.products (place.productSetPath id))
  | addProduct setId productId =>
    .addProduct (place.productSetPath setId) (place.productPath productId)
  | deleteProductSet id => .deleteProductSet (place.productSetPath id)

/-- Prints what a query gets back. -/
def Query.execute (query : Query) : Action Unit := do
  let _ ← (Listing.fresh query).drain fun entry => Action.display entry.block

/-- Makes a call and prints what comes back, or that it has worked. -/
def Call.execute (c : Call) : Action Unit :=
  match c with
  | createProductSet .. => do
    let s ← Service.requestSet c
    Action.say ["Product set name: " ++ s.name]
  | getProductSet _ => do
    let s ← Service.requestSet c
    Action.display s.block
  | list query => query.execute
  | addProduct .. => do
    Service.order c
    Action.say ["Product added to product set."]
  | deleteProductSet _ => do
    Service.order c
    Action.say ["Product set deleted"]

/-- Carries out an operation in a location. -/
def Operation.execute (place : Location) (operation : Operation) : Action Unit :=
  (operation.call place).execute

end CatalogConsole
