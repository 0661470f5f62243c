import CatalogConsole.History
import CatalogConsole.Operation

/-! # A service in use

A desk is a service in one location together with the listings that have been taken from it, each
under a handle.  `Desk.step` does one thing with it: a plain operation, or something with a
listing.  To take a listing does nothing yet.
-/
namespace CatalogConsole

/-- What can be done with a service. -/
inductive Request
  /-- Makes sure that the service holds a client. -/
  | connect
  | create (id displayName : String)
  | get (id : String)
  | add (productSetId productId : String)
  | delete (id : String)
  /-- Takes a listing of the product sets, under a handle. -/
  | listProductSets (handle : String)
  /-- Takes a listing of the products in a product set, under a handle. -/
  | listProducts (productSetId handle : String)
  /-- Asks a listing for its next element. -/
  | next (handle : String)
  /-- Asks a listing for all elements that are left. -/
  | collect (handle : String)
  /-- Gives a listing up. -/
  | close (handle : String)
  deriving DecidableEq, Repr

/-- What a request gives back. -/
inductive Answer
  | nothing
  | connected
  | entry (e : Entry)
  | entries (es : List Entry)
  | noMore
  deriving DecidableEq, Repr

/-- A service in a location, with the listings taken from it. -/
structure Desk where
  place : Location
  link : Link
  listings : List (String × Listing)

/-- A request, and the remote side that it meets. -/
structure Request.Step where
  request : Request
  remote : Remote

/-- What comes of a request. -/
structure Response where
  result : Except Failure Answer
  trace : Trace
  attempts : Nat

namespace Desk

/-- The listing under a handle; where none was ever taken it is a finished one. -/
def listing (desk : Desk) (handle : String) : Listing :=
  (desk.listings.lookup handle).getD .finished

/-- Puts a listing under a handle, in place of the one there. -/
def put (desk : Desk) (handle : String) (l : Listing) : Desk :=
  { desk with listings := (handle, l) :: desk.listings }

/-- Takes note of what an action came to. -/
def respond (desk : Desk) (outcome : Outcome Answer) : Desk × Response :=
  ({ desk with link := outcome.link }, ⟨outcome.result, outcome.trace, outcome.link.attempts⟩)

/-- Carries out an action on the service. -/
def act (desk : Desk) (remote : Remote) (action : Action Answer) : Desk × Response :=
  desk.respond (action.run remote desk.link)

/-- Makes a call for a product set. -/
def fetchSet (desk : Desk) (remote : Remote) (operation : Operation) : Desk × Response :=
  desk.act remote do
    let s ← Service.requestSet (operation.call desk.place)
    return .entry (.productSet s)

/-- Makes a call that gives nothing back. -/
def order (desk : Desk) (remote : Remote) (operation : Operation) : Desk × Response :=
  desk.act remote do
    Service.order (operation.call desk.place)
    return .nothing

/-- Takes a listing, under a handle. -/
def take (desk : Desk) (handle : String) (query : Query) : Desk × Response :=
  (desk.put handle (.fresh query)).respond ⟨.ok .nothing, desk.link, []⟩

/-- Asks a listing for its next element; it is finished if that fails. -/
def next (desk : Desk) (remote : Remote) (handle : String) : Desk × Response :=
  let outcome := (desk.listing handle).next.run remote desk.link
  match outcome.result with
  | .ok (found, rest) =>
    (desk.put handle rest).respond
      ⟨.ok (found.elim .noMore .entry), outcome.link, outcome.trace⟩
  | .error f => (desk.put handle .finished).respond ⟨.error f, outcome.link, outcome.trace⟩

/-- Asks a listing for all elements that are left; it is finished then, also if that fails. -/
def collect (desk : Desk) (remote : Remote) (handle : String) : Desk × Response :=
  (desk.put handle .finished).act remote do
    return .entries (← (desk.listing handle).collect)

theorem next_of_ok {desk : Desk} {remote : Remote} {handle : String} {found : Option Entry}
    {rest : Listing} {link : Link} {trace : Trace}
    (h : (desk.listing handle).next.run remote desk.link = ⟨.ok (found, rest), link, trace⟩) :
    desk.next remote handle =
      (desk.put handle rest).respond ⟨.ok (found.elim .noMore .entry), link, trace⟩ := by
  simp only [next, h]

theorem next_of_error {desk : Desk} {remote : Remote} {handle : String} {f : Failure} {link : Link}
    {trace : Trace}
    (h : (desk.listing handle).next.run remote desk.link = ⟨.error f, link, trace⟩) :
    desk.next remote handle = (desk.put handle .finished).respond ⟨.error f, link, trace⟩ := by
  simp only [next, h]

/-- The desk after a request, and what comes of it. -/
def step (desk : Desk) (s : Request.Step) : Desk × Response :=
  match s.request with
  | .connect => desk.act s.remote do
    Service.connect
    return .connected
  | .create id displayName => desk.fetchSet s.remote (.createProductSet id displayName)
  | .get id => desk.fetchSet s.remote (.getProductSet id)
  | .add setId productId => desk.order s.remote (.addProduct setId productId)
  | .delete id => desk.order s.remote (.deleteProductSet id)
  | .listProductSets handle => desk.take handle (.productSets desk.place.path)
  | .listProducts id handle => desk.take handle (.products (desk.place.productSetPath id))
  | .next handle => desk.next s.remote handle
  | .collect handle => desk.collect s.remote handle
  | .close handle => (desk.put handle .finished).respond ⟨.ok .nothing, desk.link, []⟩

end Desk

end CatalogConsole
