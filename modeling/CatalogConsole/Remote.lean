import CatalogConsole.Catalog
import CatalogConsole.Failure

/-! # The remote side

The calls that can be made to the service, and what comes back.  How the remote side behaves is not
in this program's hands, so it is a parameter: `Remote` says whether each construction of a client
works, and how the next call is answered.
-/
namespace CatalogConsole

/-- What a listing asks the service for. -/
inductive Query
  /-- The product sets under the location with this path. -/
  | productSets (parent : String)
  /-- The products in the product set with this path. -/
  | products (name : String)
  deriving DecidableEq, Repr

/-- A method call on the service, with its arguments. -/
inductive Call
  | createProductSet (parent displayName id : String)
  | getProductSet (name : String)
  | list (query : Query)
  | addProduct (name product : String)
  | deleteProductSet (name : String)
  deriving DecidableEq, Repr

namespace Query

/-- The method that answers a query. -/
def method : Query → String
  | productSets _ => "list_product_sets"
  | products _ => "list_products_in_product_set"

/-- The path of the resource whose members are listed. -/
def resource : Query → String
  | productSets parent => parent
  | products name => name

/-- The arguments of a query, by name. -/
def arguments : Query → List (String × String)
  | productSets parent => [("parent", parent)]
  | products name => [("name", name)]

end Query

namespace Call

/-- The name of the method that is called. -/
def method : Call → String
  | createProductSet .. => "create_product_set"
  | getProductSet _ => "get_product_set"
  | list query => query.method
  | addProduct .. => "add_product_to_product_set"
  | deleteProductSet _ => "delete_product_set"

/-- The path of the resource that the call works on or under. -/
def resource : Call → String
  | createProductSet parent _ _ => parent
  | getProductSet name => name
  | list query => query.resource
  | addProduct name _ => name
  | deleteProductSet name => name

/-- The arguments of the call, by name. -/
def arguments : Call → List (String × String)
  | createProductSet parent displayName id =>
    [("parent", parent), ("display_name", displayName), ("product_set_id", id)]
  | getProductSet name => [("name", name)]
  | list query => query.arguments
  | addProduct name product => [("name", name), ("product", product)]
  | deleteProductSet name => [("name", name)]

end Call

/-- A product set as the service sends it. -/
structure RemoteSet where
  name : String := ""
  displayName : String := ""
  indexTime : IndexTime := .unset

/-- Reads a product set; it fails if its index time cannot be read. -/
def RemoteSet.read (r : RemoteSet) : Except Failure ProductSet :=
  match r.indexTime.read with
  | .ok indexed => .ok ⟨r.name, r.displayName, indexed⟩
  | .error reason => .error (.conversion reason)

/-- How the service answers a call: with a failure, or else with whichever of the other fields the
method gives back.  A listing may break off in any place. -/
structure Reply where
  failure : Option Failure := none
  productSet : RemoteSet := {}
  productSets : List (Except Failure RemoteSet) := []
  products : List (Except Failure Product) := []

namespace Reply

/-- An element of a listing of product sets, read. -/
def readElement (element : Except Failure RemoteSet) : Except Failure Entry := do
  let remote ← element
  return .productSet (← remote.read)

/-- The elements that a query gets back, read one by one. -/
def elements (reply : Reply) : Query → List (Except Failure Entry)
  | .productSets _ => reply.productSets.map readElement
  | .products _ => reply.products.map (·.map .product)

end Reply

/-- The remote side: the failure, if any, of the construction of a client that has this number, and
the answer to a call. -/
structure Remote where
  construction : Nat → Option Failure := fun _ => none
  reply : Reply := {}

/-- The outcomes of the first constructions, in order; all further ones work. -/
def Remote.constructions (outcomes : List (Option Failure)) (n : Nat) : Option Failure :=
  outcomes[n]?.join

end CatalogConsole
