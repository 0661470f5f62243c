import CatalogConsole.Command.Registry
import CatalogConsole.Operation

/-! # The built-in commands

The six commands of the console, each standing for an operation, and the registry that holds them.
-/
namespace CatalogConsole.Builtin

/-- Creates a product set with an id and a display name. -/
def createProductSet : Command Operation where
  name := "create_product_set"
  help := "Create a new product set"
  params := ["productSetId", "productSetDisplayName"]
  action
    | [id, displayName], _ => .createProductSet id displayName

/-- Lists all product sets of the location. -/
def listProductSets : Command Operation where
  name := "list_product_sets"
  help := "List all product sets"
  params := []
  action
    | [], _ => .listProductSets

/-- Shows one product set. -/
def getProductSet : Command Operation where
  name := "get_product_set"
  help := "Show a product set's metadata"
  params := ["productSetId"]
  action
    | [id], _ => .getProductSet id

/-- Lists the products in a product set. -/
def listProducts : Command Operation where
  name := "list_products_in_product_set"
  help := "List the products in a product set"
  params := ["productSetId"]
  action
    | [id], _ => .listProducts id

/-- Adds a product to a product set. -/
def addProduct : Command Operation where
  name := "add_product_to_product_set"
  help := "Add an existing product to a product set"
  params := ["productSetId", "productId"]
  action
    | [setId, productId], _ => .addProduct setId productId

/-- Deletes a product set, but none of the products in it. -/
def deleteProductSet : Command Operation where
  name := "delete_product_set"
  help := "Delete a product set (products inside are not deleted)"
  params := ["productSetId"]
  action
    | [id], _ => .deleteProductSet id

/-- All built-in commands. -/
def commands : List (Command Operation) :=
  [createProductSet, listProductSets, getProductSet, listProducts, addProduct, deleteProductSet]

/-- The registry of the built-in commands. -/
def registry : Registry Operation :=
  Registry.ofList commands

end CatalogConsole.Builtin
