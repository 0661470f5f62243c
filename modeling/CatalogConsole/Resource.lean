/-! # Resource names

A resource of the catalog service is addressed by a hierarchical path.  A location, which is a
project together with a region, is the parent of product sets and of products:

* `projects/{project}/locations/{region}`
* `projects/{project}/locations/{region}/productSets/{id}`
* `projects/{project}/locations/{region}/products/{id}`

Projects, regions and ids go into a path as they are: nothing is escaped and nothing is checked.
-/
namespace CatalogConsole

/-- The project and the region that all resource paths live under. -/
structure Location where
  project : String
  region : String
  deriving DecidableEq, Repr

namespace Location

/-- The path of a location, which is the parent of the product sets and products in it. -/
def path (l : Location) : String :=
  "projects/" ++ l.project ++ "/locations/" ++ l.region

/-- The path of the product set with this id. -/
def productSetPath (l : Location) (id : String) : String :=
  l.path ++ "/productSets/" ++ id

/-- The path of the product with this id. -/
def productPath (l : Location) (id : String) : String :=
  l.path ++ "/products/" ++ id

/-- Within a location an id can be read off the path, whatever characters it has. -/
@[simp] theorem productSetPath_inj (l : Location) (id id' : String) :
    l.productSetPath id = l.productSetPath id' ↔ id = id' :=
  String.append_right_inj _

@[simp] theorem productPath_inj (l : Location) (id id' : String) :
    l.productPath id = l.productPath id' ↔ id = id' :=
  String.append_right_inj _

end Location

/-- A reference to a resource: a location, or a product set or product in one. -/
inductive Reference
  | location (place : Location)
  | productSet (place : Location) (id : String)
  | product (place : Location) (id : String)
  deriving DecidableEq, Repr

namespace Reference

/-- The path of the resource that is referred to. -/
def path : Reference → String
  | location place => place.path
  | productSet place id => place.productSetPath id
  | product place id => place.productPath id

@[simp] theorem path_location (l : Location) : (location l).path = l.path := rfl

@[simp] theorem path_productSet (l : Location) (id : String) :
    (productSet l id).path = l.path ++ "/productSets/" ++ id := rfl

@[simp] theorem path_product (l : Location) (id : String) :
    (product l id).path = l.path ++ "/products/" ++ id := rfl

end Reference

/-- The last segment of a resource name: what follows its last slash, or all of a name that has
no slash. -/
def trailingId (name : String) : String :=
  String.ofList ((name.toList.reverse.takeWhile (· ≠ '/')).reverse)

/-- The characters of the last segment are those after the last slash. -/
theorem toList_trailingId (name : String) :
    (trailingId name).toList = (name.toList.reverse.takeWhile (· ≠ '/')).reverse := by
  simp [trailingId]

end CatalogConsole
