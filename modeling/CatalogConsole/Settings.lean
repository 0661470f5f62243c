import CatalogConsole.Resource
import CatalogConsole.Settings.Environment

/-! # Settings

The project and the region that the console works in come from two variables of the environment.  A
variable that is missing and one that is empty are of equally little use, and the project is asked
for first.
-/
namespace CatalogConsole

/-- The project and the region that the console works in. -/
structure Settings where
  project : String
  region : String
  deriving DecidableEq, Repr

/-- Why there are no settings. -/
inductive ConfigError
  | missingVariable (name : String)
  deriving DecidableEq, Repr

/-- The error in words. -/
def ConfigError.message : ConfigError → String
  | missingVariable name => "Missing required environment variable: " ++ name

theorem ConfigError.message_missingVariable (name : String) :
    (missingVariable name).message = "Missing required environment variable: " ++ name := rfl

namespace Settings

/-- The location that the console works in. -/
def location (s : Settings) : Location := ⟨s.project, s.region⟩

/-- The variable that names the project. -/
def projectVariable : String := "PROJECT_ID"

/-- The variable that names the region. -/
def regionVariable : String := "REGION_NAME"

/-- The value of a variable that must not be missing or empty. -/
def required (env : Environment) (name : String) : Except ConfigError String :=
  match env name with
  | none => .error (.missingVariable name)
  | some value => if value = "" then .error (.missingVariable name) else .ok value

/-- A missing variable is as good as an empty one. -/
theorem required_eq (env : Environment) (name : String) :
    required env name =
      if (env name).getD "" = "" then .error (.missingVariable name)
      else .ok ((env name).getD "") := by
  rw [required]
  cases env name <;> rfl

/-- Reads the settings from the environment. -/
def load (env : Environment) : Except ConfigError Settings := do
  let project ← required env projectVariable
  let region ← required env regionVariable
  return ⟨project, region⟩

end Settings

end CatalogConsole
