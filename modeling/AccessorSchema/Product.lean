/-!
# The program's name

The name and version that the command line and crash reports show.
-/

namespace AccessorSchema

namespace Product

/-- The name of the program. -/
def name : String := "modelschema"

/-- The version of the program. -/
def version : String := "0.1.0"

/-- `name` and `version`. -/
def nameAndVersion : String := name ++ " " ++ version

end Product

end AccessorSchema
