import ModuleRegistry.Text.Basic

/-!
# The product and its version

The name and version under which the client presents itself, to a hub in the `User-Agent` header
and to people on the command line.
-/

namespace ModuleRegistry.Product

open Text (ascii)

/-- The name of the product, which is also that of the program. -/
def name : Text := ascii "iothub-modules"

/-- The version of the product. -/
def version : Text := ascii "0.3.0"

/-- The name and version as the value of a `User-Agent` header. -/
def userAgent : Text := name ++ ascii "/" ++ version

example : userAgent = ascii "iothub-modules/0.3.0" := by decide

end ModuleRegistry.Product
