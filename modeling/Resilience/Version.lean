/-!
# The version of the library
-/

namespace Resilience

/-- The version, by major, minor and patch number. -/
def version : String := "0.1.0"

end Resilience
