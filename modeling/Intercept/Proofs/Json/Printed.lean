import Intercept.Proofs.Json.Written

/-!
The compact text is one of the texts of a document. The members of an object may be printed in any
order; the document that is meant has them in the order of their names.
-/

namespace Intercept.Json

/-! Scalars -/

namespace Value

end Value

end Intercept.Json
