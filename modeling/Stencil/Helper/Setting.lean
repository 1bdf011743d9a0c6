import Stencil.Calendar.Zone
import Stencil.Files
import Stencil.Scope

/-!
The setting of a call.

Most helpers depend on their arguments alone. The others may also read what is collected here, and none of them
changes any of it.
-/

namespace Stencil.Helper

/-- What a helper may read besides its arguments: the bindings in force, the files, the configured time zone,
and the present, which stands still for the whole of a render. -/
structure Setting where
  scope : Scope
  files : Files
  serverZone : Calendar.Zone
  now : Calendar.Instant

end Stencil.Helper
