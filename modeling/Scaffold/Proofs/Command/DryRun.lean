import Scaffold.Command.Run
import Scaffold.Proofs.Generation.Scope

/-!
Contract: a check is a dry run of a generation.

Owns:
- what the two commands come to on one tree;
- the failures, the skipped declarations and the kinds that both tell of.

Does not own: the files that a generation leaves.
-/

namespace Scaffold.Command

open Source

/-! ### Two commands on one tree -/

end Scaffold.Command
