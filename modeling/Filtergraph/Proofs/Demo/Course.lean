import Filtergraph.Proofs.Demo.Presentation

/-!
# The course of the demonstration

The demonstration keeps to a programme: it calls both tools, shows the command, asks for the
release, runs the command, and says that it succeeded.  It breaks off, and fails, at the first call
that does not lead on, whatever the outcomes of the calls and the arguments are.
-/

namespace Filtergraph
namespace Demo

open World

/-! ## Where it can end -/

namespace Course

variable {world : World}
variable {words : List String}
variable {output : String}
variable {deeds : List Event}
variable {outcome : Except Failure Unit}

end Course

/-! ## All arguments -/

end Demo
end Filtergraph
