import Assay.Tool.Cat
import Assay.Tool.Chmod
import Assay.Tool.Copy
import Assay.Tool.Echo
import Assay.Tool.Grep
import Assay.Tool.Sleep

/-!
# Tools

The small programs that scripts call. Each gets its arguments, its own name in front, and works as a
process.
-/

namespace Assay.Tool

open Kernel (Task)
open Text (Octets)

/-- The tools, by name. -/
def all : List (String × (List Octets → Task)) :=
  [("cat", task Cat.main), ("chmod", task Chmod.main), ("cp", task Copy.main),
    ("echo", task Echo.main), ("grep", task Grep.main), ("sleep", task Sleep.main),
    ("true", fun _ => .exit 0), ("false", fun _ => .exit 1)]

end Assay.Tool
