import Manuscript.Citations
import Manuscript.Node

/-!
# Documents

The tree of an article with the records that go with it.
-/

namespace Manuscript

/-- An article: the tree, what is known about it, and what it cites. -/
structure Document where
  root : Node
  metadata : Metadata := {}
  citations : Option Citations := none
  deriving Inhabited

end Manuscript
