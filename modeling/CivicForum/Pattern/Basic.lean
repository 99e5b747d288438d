import CivicForum.Pattern.Meaning
import CivicForum.Pattern.Parser
import CivicForum.Pattern.Size

/-! # Patterns

* `Pattern.compile?`: the regular expression of a pattern, if the pattern is well formed and not
  too large.
-/

set_option autoImplicit false

namespace CivicForum.Pattern

/-- The regular expression of a pattern. Case makes no difference unless the pattern says so. -/
def compile? (cs : List Char) : Option Expr := do
  let t ← Tree.parse? cs
  let (e, _) ← t.expr? {}
  if e.size ≤ Expr.maxSize then some e else none

end CivicForum.Pattern
