import FeatureFlags.Pattern.Matching
import FeatureFlags.Pattern.Reader

/-!
# Patterns

A pattern is a regular expression that is looked for anywhere in a text.
-/

namespace FeatureFlags

/-- A pattern that could be read. -/
structure Pattern where
  expression : Pattern.Expression
deriving DecidableEq, Repr

namespace Pattern

/-- The pattern that a text describes. -/
def ofText? (text : String) : Option Pattern := (read? text.toList).map (⟨·⟩)

/-- Whether a text contains a match. -/
def isMatch (pattern : Pattern) (text : String) : Bool := pattern.expression.isFoundIn text.toList

end Pattern

end FeatureFlags
