/-!
# Flags

The flags that change how the rest of a group is read.
-/

namespace FeatureFlags.Pattern

structure Flags where
  /-- Characters also match their case variants. -/
  caseInsensitive : Bool := false
  /-- `^` and `$` match at lines. -/
  multiLine : Bool := false
  /-- A dot also matches line feeds. -/
  dotMatchesAll : Bool := false
  /-- Repetitions match as little as possible. What a pattern matches does not depend on it. -/
  lazy : Bool := false
  /-- Classes and case variants are those of all characters and not of ASCII only. -/
  unicode : Bool := true
  /-- Lines also end at carriage returns. -/
  carriageReturns : Bool := false
  /-- White space and comments between the parts of a pattern do not count. -/
  ignoresBlanks : Bool := false
deriving DecidableEq, Repr

namespace Flags

/-- Sets the flag of a letter. -/
def set? (flags : Flags) (letter : Char) (value : Bool) : Option Flags :=
  match letter with
  | 'i' => some { flags with caseInsensitive := value }
  | 'm' => some { flags with multiLine := value }
  | 's' => some { flags with dotMatchesAll := value }
  | 'U' => some { flags with lazy := value }
  | 'u' => some { flags with unicode := value }
  | 'R' => some { flags with carriageReturns := value }
  | 'x' => some { flags with ignoresBlanks := value }
  | _ => none

/-- Sets flags by their letters; those behind a hyphen are taken away. -/
def setAll? (flags : Flags) (value : Bool) : List Char → Option Flags
  | [] => some flags
  | '-' :: rest => setAll? flags false rest
  | letter :: rest => (flags.set? letter value).bind fun next => setAll? next value rest

/-- Changes flags as a list of letters says. No letter and no hyphen may be given twice, and a
hyphen may not be last. -/
def change? (flags : Flags) (letters : List Char) : Option Flags :=
  if letters.eraseDups.length < letters.length || letters.getLast? = some '-' then none
  else flags.setAll? true letters

end Flags

end FeatureFlags.Pattern
