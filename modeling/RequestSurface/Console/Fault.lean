/-!
# Faults of printing

Why a text cannot be printed on the console.
-/

namespace RequestSurface.Console

/-- Why a text cannot be printed: a tag ends nothing or has parameters that cannot be read, a colour
in a tag has a part that is no number, or the text has half of a character in it. -/
inductive Fault where
  | tag
  | colour
  | halfCharacter
  deriving DecidableEq, Repr

end RequestSurface.Console
