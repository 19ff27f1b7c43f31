/-!
# Placeholders of a path

A path template holds placeholders: names between braces, with an optional plus sign in front. The
last placeholder identifies the resource that a method works on.
-/

namespace RequestSurface

/-- Characters that can stand between the braces. -/
def isInside (character : Char) : Bool :=
  character != '\x7b' && character != '\x7d'

/-- The name of a placeholder: what stands between the braces, without a plus sign in front unless
nothing else is there. -/
def placeholderName : List Char -> List Char
  | '+' :: head :: tail => head :: tail
  | inside => inside

/-- The names of the placeholders of a path, in order. -/
def placeholders : List Char -> List (List Char)
  | [] => []
  | head :: rest =>
      let inside := rest.takeWhile isInside
      if head = '\x7b' ∧ inside ≠ [] ∧ rest[inside.length]? = some '\x7d' then
        placeholderName inside :: placeholders rest
      else placeholders rest

/-- The name of the last placeholder of a path. -/
def resourceIdentifier (path : String) : Option String :=
  (placeholders path.toList).getLast?.map String.ofList

end RequestSurface
