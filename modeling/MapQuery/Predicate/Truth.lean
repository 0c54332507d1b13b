import MapQuery.Text.Blank
import MapQuery.Text.Case.Letters

/-!
# Truth values of tags

Tags say yes and no in several words, in any case and with blanks around them.
-/

namespace MapQuery

/-- The words for yes. -/
def yesWords : List String := ["true", "yes", "1", "on"]

/-- The words for no. -/
def noWords : List String := ["false", "no", "0", "off"]

/-- What a value says, if it says yes or no. -/
def truthOf (value : String) : Option Bool :=
  let word := String.ofList (Text.Case.lowerText (Text.trim value.toList))
  if yesWords.contains word then some true
  else if noWords.contains word then some false
  else none

end MapQuery
