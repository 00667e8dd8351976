/-!
# Why generation fails

Generation fails when the default view is missing, when a member `X.y` of the
definition section names no assignment, and on calls, members and arithmetic
that have no rendering. The first failure in output order is the one reported.
-/

namespace UiLang.Jsx

/-- The causes of a failed generation. -/
inductive GenError
  | missingDefaultView (file : String)
  | missingProperty (ref : String)
  | notHoisted (ref : String)
  | setNotHoisted (ref : String)
  | setArity (got : Nat)
  | openArity (got : Nat)
  | setTarget
  | openTarget
  | unknownFunction (name : String)
  | misplacedCall (name : String)
  | divisionByZero
  deriving DecidableEq, Repr

/-- The text of a failed generation. -/
def GenError.message : GenError → String
  | .missingDefaultView f => "default view not found: " ++ f
  | .missingProperty r => "component property is missing: " ++ r
  | .notHoisted r => "property is not backed by a state variable: " ++ r
  | .setNotHoisted r => "set: property is not backed by a state variable: " ++ r
  | .setArity n => "set: wrong number of arguments: got " ++ toString n ++ ", want 2"
  | .openArity n => "open: wrong number of arguments: got " ++ toString n ++ ", want 1"
  | .setTarget => "set: invalid argument: the target must be a component property"
  | .openTarget => "open: invalid argument: the argument must be Name.view"
  | .unknownFunction n => "unknown function: " ++ n
  | .misplacedCall n => "function call outside a component body: " ++ n ++ "()"
  | .divisionByZero => "division by zero"

end UiLang.Jsx
