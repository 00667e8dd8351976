/-!
# Findings of the checks

A check reports findings. Each has a cause with a code and a message, the file
and line it is about, and possibly a suggestion. A finding is written
`file:line: message [code]`, leaving out `:line` when the line is `0` and
`file: ` when the file is empty; a report writes each finding after `✗ `, with
its suggestion on the next line.
-/

namespace UiLang.Check

/-- The causes of findings. -/
inductive Finding
  | duplicateComponent (name : String)
  | undefinedName (name : String)
  | duplicateVariable (name : String)
  | undefinedParameter (name : String)
  | missingView (file : String)
  | badValueType (prop : String)
  | badValue (prop : String)
  | unknownProperty (prop : String)
  | unknownFunction (name : String)
  | unknownBase (name : String)
  deriving DecidableEq, Repr

namespace Finding

/-- The code of a finding. -/
def code : Finding → String
  | .duplicateComponent _ => "E101"
  | .undefinedName _ => "E102"
  | .duplicateVariable _ => "E103"
  | .undefinedParameter _ => "E201"
  | .missingView _ => "E301"
  | .badValueType _ => "E401"
  | .badValue _ => "E402"
  | .unknownProperty _ => "E403"
  | .unknownFunction _ => "E404"
  | .unknownBase _ => "E405"

/-- The message of a finding. -/
def message : Finding → String
  | .duplicateComponent n => "component name, " ++ n ++ ", is already in use. Please use another name"
  | .undefinedName n => n ++ " hasn't been defined"
  | .duplicateVariable n => "variable name, " ++ n ++ ", is already in use. Please use another name"
  | .undefinedParameter n => "property assignment is referencing undefined parameter " ++ n
  | .missingView f => f ++ " doesn't exist"
  | .badValueType p => "Unexpected value type for property '" ++ p ++ "'."
  | .badValue p => "Unexpected value for property '" ++ p ++ "'."
  | .unknownProperty p => "Unknown property '" ++ p ++ "'."
  | .unknownFunction n => "Unknown function '" ++ n ++ "'."
  | .unknownBase n => "Unknown base component for '" ++ n ++ "'."

end Finding

/-- A finding about a line of a file, with a suggestion or `""`. -/
structure Diagnostic where
  finding : Finding
  file : String
  line : Nat
  suggestion : String := ""
  deriving DecidableEq, Repr

namespace Diagnostic

/-- `file:line: message [code]`. -/
def format (d : Diagnostic) : String :=
  let place :=
    if d.file == "" then ""
    else d.file ++ (if d.line > 0 then ":" ++ toString d.line else "") ++ ": "
  place ++ d.finding.message ++ " [" ++ d.finding.code ++ "]"

/-- One finding of a report: `✗ ` and the finding, then the suggestion. -/
def reportLines (d : Diagnostic) : String :=
  "✗ " ++ d.format ++ (if d.suggestion == "" then "" else "\n  suggestion: " ++ d.suggestion)

/-- A report: the findings one after another; `""` for none. -/
def report (ds : List Diagnostic) : String :=
  "\n".intercalate (ds.map reportLines)

end Diagnostic

end UiLang.Check
