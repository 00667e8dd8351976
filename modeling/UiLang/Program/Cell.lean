import UiLang.Text.Case

/-!
# State cell names

A property `y` of component `X` that the program reads or changes lives in a
state cell. The cell is read as `lowerFirst X ++ upperFirst y` and changed by
`set ++ upperFirst` of that name: `Pic.width` gives `picWidth` and
`setPicWidth`. Only the first character of each part changes case.
-/

namespace UiLang

/-- The read name of the cell that backs property `prop` of component `comp`. -/
def cellName (comp prop : String) : String :=
  Text.lowerFirst comp ++ Text.upperFirst prop

/-- The setter paired with the cell read as `cell`. -/
def setterName (cell : String) : String :=
  "set" ++ Text.upperFirst cell

/-- The reference `X.y` as written in source. -/
def memberRef (comp prop : String) : String :=
  comp ++ "." ++ prop

end UiLang
