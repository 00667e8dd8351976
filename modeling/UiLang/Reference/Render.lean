import UiLang.Reference.Search
import UiLang.Text.Quoted

/-!
# Printing the reference

The reference is printed whole, one section at a time, or as the results of a
search. A section starts with a rule carrying its title, 50 characters wide,
and lists each construct's template, padded to 44 characters, and description;
a single section also shows the examples, indented, with tabs as four spaces.
A search lists at most 15 templates with their sections, and points to the
section of the best match.
-/

namespace UiLang.Reference

/-- Why the reference cannot be printed: the section asked for does not exist. -/
structure UnknownSection where
  name : String
  deriving DecidableEq, Repr

/-- The text of an unknown section, with the sections there are. -/
def UnknownSection.message (e : UnknownSection) : String :=
  "unknown section " ++ Text.quoted e.name ++ " (available: " ++
    ", ".intercalate (Section.all.map Section.name) ++ ")"

/-- `s` padded with spaces to `width` characters. -/
def padRight (s : String) (width : Nat) : String :=
  s ++ String.ofList (List.replicate (width - s.length) ' ')

/-- The lines of an example, indented, tabs as four spaces. -/
def exampleLines (ex : String) : String :=
  String.join ((ex.splitOn "\n").map fun line =>
    "      " ++ String.join (line.toList.map fun c => if c = '\t' then "    " else c.toString) ++ "\n")

/-- One section, with examples or without. -/
def renderSection (s : Section) (examples : Bool) : String :=
  let header := "── " ++ s.title ++ " "
  let rule := header ++ String.ofList (List.replicate (50 - header.length) '─')
  let rows := (patterns.filter (·.part == s)).map fun p =>
    "  " ++ padRight p.template 44 ++ " " ++ p.description ++ "\n" ++
      (if examples && p.sample != "" then exampleLines p.sample else "")
  rule ++ "\n\n" ++ String.join rows ++ "\n"

/-- The results of a search. -/
def renderSearch (query : String) : String :=
  match search query with
  | [] => "No patterns matching " ++ Text.quoted query ++ " found.\n"
  | first :: rest =>
    let n := rest.length + 1
    "Found " ++ toString n ++ " pattern" ++ (if n = 1 then "" else "s") ++ " matching " ++
      Text.quoted query ++ ":\n\n" ++
      String.join (((first :: rest).take 15).map fun p =>
        "  " ++ padRight p.template 44 ++ " (" ++ p.part.name ++ ")\n") ++
      "\nTip: run 'uic syntax " ++ first.part.name ++ "' for the full section.\n"

/-- The reference: the results of `query` when it is not empty, else the
section named `name` when it is not empty, else every section. -/
def render (name query : String) : Except UnknownSection String :=
  if query != "" then .ok (renderSearch query)
  else if name != "" then
    match lookup name with
    | some s => .ok (renderSection s true)
    | none => .error ⟨name⟩
  else .ok ("uic syntax reference\n\n" ++ String.join (Section.all.map (renderSection · false)))

end UiLang.Reference
