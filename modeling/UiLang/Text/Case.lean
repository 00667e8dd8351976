import UiLang.Text.CaseRuns

/-!
# Case mapping

Upper case, lower case and case folding of single characters, by the simple
(one-to-one) mappings of Unicode 17.0, and the string operations built on them:
lower-casing a whole string, changing the case of a first character, and
comparing two strings up to case folding.
-/

namespace UiLang.Text

/-- The simple upper-case form of a character. -/
def toUpper (c : Char) : Char :=
  if c.val < 128 then c.toUpper else Char.ofNat (mapByRuns upperRuns c.toNat)

/-- The simple lower-case form of a character. -/
def toLower (c : Char) : Char :=
  if c.val < 128 then c.toLower else Char.ofNat (mapByRuns lowerRuns c.toNat)

/-- The simple case folding of a character: two characters are equal up to
case when their foldings are equal. -/
def foldCase (c : Char) : Char :=
  if c.val < 128 then c.toLower else Char.ofNat (mapByRuns foldRuns c.toNat)

/-- Every character of a string in its simple lower-case form. -/
def lowerAll (s : String) : String :=
  String.ofList (s.toList.map toLower)

/-- A string with its first character in upper case; the empty string stays
empty. -/
def upperFirst (s : String) : String :=
  match s.toList with
  | [] => s
  | c :: cs => String.ofList (toUpper c :: cs)

/-- A string with its first character in lower case; the empty string stays
empty. -/
def lowerFirst (s : String) : String :=
  match s.toList with
  | [] => s
  | c :: cs => String.ofList (toLower c :: cs)

/-- Two character lists are equal up to case when they have the same length and
agree character by character after folding. -/
def foldEqList : List Char → List Char → Bool
  | [], [] => true
  | a :: as, b :: bs => foldCase a == foldCase b && foldEqList as bs
  | _, _ => false

/-- Two strings are equal up to case folding. -/
def foldEq (a b : String) : Bool :=
  foldEqList a.toList b.toList

end UiLang.Text
