import UiLang.Cli.Flag
import UiLang.Text.Case

/-!
# Commands

A program's commands form a tree, kept as a list of commands each named by its
path from the root, children in the order they were added.

Finding the command that arguments name reads the words that are not flags:
each word that names a child goes one level down, and a flag that takes a value
skips the word after it (a switch does not). A command's help is its long
description (or its short one), then its usage: how to call it, its
subcommands, its own flags and the flags it inherits.
-/

namespace UiLang.Cli

/-- How many plain arguments a command takes. `open_` takes any, and when the
command has subcommands a first word that names none of them is an unknown
command. -/
inductive ArgRule
  | none
  | atMost (n : Nat)
  | open_
  deriving DecidableEq, Repr

/-- What running a command does. -/
inductive Action
  | build
  | check
  | init
  | reference
  | version
  | help
  | script (shell : String)
  deriving DecidableEq, Repr

/-- A command: its path from the root, how it is called, its descriptions, the
arguments it takes, its own flags and the flags it passes down, and what it
does (`none` for a command that only groups others). -/
structure Command where
  path : List String
  use : String
  short : String
  long : String := ""
  rule : ArgRule
  flags : List Flag := []
  persistent : List Flag := []
  action : Option Action := none
  flagsInUseLine : Bool := true
  deriving Repr

namespace Command

/-- The name of a command, the last word of its path. -/
def name (c : Command) : String := c.path.getLastD ""

/-- The words that call a command from the root. -/
def commandPath (c : Command) : String := " ".intercalate c.path

/-- Whether running the command does something. -/
def runnable (c : Command) : Bool := c.action.isSome

/-- The switch that asks for a command's help. -/
def helpFlag (c : Command) : Flag :=
  ⟨"help", some 'h', .switch, "help for " ++ c.name, "false"⟩

end Command

/-- A tree of commands. -/
abbrev Tree := List Command

namespace Tree

/-- The children of a command, in the order they were added. -/
def children (t : Tree) (c : Command) : List Command :=
  t.filter fun d => d.path.length == c.path.length + 1 && d.path.take c.path.length == c.path

/-- The commands above a command, the root first. -/
def ancestors (t : Tree) (c : Command) : List Command :=
  (List.range (c.path.length - 1)).filterMap fun i => t.find? (·.path == c.path.take (i + 1))

/-- The flags a command inherits from the commands above it. -/
def inherited (t : Tree) (c : Command) : List Flag :=
  (t.ancestors c).flatMap (·.persistent)

/-- The flags a command reads before its help switch is added. -/
def known (t : Tree) (c : Command) : List Flag :=
  c.flags ++ c.persistent ++ t.inherited c

/-- Whether a command is listed: it runs, or has a listed child; a help command
is not. `fuel` bounds the depth. -/
def available (t : Tree) : Nat → Command → Bool
  | 0, _ => false
  | fuel + 1, c => c.action != some .help && (c.runnable || (t.children c).any (available t fuel))

/-- Whether a command has listed children. -/
def hasListed (t : Tree) (c : Command) : Bool :=
  (t.children c).any (t.available t.length)

/-- The words of arguments that are not flags, nor the value of a flag. -/
def words (flags : List Flag) : List String → List String
  | [] => []
  | s :: rest =>
    if s == "--" then []
    else if takesValue s then
      match rest with
      | [] | [_] => []
      | _ :: more => words flags more
    else if s != "" && !s.startsWith "-" then s :: words flags rest
    else words flags rest
where
  /-- Whether an argument is a flag that takes the next argument as its value. -/
  takesValue (s : String) : Bool :=
    if s.contains '=' then false
    else if s.startsWith "--" then
      (flags.find? (·.name == String.ofList (s.toList.drop 2))).all (·.kind != .switch)
    else if s.startsWith "-" && s.utf8ByteSize == 2 then
      (flags.find? (·.short == s.toList[1]?)).all (·.kind != .switch)
    else false

/-- The arguments without the first word equal to `x` that is not a flag nor the
value of one. -/
def withoutWord (flags : List Flag) (x : String) : List String → List String
  | [] => []
  | s :: rest =>
    if s == "--" then s :: rest
    else if words.takesValue flags s then
      match rest with
      | [] => [s]
      | v :: more => s :: v :: withoutWord flags x more
    else if !s.startsWith "-" && s == x then rest
    else s :: withoutWord flags x rest

/-- The command the arguments name below `c`, and the arguments left for it. -/
def descend (t : Tree) : Nat → Command → List String → Command × List String
  | 0, c, args => (c, args)
  | fuel + 1, c, args =>
    match words (t.known c) args with
    | [] => (c, args)
    | next :: _ =>
      match (t.children c).find? (·.name == next) with
      | some d => descend t fuel d (withoutWord (t.known c) next args)
      | none => (c, args)

/-- The edit distance between two byte strings. -/
def levenshtein (a b : List UInt8) : Nat :=
  let first := List.range (b.length + 1)
  let last := a.foldl (fun (row : List Nat × Nat) x =>
    let (prev, i) := row
    let next := (b.zip (prev.zip (prev.drop 1))).foldl (fun (acc : List Nat) (y, diag, up) =>
      let left := acc.headD (i + 1)
      (if x == y then diag else 1 + min (min up left) diag) :: acc) [i + 1]
    (next.reverse, i + 1)) (first, 0)
  last.1.getLastD 0

/-- The listed children of `c` whose name is close to `word`: at most two
byte edits apart, ignoring case, or starting with it. -/
def suggestions (t : Tree) (c : Command) (word : String) : List String :=
  let w := Text.lowerAll word
  ((t.children c).filter fun d =>
    t.available t.length d &&
      (levenshtein w.toUTF8.toList (Text.lowerAll d.name).toUTF8.toList ≤ 2 ||
        (Text.lowerAll d.name).startsWith w)).map (·.name)

/-- `unknown command "x" for "path"`, with suggestions when there are any. -/
def unknownCommand (t : Tree) (c : Command) (word : String) (suggest : Bool) : String :=
  let found := if suggest then t.suggestions c word else []
  "unknown command " ++ Text.quoted word ++ " for " ++ Text.quoted c.commandPath ++
    (if found.isEmpty then ""
     else "\n\nDid you mean this?\n" ++ String.join (found.map fun s => "\t" ++ s ++ "\n"))

/-- The command that arguments name from the root, the arguments left for it,
and the error when the root is left with a word that names no command. -/
def find (t : Tree) (root : Command) (args : List String) : Command × List String × Option String :=
  let (c, rest) := t.descend t.length root args
  if c.rule == .open_ && !(t.children c).isEmpty && c.path.length == 1 then
    match words (t.known c) rest with
    | w :: _ => (c, rest, some (t.unknownCommand c w true))
    | [] => (c, rest, none)
  else (c, rest, none)

/-- Removes trailing white space. -/
def trimEnd (s : String) : String :=
  String.ofList (s.toList.reverse.dropWhile Char.isWhitespace).reverse

/-- Pads text with spaces to a width. -/
def pad (s : String) (width : Nat) : String :=
  s ++ String.ofList (List.replicate (width - s.length) ' ')

/-- How a command is called: its path and use, and `[flags]`. -/
def useLine (t : Tree) (c : Command) : String :=
  let line := match t.ancestors c |>.getLast? with
    | some p => p.commandPath ++ " " ++ c.use
    | none => c.use
  if c.flagsInUseLine && (line.splitOn "[flags]").length ≤ 1 then line ++ " [flags]" else line

/-- The flags a command shows as its own. -/
def ownFlags (c : Command) (withHelp : Bool) : List Flag :=
  c.flags ++ c.persistent ++ (if withHelp then [c.helpFlag] else [])

/-- The usage of a command; `withHelp` when its help switch has been added. -/
def usage (t : Tree) (c : Command) (withHelp : Bool) : String :=
  let listed := t.hasListed c
  let kids := (t.children c).mergeSort fun a b => a.name ≤ b.name
  let width := kids.foldl (fun w d => max w d.name.length) 11
  let own := ownFlags c withHelp
  let up := t.inherited c
  "Usage:" ++ (if c.runnable then "\n  " ++ t.useLine c else "") ++
    (if listed then "\n  " ++ c.commandPath ++ " [command]" else "") ++
    (if listed then
      "\n\nAvailable Commands:" ++ String.join ((kids.filter fun d =>
        t.available t.length d || d.name == "help").map fun d => "\n  " ++ pad d.name width ++ " " ++ d.short)
     else "") ++
    (if own.isEmpty then "" else "\n\nFlags:\n" ++ trimEnd (flagUsages own)) ++
    (if up.isEmpty then "" else "\n\nGlobal Flags:\n" ++ trimEnd (flagUsages up)) ++
    (if listed then
      "\n\nUse \"" ++ c.commandPath ++ " [command] --help\" for more information about a command."
     else "") ++ "\n"

/-- The help of a command: its description, then its usage. -/
def help (t : Tree) (c : Command) : String :=
  let text := trimEnd (if c.long != "" then c.long else c.short)
  (if text.isEmpty then "" else text ++ "\n\n") ++
    (if c.runnable || !(t.children c).isEmpty then t.usage c true else "")

end Tree

end UiLang.Cli
