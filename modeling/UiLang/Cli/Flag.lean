import UiLang.Text.Quoted

/-!
# Command-line flags

A flag has a long name, maybe a one-letter shorthand, and holds either text or a
switch. Arguments are read left to right, flags and plain arguments mixed:

* `--name=value`, or `--name value` for a text flag, `--name` for a switch;
* `-c value`, `-cvalue` or `-c=value`; switches group as in `-vx`;
* `--` ends the flags, and `-` alone is a plain argument.

A switch takes `1 t T TRUE true True 0 f F FALSE false False`. The flags of a
command are listed sorted by name, their descriptions aligned one column after
the longest flag.
-/

namespace UiLang.Cli

/-- What a flag holds. -/
inductive FlagKind
  | text
  | switch
  deriving DecidableEq, Repr

/-- A flag: its name, shorthand, kind, description and default value. -/
structure Flag where
  name : String
  short : Option Char := none
  kind : FlagKind
  usage : String
  default : String := ""
  deriving Repr

/-- Why the arguments of a command could not be read. -/
inductive FlagError
  | badSyntax (arg : String)
  | unknownLong (name : String)
  | unknownShort (c : Char) (group : String)
  | needsLong (arg : String)
  | needsShort (c : Char) (group : String)
  | invalid (value flag : String)
  deriving Repr

/-- The text of a failed read. -/
def FlagError.message : FlagError → String
  | .badSyntax a => "bad flag syntax: " ++ a
  | .unknownLong n => "unknown flag: --" ++ n
  | .unknownShort c g => "unknown shorthand flag: " ++ Text.quotedChar c ++ " in -" ++ g
  | .needsLong a => "flag needs an argument: " ++ a
  | .needsShort c g => "flag needs an argument: " ++ Text.quotedChar c ++ " in -" ++ g
  | .invalid v f =>
    "invalid argument " ++ Text.quoted v ++ " for " ++ Text.quoted f ++ " flag: strconv.ParseBool: parsing " ++
      Text.quoted v ++ ": invalid syntax"

/-- The value a switch text stands for. -/
def switchValue? (v : String) : Option Bool :=
  if ["1", "t", "T", "TRUE", "true", "True"].contains v then some true
  else if ["0", "f", "F", "FALSE", "false", "False"].contains v then some false
  else none

/-- How a flag is named in messages: `-s, --name` or `--name`. -/
def Flag.title (f : Flag) : String :=
  match f.short with
  | some c => "-" ++ c.toString ++ ", --" ++ f.name
  | none => "--" ++ f.name

/-- The values set so far, latest first, and the plain arguments. -/
structure Reading where
  values : List (String × String) := []
  args : List String := []
  deriving Repr

/-- Records a value for a flag; a switch must take a switch value. -/
def Reading.set (r : Reading) (f : Flag) (v : String) : Except FlagError Reading :=
  if f.kind == .switch && (switchValue? v).isNone then .error (.invalid v f.title)
  else .ok { r with values := (f.name, v) :: r.values }

/-- The character a message shows for the first byte of a shorthand group. -/
def firstByteChar (c : Char) : Char :=
  if c.toNat < 128 then c
  else
    match (String.singleton c).toUTF8.toList with
    | b :: _ => Char.ofNat b.toNat
    | [] => c

/-- Reads one group of shorthands such as `-vC dir`: the group as left to read,
the arguments after it, and the reading. What is left of a group from a
`test.` on is passed over, as the flags of a test binary look like that. -/
def readShorts (flags : List Flag) (args : List String) :
    List Char → Reading → Except FlagError (List String × Reading)
  | [], r => .ok (args, r)
  | c :: more, r =>
    let group := String.ofList (c :: more)
    if "test.".isPrefixOf group then .ok (args, r) else
    match flags.find? (·.short == some c) with
    | none => .error (.unknownShort (firstByteChar c) group)
    | some f =>
      if more.length ≥ 2 && more.head? == some '=' then
        (r.set f (String.ofList (more.drop 1))).map (args, ·)
      else if f.kind == .switch then
        match r.set f "true" with
        | .ok r => readShorts flags args more r
        | .error e => .error e
      else if !more.isEmpty then (r.set f (String.ofList more)).map (args, ·)
      else
        match args with
        | v :: rest => (r.set f v).map (rest, ·)
        | [] => .error (.needsShort c group)

/-- Reads one `--name` argument: the arguments after it, and the reading. -/
def readLong (flags : List Flag) (arg : String) (args : List String) (r : Reading) :
    Except FlagError (List String × Reading) :=
  let body := String.ofList (arg.toList.drop 2)
  match body.toList with
  | [] | '-' :: _ | '=' :: _ => .error (.badSyntax arg)
  | _ =>
    let (name, value) := match body.splitOn "=" with
      | n :: v :: more => (n, some ("=".intercalate (v :: more)))
      | _ => (body, none)
    match flags.find? (·.name == name) with
    | none => .error (.unknownLong name)
    | some f =>
      match value with
      | some v => (r.set f v).map (args, ·)
      | none =>
        if f.kind == .switch then (r.set f "true").map (args, ·)
        else
          match args with
          | v :: rest => (r.set f v).map (rest, ·)
          | [] => .error (.needsLong arg)

/-- Reads a command's arguments with the flags it knows. -/
def readArgs (flags : List Flag) : List String → Reading → (fuel : Nat) → Except FlagError Reading
  | _, r, 0 => .ok r
  | [], r, _ + 1 => .ok r
  | a :: rest, r, fuel + 1 =>
    match a.toList with
    | '-' :: '-' :: [] => .ok { r with args := r.args ++ rest }
    | '-' :: '-' :: _ =>
      match readLong flags a rest r with
      | .ok (rest, r) => readArgs flags rest r fuel
      | .error e => .error e
    | '-' :: c :: cs =>
      match readShorts flags rest (c :: cs) r with
      | .ok (rest, r) => readArgs flags rest r fuel
      | .error e => .error e
    | _ => readArgs flags rest { r with args := r.args ++ [a] } fuel

/-- Reads a command's arguments: the flags set and the plain arguments. -/
def Reading.of (flags : List Flag) (args : List String) : Except FlagError Reading :=
  readArgs flags args {} (args.length + 1)

/-- The value of a flag: the last one set, else its default. -/
def Reading.get (r : Reading) (f : Flag) : String :=
  (r.values.lookup f.name).getD f.default

/-- Whether a switch is on. -/
def Reading.isOn (r : Reading) (f : Flag) : Bool :=
  (switchValue? (r.get f)).getD false

/-- The left column of a flag's line: shorthand, name and the word `string` for
a text flag. -/
def Flag.column (f : Flag) : String :=
  (match f.short with
    | some c => "  -" ++ c.toString ++ ", --" ++ f.name
    | none => "      --" ++ f.name) ++
  (if f.kind == .text then " string" else "")

/-- The description of a flag, with its default when it has one. -/
def Flag.describe (f : Flag) : String :=
  f.usage ++
    (if f.default == "" || (f.kind == .switch && f.default == "false") then ""
     else if f.kind == .text then " (default " ++ Text.quoted f.default ++ ")"
     else " (default " ++ f.default ++ ")")

/-- The lines describing flags, sorted by name, descriptions aligned. -/
def flagUsages (flags : List Flag) : String :=
  let sorted := flags.mergeSort fun a b => a.name ≤ b.name
  let width := sorted.foldl (fun w f => max w (f.column.utf8ByteSize + 1)) 0
  String.join (sorted.map fun f =>
    f.column ++ " " ++ String.ofList (List.replicate (width - f.column.utf8ByteSize) ' ') ++ " " ++
      f.describe ++ "\n")

end UiLang.Cli
