import UiLang.Cli.Commands
import UiLang.Config.Load
import UiLang.Project.Pipeline
import UiLang.Project.Init
import UiLang.Reference.Render
import UiLang.Version

/-!
# Running a command line

A command line runs in four steps: find the command its words name, read its
flags, show its help if asked (or if it only groups others), check its plain
arguments, and run it. Results go to standard output; failures go to standard
error as `✗ message`, and a failed check as its report. The exit code is `0`, or
`1` after a failure.

Settings are loaded from the project directory and the environment, then the
`--input`, `--output` and `--default-view` flags replace what they set.
-/

namespace UiLang.Cli

open Files

/-- The arguments as help quotes them: `[` and `]` around each one in back
quotes, or in double quotes when back quotes cannot hold it. -/
def quotedArgs (args : List String) : String :=
  let fits (s : String) := s.all fun c =>
    c != '`' && c.toNat != 0xFEFF && c.toNat != 0x7F && (c.toNat ≥ 0x20 || c == '\t')
  "[" ++ " ".intercalate (args.map fun a => if fits a then "`" ++ a ++ "`" else Text.quoted a) ++ "]"

/-- Why the plain arguments do not suit a command, if they do not. -/
def argProblem (c : Command) (args : List String) : Option String :=
  match c.rule, args with
  | .none, a :: _ => some (commands.unknownCommand c a false)
  | .atMost n, _ =>
    if args.length > n then
      some ("accepts at most " ++ toString n ++ " arg(s), received " ++ toString args.length)
    else none
  | _, _ => none

section Run

variable {m : Type → Type} [Monad m] [Host m]

/-- Prints a failure and gives the failing exit code. -/
def fail (msg : String) : m Nat := do
  Host.err ("✗ " ++ msg ++ "\n")
  pure 1

/-- Prints a project failure: a failed check as its report, any other as a
message. -/
def reportFailure (e : Project.ProjectError) : m Nat := do
  match e.checkFailure? with
  | some (pass, found) =>
    Host.err (Project.checkReport pass found)
    pure 1
  | none => fail e.message

/-- The settings of a run: loaded, replaced by the flags, and checked. -/
def settings (env : String → String) (r : Reading) : m (Except String Config) := do
  match ← Config.load (r.get configFlag) env with
  | .error e => pure (.error e.message)
  | .ok cfg =>
    let cfg := cfg.override ⟨r.get inputFlag, r.get outputFlag, r.get defaultViewFlag⟩
    match cfg.validate with
    | some e => pure (.error e.message)
    | none => pure (.ok cfg)

/-- Runs a command with its flags read. A completion script is not written. -/
def perform (env : String → String) (r : Reading) : Action → m Nat
  | .build => do
    match ← settings env r with
    | .error e => fail e
    | .ok cfg =>
      let result : Except Project.ProjectError Unit ←
        (Project.build (m := m) (r.isOn verboseFlag) cfg.input cfg.output cfg.defaultView).run
      match result with
      | .error e => reportFailure e
      | .ok () => do
        Host.out ("✓ Wrote " ++ cfg.output ++ "\n")
        pure 0
  | .check => do
    match ← settings env r with
    | .error e => fail e
    | .ok cfg =>
      let result : Except Project.ProjectError (Project.Sources × Program) ←
        (Project.compile (m := m) (r.isOn verboseFlag) cfg.input cfg.defaultView).run
      match result with
      | .error e => reportFailure e
      | .ok (src, p) => do
        Host.out ("✓ " ++ Check.summary p src.defName ++ "\n")
        let missing := Check.missingDefaultView p
        if missing != "" then
          Host.out ("⚠ default view " ++ missing ++ " not found; build will fail\n")
        pure 0
  | .init => do
    let (written, failure) ← Project.initProject (m := m) (r.get configFlag)
    for path in written do
      Host.out ("  created " ++ path ++ "\n")
    match failure with
    | some f => fail f.message
    | none => do
      Host.out "✓ Project ready. Run uic build.\n"
      pure 0
  | .reference =>
    match Reference.render (r.args.headD "") (r.get searchFlag) with
    | .ok text => do
      Host.out text
      pure 0
    | .error e => fail e.message
  | .version => do
    Host.out (({} : BuildInfo).line ++ "\n")
    pure 0
  | .help => do
    let (target, _, problem) := commands.find rootCommand r.args
    match problem with
    | some _ => Host.err ("Unknown help topic " ++ quotedArgs r.args ++ "\n" ++ commands.usage rootCommand false)
    | none => Host.out (commands.help target)
    pure 0
  | .script _ => pure 0

/-- Runs `uic` with these arguments; `env` reads the environment, `""` for an
unset variable. Gives the exit code. -/
def run (env : String → String) (args : List String) : m Nat := do
  let (c, rest, problem) := commands.find rootCommand args
  match problem with
  | some e => fail e
  | none =>
    match Reading.of (c.helpFlag :: commands.known c) rest with
    | .error e => fail e.message
    | .ok r =>
      match c.action with
      | none => do
        Host.out (commands.help c)
        pure 0
      | some action =>
        if r.isOn c.helpFlag then do
          Host.out (commands.help c)
          pure 0
        else
          match argProblem c r.args with
          | some e => fail e
          | none => perform env r action

end Run

end UiLang.Cli
