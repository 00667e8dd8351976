import UiLang.Cli.Command

/-!
# The commands of `uic`

`uic` checks and builds a project (`build`, `check`), starts one (`init`), shows
the language reference (`syntax`) and its version (`version`). Every command
takes `-C` (`--config`) (the project directory), `--no-color` and `-v` (`--verbose`).
`help` shows the help of any command, and `completion` groups the commands that
write shell completion scripts.
-/

namespace UiLang.Cli

/-- `-C` (`--config`): the project directory. -/
def configFlag : Flag := ⟨"config", some 'C', .text, "project directory holding uic.yaml", "."⟩

/-- `--no-color`: plain output. -/
def noColorFlag : Flag := ⟨"no-color", none, .switch, "disable colored output", "false"⟩

/-- `-v` (`--verbose`): report each stage. -/
def verboseFlag : Flag := ⟨"verbose", some 'v', .switch, "print each compilation stage", "false"⟩

/-- `-i` (`--input`): the source directory. -/
def inputFlag : Flag := ⟨"input", some 'i', .text, "directory holding the .def and .view files", ""⟩

/-- `--default-view`: the view shown first. -/
def defaultViewFlag : Flag := ⟨"default-view", none, .text, "view shown when the app starts", ""⟩

/-- `-o` (`--output`): the App file. -/
def outputFlag : Flag := ⟨"output", some 'o', .text, "generated App file (.jsx or .js)", ""⟩

/-- `-s` (`--search`): a keyword to look up in the reference. -/
def searchFlag : Flag := ⟨"search", some 's', .text, "search patterns by keyword", ""⟩

/-- `--no-descriptions` of the completion scripts. -/
def noDescriptionsFlag : Flag :=
  ⟨"no-descriptions", none, .switch, "disable completion descriptions", "false"⟩

/-- The root command. -/
def rootCommand : Command where
  path := ["uic"]
  use := "uic"
  short := "Compile .def/.view UI sources into a React App"
  long := "uic reads one .def file (component templates and variables) and the\n" ++
    ".view files of a project, checks them, and writes a single React App.\n\n" ++
    "Settings come from uic.yaml in the project directory, then UIC_INPUT,\n" ++
    "UIC_OUTPUT and UIC_DEFAULT_VIEW, then command-line flags."
  rule := .open_
  persistent := [configFlag, noColorFlag, verboseFlag]

/-- How to load the completion script of a shell. -/
def scriptHelp (shell : String) : String :=
  if shell == "bash" then
    "Generate the autocompletion script for the bash shell.\n\n" ++
    "This script depends on the 'bash-completion' package.\n" ++
    "If it is not installed already, you can install it via your OS's package manager.\n\n" ++
    "To load completions in your current shell session:\n\n\tsource <(uic completion bash)\n\n" ++
    "To load completions for every new session, execute once:\n\n#### Linux:\n\n" ++
    "\tuic completion bash > /etc/bash_completion.d/uic\n\n#### macOS:\n\n" ++
    "\tuic completion bash > $(brew --prefix)/etc/bash_completion.d/uic\n\n" ++
    "You will need to start a new shell for this setup to take effect.\n"
  else if shell == "zsh" then
    "Generate the autocompletion script for the zsh shell.\n\n" ++
    "If shell completion is not already enabled in your environment you will need\n" ++
    "to enable it.  You can execute the following once:\n\n" ++
    "\techo \"autoload -U compinit; compinit\" >> ~/.zshrc\n\n" ++
    "To load completions in your current shell session:\n\n\tsource <(uic completion zsh)\n\n" ++
    "To load completions for every new session, execute once:\n\n#### Linux:\n\n" ++
    "\tuic completion zsh > \"$\x7bfpath[1]\x7d/_uic\"\n\n#### macOS:\n\n" ++
    "\tuic completion zsh > $(brew --prefix)/share/zsh/site-functions/_uic\n\n" ++
    "You will need to start a new shell for this setup to take effect.\n"
  else if shell == "fish" then
    "Generate the autocompletion script for the fish shell.\n\n" ++
    "To load completions in your current shell session:\n\n\tuic completion fish | source\n\n" ++
    "To load completions for every new session, execute once:\n\n" ++
    "\tuic completion fish > ~/.config/fish/completions/uic.fish\n\n" ++
    "You will need to start a new shell for this setup to take effect.\n"
  else
    "Generate the autocompletion script for powershell.\n\n" ++
    "To load completions in your current shell session:\n\n" ++
    "\tuic completion powershell | Out-String | Invoke-Expression\n\n" ++
    "To load completions for every new session, add the output of the above command\n" ++
    "to your powershell profile.\n"

/-- The command writing the completion script of a shell. Only the bash command
leaves `[flags]` out of its use line. -/
def scriptCommand (shell : String) : Command where
  path := ["uic", "completion", shell]
  use := shell
  short := "Generate the autocompletion script for " ++ shell
  long := scriptHelp shell
  rule := .none
  flags := [noDescriptionsFlag]
  action := some (.script shell)
  flagsInUseLine := shell != "bash"

/-- Every command of `uic`, each after its parent, children in order. -/
def commands : Tree := [
  rootCommand,
  { path := ["uic", "build"], use := "build", short := "Check the sources and write the React App",
    rule := .none, flags := [inputFlag, defaultViewFlag, outputFlag], action := some .build },
  { path := ["uic", "check"], use := "check",
    short := "Parse and check the sources without writing anything",
    rule := .none, flags := [inputFlag, defaultViewFlag], action := some .check },
  { path := ["uic", "init"], use := "init",
    short := "Create uic.yaml and sample sources in the project directory",
    rule := .none, action := some .init },
  { path := ["uic", "syntax"], use := "syntax [section]", short := "Show the .def/.view language reference",
    long := "Show the language reference. With a section (components, styling,\n" ++
      "attributes, content, events, values, variables, views) only that part\n" ++
      "is shown, with examples. --search finds patterns by keyword.",
    rule := .atMost 1, flags := [searchFlag], action := some .reference },
  { path := ["uic", "version"], use := "version", short := "Print the uic version",
    rule := .none, action := some .version },
  { path := ["uic", "help"], use := "help [command]", short := "Help about any command",
    long := "Help provides help for any command in the application.\n" ++
      "Simply type uic help [path to command] for full details.",
    rule := .open_, action := some .help },
  { path := ["uic", "completion"], use := "completion",
    short := "Generate the autocompletion script for the specified shell",
    long := "Generate the autocompletion script for uic for the specified shell.\n" ++
      "See each sub-command's help for details on how to use the generated script.\n",
    rule := .none },
  scriptCommand "bash", scriptCommand "zsh", scriptCommand "fish", scriptCommand "powershell"]

end UiLang.Cli
