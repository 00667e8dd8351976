/-!
# Version text

The version report names the release, and the commit and build date when the
build records a commit, followed by the platform.
-/

namespace UiLang

/-- What a build records about itself. -/
structure BuildInfo where
  version : String := "0.1.0"
  commit : String := "dev"
  date : String := "unknown"
  deriving Repr

namespace BuildInfo

/-- The version without one leading `v`, with ` (commit, date)` unless the
commit is `dev` or empty. -/
def info (b : BuildInfo) : String :=
  let v := if b.version.startsWith "v" then String.ofList (b.version.toList.drop 1) else b.version
  if b.commit == "dev" || b.commit == "" then v
  else v ++ " (" ++ b.commit ++ ", " ++ b.date ++ ")"

/-- The line the version command prints. -/
def line (b : BuildInfo) : String :=
  "uic v" ++ b.info ++ " linux/amd64"

end BuildInfo

end UiLang
