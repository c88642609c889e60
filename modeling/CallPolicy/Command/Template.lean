namespace CallPolicy

/-!
# The configuration to start from
-/

/-- The lines of a new configuration. -/
def templateLines : List String :=
  ["# disallowed configuration",
    "",
    "[engine]",
    "# Project root; path globs and call-site paths are relative to it.",
    "# Relative to this file's directory.",
    "root = \".\"",
    "",
    "# Lowest severity that makes `disallowed check` exit with status 1.",
    "fail-on = \"error\"",
    "",
    "# Method rules match static and instance calls, including calls made",
    "# through subclasses, interface implementations and trait users.",
    "# [[disallowed-method-calls]]",
    "# method = 'PhpOption\\Option::get()'",
    "# message = \"do not unwrap options\"",
    "# allow-in = [\"tests/**\"]",
    "",
    "# Function rules match plain function calls.",
    "[[disallowed-function-calls]]",
    "function = [\"exec()\", \"shell_exec()\", \"passthru()\", \"system()\"]",
    "message = \"use the process abstraction instead\"",
    "# allow-in = [\"bin/*.php\"]",
    "# allow-except-in = [\"src/web/**\"]",
    "# allow-in-callers = ['App\\Console\\Runner::run()']",
    "# allow-params-anywhere = \x7b 2 = true \x7d",
    "# allow-except-params = \x7b 1 = \"rm -rf /\" \x7d",
    "# error-tip = \"see docs/processes.md\"",
    "# severity = \"warning\""]

/-- A new configuration. -/
def template : String :=
  String.join (templateLines.map (· ++ "\n"))

end CallPolicy
