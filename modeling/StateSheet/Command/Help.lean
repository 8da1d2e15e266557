import StateSheet.Text.Basic

/-!
# Help

What the program prints about itself.
-/

set_option autoImplicit false

namespace StateSheet

/-- The lines of the explanation. -/
def helpLines : List String :=
  ["stateframe",
    "",
    "USAGE:",
    "  stateframe scan [--ignore <glob>] <glob...>",
    "  stateframe build [--output <path>] [--minify] [--config <path>] [--ignore <glob>] <glob...>",
    "  stateframe watch [--output <path>] [--minify] [--config <path>] [--ignore <glob>] [--poll] " ++
      "[--poll-interval <ms>] <glob...>",
    "",
    "EXAMPLES:",
    "  stateframe scan \"src/**/*.\x7bhtml,tsx\x7d\"",
    "  stateframe build --output dist/state.css \"src/**/*.\x7bhtml,tsx\x7d\"",
    "  stateframe build -c stateframe.toml --minify \"src/**/*.\x7bhtml,tsx\x7d\"",
    "  stateframe watch --poll --poll-interval 250 \"src/**/*.\x7bhtml,tsx\x7d\""]

/-- The explanation of the program. -/
def helpText : Text := helpLines.flatMap fun line => line.toList ++ ['\n']

end StateSheet
