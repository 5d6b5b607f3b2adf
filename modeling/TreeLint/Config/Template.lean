namespace TreeLint.Config

def templateLines : List String := [
    "# checkwalk configuration",
    "version: \"1\"",
    "",
    "# Glob patterns for paths to skip.",
    "exclude:",
    "  - \"**/generated/**\"",
    "  - \"**/target/**\"",
    "",
    "# Analyze test sources too.",
    "include_tests: true",
    "",
    "rules:",
    "  EmptyStatementUsageCheck:",
    "    enabled: true",
    "    severity: info",
    "",
    "  S2134:",
    "    enabled: true",
    "    severity: warning",
    "",
    "  # Off by default; deep hierarchies are common in framework code.",
    "  MaximumInheritanceDepth:",
    "    enabled: false",
    "    severity: warning",
    "    params:",
    "      max: 5"]

def template : String := String.join (templateLines.map (· ++ "\n"))

end TreeLint.Config
