import TextProtocol.Cli.Arguments

/-!
# Help

How the program and its commands are used.
-/

namespace TextProtocol.Cli

def Topic.usage (program : String) : Topic → String
  | .program => program ++ " [OPTIONS] COMMAND [ARGS]..."
  | .generate => program ++ " gen [OPTIONS]"
  | .support => program ++ " runtime [OPTIONS]"
  | .info => program ++ " info [OPTIONS]"

def Topic.description : Topic → List String
  | .program => [
      "  wirecraft text protocol compiler.",
      "",
      "Options:",
      "  --log-level TEXT  Log level (default: WIRECRAFT_LOG_LEVEL or WARNING)",
      "  --help            Show this message and exit.",
      "",
      "Commands:",
      "  gen      Generate parsers, serializers, clients and tests from a spec...",
      "  info     Display message types, their segments and parser states.",
      "  runtime  Generate runtime support code."]
  | .generate => [
      "  Generate parsers, serializers, clients and tests from a spec file.",
      "",
      "Options:",
      "  -l, --language TEXT    Target language (python, typescript, go, rust).",
      "                         Repeatable; default: all",
      "  -i, --input TEXT       Input protocol spec (JSON)  [required]",
      "  -o, --output TEXT      Output directory",
      "  --runtime-import TEXT  Import path of the Python runtime (default:",
      "                         wirecraft.proto)",
      "  --serial               Generate languages one after another",
      "  --help                 Show this message and exit."]
  | .support => [
      "  Generate runtime support code.",
      "",
      "Options:",
      "  -l, --language TEXT  Target language (python only)",
      "  -o, --output TEXT    Output directory",
      "  --name TEXT          Runtime folder name",
      "  --help               Show this message and exit."]
  | .info => [
      "  Display message types, their segments and parser states.",
      "",
      "Options:",
      "  -i, --input TEXT  Input protocol spec (JSON)  [required]",
      "  --json            Output as JSON",
      "  --help            Show this message and exit."]

def Topic.help (topic : Topic) (program : String) : String :=
  String.join ((["Usage: " ++ topic.usage program, ""] ++ topic.description).map (· ++ "\n"))

end TextProtocol.Cli
