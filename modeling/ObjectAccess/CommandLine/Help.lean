import ObjectAccess.CommandLine.Arguments

/-!
# Help

What the command line prints about itself.
-/

namespace ObjectAccess.CommandLine

set_option autoImplicit false

/-- The name and version of the program. -/
def versionText : String := "bucketgate 0.3.0\n"

/-- The lines of a text, each with its end. -/
def lines (ls : List String) : String := String.join (ls.map (· ++ "\n"))

/-- The default of the bucket as help shows it: where it has lines of its own, each of them
starts in the column of what help says about the settings. -/
def bucketDefault (lookup : String → Option String) (column : Nat) : String :=
  let value := (lookup bucketVariable).getD ""
  let indented := value.toList.flatMap fun c =>
    if c = '\n' then c :: List.replicate column ' ' else [c]
  "[env: " ++ bucketVariable ++ "=" ++ String.ofList indented ++ "]"

/-- The help on a topic. -/
def helpText (lookup : String → Option String) : Topic → String
  | .everything => lines [
      "Compile bucket policies and resolve object URLs",
      "",
      "Usage: bucketgate <COMMAND>",
      "",
      "Commands:",
      "  compile  Compile a permission specification into a bucket policy document",
      "  url      Print the download URL of an object: plain if public, presigned otherwise",
      "  help     Print this message or the help of the given subcommand(s)",
      "",
      "Options:",
      "  -h, --help     Print help",
      "  -V, --version  Print version"]
  | .compile => lines [
      "Compile a permission specification into a bucket policy document",
      "",
      "Usage: bucketgate compile [OPTIONS] --bucket <BUCKET>",
      "",
      "Options:",
      "  -b, --bucket <BUCKET>  Bucket the policy is for " ++ bucketDefault lookup 25,
      "  -f, --file <FILE>      Permission specification JSON; read from stdin when omitted",
      "      --pretty           Indent the output",
      "  -h, --help             Print help"]
  | .url => lines [
      "Print the download URL of an object: plain if public, presigned otherwise",
      "",
      "Usage: bucketgate url [OPTIONS] --bucket <BUCKET> --key <KEY>",
      "",
      "Options:",
      "  -b, --bucket <BUCKET>    Bucket holding the object " ++ bucketDefault lookup 27,
      "  -k, --key <KEY>          Object key",
      "      --public <PATTERN>   Public path pattern for the bucket; repeatable",
      "      --expires-in <SECS>  Lifetime of a presigned URL in seconds",
      "  -h, --help               Print help"]
  | .help => lines [
      "Print this message or the help of the given subcommand(s)",
      "",
      "Usage: bucketgate help [COMMAND]...",
      "",
      "Arguments:",
      "  [COMMAND]...  Print help for the subcommand(s)"]

end ObjectAccess.CommandLine
