/-!
The command line: at most one address, and a flag for JSON that may stand before or after
it. After two hyphens every argument is an address. Arguments are read in order and the
first that does not fit decides the error; asking for help or for the version ends the
reading like an error does.
-/
namespace PageAudit

/-- What a command line asks for. -/
structure CommandLine where
  url : Option String
  json : Bool
deriving DecidableEq, Repr, Inhabited

namespace CommandLine

/-- Why a command line does not ask for an audit. -/
inductive Refusal where
  | help
  | version
  | unknownArgument
  /-- A flag given twice. -/
  | repeatedFlag
  /-- A value given to a flag. -/
  | unexpectedValue
deriving DecidableEq, Repr

/-- An argument that stands for itself. -/
def addAddress (c : CommandLine) (arg : String) : Except Refusal CommandLine :=
  if c.url.isSome then .error .unknownArgument else .ok { c with url := some arg }

/-- The flags of one hyphen, of which only the first can count. -/
def shortFlags : List Char → Refusal
  | 'h' :: _ => .help
  | 'V' :: _ => .version
  | _ => .unknownArgument

/-- A flag of two hyphens, given without them. -/
def longFlag (c : CommandLine) (flag : List Char) : Except Refusal CommandLine :=
  let name := String.ofList (flag.takeWhile (· != '='))
  let hasValue := flag.contains '='
  if name == "json" then
    if hasValue then .error .unexpectedValue
    else if c.json then .error .repeatedFlag
    else .ok { c with json := true }
  else if name == "help" then .error (if hasValue then .unexpectedValue else .help)
  else if name == "version" then .error (if hasValue then .unexpectedValue else .version)
  else .error .unknownArgument

/-- Arguments after two hyphens. -/
def addresses (c : CommandLine) : List String → Except Refusal CommandLine
  | [] => .ok c
  | arg :: rest => do addresses (← c.addAddress arg) rest

def parseFrom (c : CommandLine) : List String → Except Refusal CommandLine
  | [] => .ok c
  | arg :: rest =>
    match arg.toList with
    | ['-', '-'] => addresses c rest
    | '-' :: '-' :: flag => do parseFrom (← c.longFlag flag) rest
    | '-' :: f :: flags => .error (shortFlags (f :: flags))
    | _ => do parseFrom (← c.addAddress arg) rest

/-- Reads the arguments after the program's name. -/
def parse (args : List String) : Except Refusal CommandLine := parseFrom ⟨none, false⟩ args

def versionText : String := "vanguard-rs-audit 0.1.0\n"

def helpText : String :=
  "Vanguard RS Audit: single-page website audit (security, performance, SEO, accessibility)\n\n" ++
  "Usage: vanguard-rs-audit [OPTIONS] [URL]\n\n" ++
  "Arguments:\n  [URL]  Website to audit; \x60https://\x60 is assumed when no scheme is given\n\n" ++
  "Options:\n      --json     Print the audit as JSON instead of the text report\n" ++
  "  -h, --help     Print help\n  -V, --version  Print version\n"

/-- What a refusal prints to the standard output. -/
def Refusal.output : Refusal → String
  | .help => helpText
  | .version => versionText
  | _ => ""

def Refusal.exitCode : Refusal → Nat
  | .help => 0
  | .version => 0
  | _ => 2

end CommandLine

end PageAudit
