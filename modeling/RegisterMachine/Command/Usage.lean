import RegisterMachine.Command.Grammar

/-!
# The grammars of the command line

The grammar of the program itself, those of its commands, and the texts that describe them.
-/

namespace RegisterMachine.Command

def programName : String := "asmkit"

def version : String := "0.1.0"

def versionLine : String := programName ++ " " ++ version

def commandNames : List String := ["run", "repl", "help"]

namespace Grammar

def top : Grammar where
  prog := programName
  switches := [.help, .version, .verbose, .logFile]
  positional := .command
  usage := "usage: asmkit [-h] [--version] [-v] [--log-file LOG_FILE] command ...\n"
  help := Text.joined "\n" [
    "usage: asmkit [-h] [--version] [-v] [--log-file LOG_FILE] command ...",
    "",
    "asmvm: run SET/ADD assembly on a 16-bit register machine",
    "",
    "positional arguments:",
    "  command",
    "    run                Run a source file as a one-shot program",
    "    repl               Interactive line-by-line session",
    "    help               List the instruction set",
    "",
    "options:",
    "  -h, --help           show this help message and exit",
    "  --version            show program's version number and exit",
    "  -v, --verbose        Increase console log verbosity (-v, -vv)",
    "  --log-file LOG_FILE  Also write a DEBUG log to this file",
    "",
    "commands:",
    "  run        Run a source file (or - for stdin) as a one-shot program",
    "  repl       Interactive session on a persistent machine",
    "  help       List the instruction set",
    ""]

def run : Grammar where
  prog := "asmkit run"
  switches := [.help, .trace]
  positional := .input
  usage := "usage: asmkit run [-h] [--trace] input\n"
  help := Text.joined "\n" [
    "usage: asmkit run [-h] [--trace] input",
    "",
    "positional arguments:",
    "  input       Input source file, or - for stdin",
    "",
    "options:",
    "  -h, --help  show this help message and exit",
    "  --trace     Print an execution trace after the output log",
    ""]

/-- The grammar of a command without arguments. -/
def bare (name : String) : Grammar where
  prog := "asmkit " ++ name
  switches := [.help]
  positional := .nothing
  usage := "usage: asmkit " ++ name ++ " [-h]\n"
  help := Text.joined "\n" [
    "usage: asmkit " ++ name ++ " [-h]",
    "",
    "options:",
    "  -h, --help  show this help message and exit",
    ""]

end Grammar

end RegisterMachine.Command
