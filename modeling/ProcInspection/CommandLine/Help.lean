namespace ProcInspection
namespace CommandLine

/-!
The texts that answer a request for help or for the version.
-/

def version : String := "pinspect 0.1.0\n"

def opening : String :=
  "Inspect Linux process information via the /proc filesystem\n\n"
    ++ "Usage: pinspect [OPTIONS] <PID>\n\n"
    ++ "Arguments:\n"

def examples : String :=
  "\nExamples:\n"
    ++ "  pinspect 1234                  Inspect process 1234\n"
    ++ "  pinspect -v $$                 Inspect the current shell (verbose)\n"
    ++ "  pinspect -n $(pgrep firefox)   Show Firefox network connections\n"

def shortHelp : String :=
  opening
    ++ "  <PID>  Process ID to inspect\n\n"
    ++ "Options:\n"
    ++ "  -v, --verbose                  Show detailed descriptor, thread and connection tables\n"
    ++ "  -n, --network                  Show network connections only\n"
    ++ "  -f, --format <FORMAT>          Output format [default: human] [possible values: human, json]\n"
    ++ "      --proc-root <DIR>          Read process data from this directory instead of /proc (default: $PINSPECT_PROC_ROOT, then /proc)\n"
    ++ "  -q, --quiet                    Suppress all log output\n"
    ++ "      --log-format <LOG_FORMAT>  Log format on stderr [possible values: human, jsonl]\n"
    ++ "  -h, --help                     Print help (see more with '--help')\n"
    ++ "  -V, --version                  Print version\n"
    ++ examples

def longHelp : String :=
  opening
    ++ "  <PID>\n"
    ++ "          Process ID to inspect\n\n"
    ++ "Options:\n"
    ++ "  -v, --verbose\n"
    ++ "          Show detailed descriptor, thread and connection tables\n\n"
    ++ "  -n, --network\n"
    ++ "          Show network connections only\n\n"
    ++ "  -f, --format <FORMAT>\n"
    ++ "          Output format\n\n"
    ++ "          Possible values:\n"
    ++ "          - human: Human-readable tables (default)\n"
    ++ "          - json:  One JSON document for machine consumption\n"
    ++ "          \n"
    ++ "          [default: human]\n\n"
    ++ "      --proc-root <DIR>\n"
    ++ "          Read process data from this directory instead of /proc (default: $PINSPECT_PROC_ROOT, then /proc)\n\n"
    ++ "  -q, --quiet\n"
    ++ "          Suppress all log output\n\n"
    ++ "      --log-format <LOG_FORMAT>\n"
    ++ "          Log format on stderr\n\n"
    ++ "          Possible values:\n"
    ++ "          - human: Human-readable console format (default)\n"
    ++ "          - jsonl: Machine-parseable JSON lines\n\n"
    ++ "  -h, --help\n"
    ++ "          Print help (see a summary with '-h')\n\n"
    ++ "  -V, --version\n"
    ++ "          Print version\n"
    ++ examples

end CommandLine
end ProcInspection
