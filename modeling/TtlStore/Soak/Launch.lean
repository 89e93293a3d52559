import TtlStore.Soak.Options
import TtlStore.Sweeper.Log

/-!
# Launching a soak run

A command line either ends the program at once, with something printed and an
exit code, or opens the store to soak.  Help is also printed for an unknown
argument, before its error.  An error is printed with its cause, if it has one,
on lines of its own.
-/

namespace TtlStore.Soak

/-- The version of the program. -/
def version : String :=
  "0.1.0"

/-- The text about the command line. -/
def helpText : String :=
  "\n" ++
  "FlashStore - soak harness for the sharded TTL store\n" ++
  "\n" ++
  "USAGE:\n" ++
  "    flashstore [OPTIONS]\n" ++
  "\n" ++
  "OPTIONS:\n" ++
  "        --shards <N>           Shards in the store (default: 256)\n" ++
  "        --bucket-ms <MS>       Expiry bucket width (default: 100)\n" ++
  "    -t, --threads <N>          Worker threads (default: 4)\n" ++
  "    -k, --keys <N>             Keys per worker (default: 10000)\n" ++
  "        --ttl-ms <MS>          TTL of every write (default: 250)\n" ++
  "    -d, --duration-secs <S>    Run time (default: 5)\n" ++
  "    -v, --version              Print version information\n" ++
  "        --help                 Print this help message\n" ++
  "\n"

/-- The text about the version. -/
def versionText : String :=
  "FlashStore version " ++ version ++ "\n"

/-- What reading a command line prints, whatever comes of it. -/
def printed : Except UsageError Request → String
  | .ok .help => helpText
  | .ok .version => versionText
  | .error (.unknownArgument _) => helpText
  | _ => ""

/-- The text of an error and of its cause. -/
def errorText (message : String) : Option String → String
  | none => "Error: " ++ message ++ "\n"
  | some cause =>
      "Error: " ++ message ++ "\n\nCaused by:\n    " ++ cause ++ "\n"

/-- What a program prints, and its exit code. -/
structure Exit where
  code : UInt32
  output : String
  errors : String
deriving DecidableEq

/-- The end of a program that fails. -/
def Exit.failure (output message : String) (cause : Option String) : Exit where
  code := 1
  output := output
  errors := errorText message cause

/-- How a program begins: it is over, or it soaks a store in the background of its sweeper. -/
inductive Launch where
  | over (exit : Exit)
  | soaking (options : Options) (background : Background String)

/-- Begin a program with the given command line and clock. -/
def launch (arguments : List String) (now : Instant) : Launch :=
  let request := Request.read arguments
  let output := printed request
  match request with
  | .error error => .over (Exit.failure output error.message error.cause?)
  | .ok .help => .over { code := 0, output := output, errors := "" }
  | .ok .version => .over { code := 0, output := output, errors := "" }
  | .ok (.soak options) =>
      match Store.ofSettings options.storeSettings now with
      | .error error =>
          .over
            (Exit.failure output "invalid store configuration"
              (some error.message))
      | .ok store =>
          match Background.start { store := store, clock := now }
              options.pacingSettings (fun _ _ => [])
              (some fun _ _ => []) with
          | .error error =>
              .over
                (Exit.failure output "invalid sweeper configuration"
                  (some error.message))
          | .ok background => .soaking options background

end TtlStore.Soak

namespace TtlStore.Event

/-- The store to soak is ready. -/
def soakReady (session : Session String) : Event where
  level := .info
  message := "Store initialized"
  fields :=
    [("shards", toString session.store.shardCount),
      ("bucket_ms", millisecondsText session.store.index.calendar.width)]

end TtlStore.Event
