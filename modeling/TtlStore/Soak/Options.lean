import TtlStore.Numeral
import TtlStore.Settings
import TtlStore.Soak.Worker

/-!
# The command line

The command line is a list of flags, each followed by its value, a 64-bit
numeral.  It is read from the left; of several values of one option the last
counts.  Whatever stands after a flag is its value, even if it looks like a
flag.  Asking for help or for the version ends the reading at once, and so does
the first mistake.  Only a command line read to its end is checked for a worker
and a key.
-/

namespace TtlStore.Soak

/-- What a soak run is told by its command line. -/
structure Options where
  shards : UInt64
  bucketMilliseconds : UInt64
  workers : UInt64
  keys : UInt64
  ttlMilliseconds : UInt64
  seconds : UInt64
deriving DecidableEq

/-- The options of an empty command line. -/
def Options.standard : Options where
  shards := UInt64.ofNat StoreSettings.standard.shards
  bucketMilliseconds := 100
  workers := 4
  keys := 10000
  ttlMilliseconds := 250
  seconds := 5

/-- A flag that takes a value. -/
inductive Flag where
  | shards
  | bucketMilliseconds
  | workers
  | keys
  | ttlMilliseconds
  | seconds
deriving DecidableEq

/-- The spellings of each flag. -/
def Flag.spellings : Flag → List String
  | .shards => ["--shards"]
  | .bucketMilliseconds => ["--bucket-ms"]
  | .workers => ["--threads", "-t"]
  | .keys => ["--keys", "-k"]
  | .ttlMilliseconds => ["--ttl-ms"]
  | .seconds => ["--duration-secs", "-d"]

/-- All flags that take a value. -/
def Flag.all : List Flag :=
  [.shards, .bucketMilliseconds, .workers, .keys, .ttlMilliseconds,
    .seconds]

/-- The flag that a text spells. -/
def Flag.ofSpelling? (text : String) : Option Flag :=
  Flag.all.find? fun flag => flag.spellings.contains text

/-- The options with one value replaced. -/
def Options.assign (options : Options) (value : UInt64) :
    Flag → Options
  | .shards => { options with shards := value }
  | .bucketMilliseconds => { options with bucketMilliseconds := value }
  | .workers => { options with workers := value }
  | .keys => { options with keys := value }
  | .ttlMilliseconds => { options with ttlMilliseconds := value }
  | .seconds => { options with seconds := value }

/-- What a command line without mistakes asks for. -/
inductive Request where
  | soak (options : Options)
  | help
  | version
deriving DecidableEq

/-- A request that stands alone and is granted wherever a flag may stand. -/
def Request.ofSpelling? (text : String) : Option Request :=
  if text = "--help" then some .help
  else if text = "--version" ∨ text = "-v" then some .version
  else none

/-- The mistakes of a command line. -/
inductive UsageError where
  | unknownArgument (argument : String)
  | missingValue (flag : String)
  | invalidValue (flag value : String) (cause : NumeralError)
  | nothingToDo
deriving DecidableEq

namespace UsageError

/-- The wording of a mistake. -/
def message : UsageError → String
  | .unknownArgument argument => "unknown argument: " ++ argument
  | .missingValue flag => flag ++ " requires a value"
  | .invalidValue flag value _ =>
      "invalid value for " ++ flag ++ ": " ++ value
  | .nothingToDo => "--threads and --keys must be at least 1"

/-- The wording of what led to a mistake, if anything did. -/
def cause? : UsageError → Option String
  | .invalidValue _ _ cause => some cause.message
  | _ => none

end UsageError

namespace Request

/-- What the rest of a command line asks for, given the options so far. -/
def readFrom (options : Options) : List String → Except UsageError Request
  | [] =>
      if options.workers = 0 ∨ options.keys = 0 then
        .error .nothingToDo
      else
        .ok (.soak options)
  | [argument] =>
      match Flag.ofSpelling? argument with
      | some _ => .error (.missingValue argument)
      | none =>
          match ofSpelling? argument with
          | some request => .ok request
          | none => .error (.unknownArgument argument)
  | argument :: value :: rest =>
      match Flag.ofSpelling? argument with
      | some flag =>
          match Numeral.read value with
          | .ok number => readFrom (options.assign number flag) rest
          | .error cause => .error (.invalidValue argument value cause)
      | none =>
          match ofSpelling? argument with
          | some request => .ok request
          | none => .error (.unknownArgument argument)

/-- What a command line asks for. -/
def read (arguments : List String) : Except UsageError Request :=
  readFrom Options.standard arguments

end Request

namespace Options

/-- The settings of the store to soak. -/
def storeSettings (options : Options) : StoreSettings where
  shards := options.shards.toNat
  bucketWidth := Duration.ofMilliseconds options.bucketMilliseconds.toNat

/--
The settings of the sweeper: its first interval is one bucket width, and the
others a quarter of that and four times it, none of them below a millisecond.
-/
def pacingSettings (options : Options) : PacingSettings :=
  let width :=
    Duration.ofMilliseconds (max options.bucketMilliseconds.toNat 1)
  { PacingSettings.standard with
    first := width
    shortest := max width.quarter (Duration.ofMilliseconds 1)
    longest := width.fourfold }

/-- The worker with the given number. -/
def worker (options : Options) (id : UInt64) : Worker where
  id := id
  keys := options.keys
  ttl := Duration.ofMilliseconds options.ttlMilliseconds.toNat

end Options

end TtlStore.Soak
