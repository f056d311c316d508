import BenchDepot.Compaction
import BenchDepot.Fetch
import BenchDepot.Http.Endpoint
import BenchDepot.Service.Basic
import BenchDepot.Settings.Environment
import BenchDepot.Startup.Arguments
import BenchDepot.Startup.Notices
import BenchDepot.Startup.StoreFile
import BenchDepot.Toml.Reader

/-!
# Starting the service

A start goes through fixed stages, and ends at the first one that fails: the settings are read
from a file, if there is one, and from the environment; they are checked; the store is opened; the
fetcher is made; the keys to prewarm are signalled; compactions begin, if there are to be any; the
endpoint is read and taken.

What a start finds is data: the command line, the environment, the files, and which endpoints can
be taken.

* `Settings.compactions?` — the compactions that begin;
* `Start.ofWorld` — how far a start comes, and how it ends;
* `Start.told` — what its notices tell of that.
-/

namespace BenchDepot

/-- The loop of compactions that begins with a start, if there is to be one. -/
def Settings.compactions? (s : Settings) : Option Compaction.Loop :=
  if s.maintenance.enabled then some (Compaction.Timer.start s.maintenance.interval.toNat) else none

namespace Startup

/-- What a start finds. -/
structure World where
  arguments : List String
  environment : TextMap String
  files : Files
  /-- The path of the directory that the program runs in. -/
  directory : String
  /-- Which notices are to be shown, if that is said. -/
  noticeFilter : Option String
  /-- Whether an endpoint can be taken. -/
  isFree : Http.Endpoint → Bool
  now : Instant

/-- Why a start failed. -/
inductive StartError where
  | settings
  | invalid (cause : SettingsError)
  | store
  | fetcher
  | badEndpoint
  | endpointTaken (endpoint : Http.Endpoint)
deriving DecidableEq

/-- The message of a start that failed. -/
def StartError.message : StartError → String
  | .settings => "failed to load configuration"
  | .invalid cause => "invalid configuration: " ++ cause.message
  | .store => "failed to open benchmark database"
  | .fetcher => "failed to build HTTP client"
  | .badEndpoint => "invalid bind address"
  | .endpointTaken endpoint => "failed to bind to " ++ endpoint.text

/-- How a start ends. -/
inductive Ending where
  | help
  | version
  | misuse
  | failed (error : StartError)
  /-- The queue of signals is larger than any queue can be. -/
  | crashed
  | listening (endpoint : Http.Endpoint) (service : Service)

/-- The exit code of a start; one that goes on to listen has none of its own. -/
def Ending.exitCode : Ending → Nat
  | .help => 0
  | .version => 0
  | .misuse => 2
  | .failed _ => 1
  | .crashed => 101
  | .listening _ _ => 0

/-- How far a start came, and how it ended. -/
structure Start where
  /-- There was a file with settings. -/
  fromFile : Bool := false
  storeOpened : Bool := false
  /-- How many keys were signalled. -/
  prewarmed : Nat := 0
  /-- The compactions that began with the start. -/
  compactions : Option Compaction.Loop := none
  maintenanceOff : Bool := false
  files : Files
  ending : Ending

/-- What the program says about itself when it is asked for its version. -/
def versionLine : String := "benchcached 0.1.0"

/-- The variable that names the file with the settings. -/
def configVariable : String := "BENCHCACHE_CONFIG"

/-- The file with the settings when nothing names one. -/
def defaultConfig : String := "config/server.toml"

/-- The most places that a queue can have. -/
def mostPlaces : Nat := 0x1fffffffffffffff

/-- The settings in a file, if there is one, and the environment. -/
def readSettings? (world : World) (config : String) : Option Settings :=
  let given := Environment.table world.environment
  match world.files.content? config with
  | none => Settings.ofTable? given
  | some text => (Toml.Table.parse? text).bind fun table => Settings.ofTable? (table.over given)

/-- The endpoint of some settings, taken if it is free. -/
def takeEndpoint (world : World) (service : Service) : Ending :=
  match Http.Endpoint.parse? service.settings.server.bind with
  | none => .failed .badEndpoint
  | some endpoint =>
    if world.isFree endpoint then .listening endpoint service
    else .failed (.endpointTaken endpoint)

/-- The service of some settings with its keys to prewarm signalled. -/
def prewarm (settings : Settings) (now : Instant) (keys : List Key) : List Bool × Service :=
  (Service.fresh settings now).notifyAll keys

/-- A start whose store is open. -/
def withStore (world : World) (settings : Settings) (reached : Start) : Start :=
  match Fetcher.of? settings.refresh.userAgent
      (settings.refresh.fetchTimeout.toNat * nanosPerSecond), settings.refresh.prewarmKeys with
  | none, _ => { reached with ending := .failed .fetcher }
  | some _, .error cause => { reached with ending := .failed (.invalid (.badPrewarm cause)) }
  | some _, .ok keys =>
    if mostPlaces < settings.refresh.queueCapacity.toNat then
      { reached with ending := .crashed }
    else
      let (accepted, service) := prewarm settings world.now keys
      { reached with
        prewarmed := accepted.length
        compactions := settings.compactions?
        maintenanceOff := settings.compactions?.isNone
        ending := takeEndpoint world service }

/-- A start whose settings are read. -/
def withSettings (world : World) (settings : Settings) (reached : Start) : Start :=
  match settings.check with
  | .error cause => { reached with ending := .failed (.invalid cause) }
  | .ok () =>
    match openStore world.files world.directory settings.store with
    | (false, files) => { reached with files := files, ending := .failed .store }
    | (true, files) => withStore world settings { reached with storeOpened := true, files := files }

/-- The file with the settings: the one that is named by the command line, else by the
environment. -/
def configFile (environment : TextMap String) (named : Option String) : String :=
  named.getD ((environment.get? configVariable).getD defaultConfig)

/-- A start of the service. -/
def Start.ofWorld (world : World) : Start :=
  match Request.ofArguments world.arguments with
  | .help => { files := world.files, ending := .help }
  | .version => { files := world.files, ending := .version }
  | .misuse => { files := world.files, ending := .misuse }
  | .start named =>
    let config := configFile world.environment named
    let reached : Start :=
      { fromFile := world.files.has config, files := world.files, ending := .failed .settings }
    match readSettings? world config with
    | none => reached
    | some settings => withSettings world settings reached

/-- The source of the notices of a start. -/
def noticeSource : String := "benchcached"

/-- What the notices of a start tell of it: as much as there is, or nothing if they are not
shown. -/
def Start.told (world : World) : Start :=
  let start := Start.ofWorld world
  if (Filter.given world.noticeFilter).shows noticeSource ordinary then start
  else { files := start.files, ending := start.ending }

end Startup

end BenchDepot
