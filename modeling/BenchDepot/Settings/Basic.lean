import BenchDepot.Key

/-!
# Settings

Everything an operator can set, in sections, with the value each setting has when nobody sets it.
A section as a whole has a default too, and only there does the store have a place to be kept.
`Settings.check` says whether a service may be started with them: a queue needs room, a timeout
and a sample need a size, every prewarmed key must be a key, and a schedule needs an interval.
-/

namespace BenchDepot

/-! ## Defaults -/

/-- The address of the service when nobody sets it. -/
def ServerSettings.defaultBind : String := "127.0.0.1:1234"

/-- Whether metrics can be read when nobody says. -/
def ServerSettings.defaultMetricsEnabled : Bool := true

/-- How many seconds the store waits for a lock when nobody sets it. -/
def StoreSettings.defaultBusyTimeout : UInt64 := 5

/-- How many seconds the aggregate stays fresh when nobody sets it: a day. -/
def CacheSettings.defaultAggregate : UInt64 := 86400

/-- How many seconds a reference table stays fresh when nobody sets it: two weeks. -/
def CacheSettings.defaultReferenceTable : UInt64 := 1209600

/-- How many seconds any other artifact stays fresh when nobody sets it: half a day. -/
def CacheSettings.defaultOther : UInt64 := 43200

/-- The seconds between two refreshes of a key when nobody sets them: an hour. -/
def RefreshSettings.defaultCooldown : UInt64 := 3600

/-- How many signals may wait when nobody sets it. -/
def RefreshSettings.defaultQueueCapacity : UInt64 := 64

/-- How many seconds a download may take when nobody sets it. -/
def RefreshSettings.defaultFetchTimeout : UInt64 := 60

/-- How many seconds a rebuild may take when nobody sets it. -/
def RefreshSettings.defaultRebuildTimeout : UInt64 := 300

/-- How many rows of a benchmark type the aggregate holds when nobody sets it. -/
def defaultSampleLimit : UInt32 := 50

/-- Whether a refresh that fails counts as one when nobody says. -/
def RefreshSettings.defaultAdvanceOnFailure : Bool := true

/-- The user agent that origins see when nobody sets it: some refuse one that is no browser's. -/
def defaultUserAgent : String :=
  "Mozilla/5.0 (Windows NT 10.0; Win64; x64) AppleWebKit/537.36 (KHTML, like Gecko) "
    ++ "Chrome/88.0.4324.104 Safari/537.36"

/-- Where the table of PCI devices comes from when nobody sets it. -/
def OriginSettings.defaultPciIds : String := "https://pci-ids.ucw.cz/v2.2/pci.ids"

/-- Where the table of USB devices comes from when nobody sets it. -/
def OriginSettings.defaultUsbIds : String := "http://www.linux-usb.org/usb.ids"

/-- Where all other artifacts come from when nobody sets it. -/
def OriginSettings.defaultFallbackBase : String :=
  "https://raw.githubusercontent.com/lpereira/hardinfo/master/data"

/-- Whether the store is compacted when nobody says. -/
def MaintenanceSettings.defaultEnabled : Bool := true

/-- The seconds between two compactions when nobody sets them: a day. -/
def MaintenanceSettings.defaultInterval : UInt64 := 86400

/-! ## Sections -/

/-- How the service is reached. -/
structure ServerSettings where
  bind : String := ServerSettings.defaultBind
  metricsEnabled : Bool := ServerSettings.defaultMetricsEnabled
deriving DecidableEq

/-- Where results and artifacts are kept. -/
structure StoreSettings where
  path : String := "./hardinfo-database.db"
  busyTimeout : UInt64 := StoreSettings.defaultBusyTimeout
deriving DecidableEq

/-- How many seconds an artifact stays fresh, by the class of its key. -/
structure CacheSettings where
  aggregate : UInt64 := CacheSettings.defaultAggregate
  referenceTable : UInt64 := CacheSettings.defaultReferenceTable
  other : UInt64 := CacheSettings.defaultOther
deriving DecidableEq

/-- How artifacts are refreshed; times in seconds. -/
structure RefreshSettings where
  cooldown : UInt64 := RefreshSettings.defaultCooldown
  queueCapacity : UInt64 := RefreshSettings.defaultQueueCapacity
  fetchTimeout : UInt64 := RefreshSettings.defaultFetchTimeout
  rebuildTimeout : UInt64 := RefreshSettings.defaultRebuildTimeout
  sampleLimit : UInt32 := defaultSampleLimit
  advanceOnFailure : Bool := RefreshSettings.defaultAdvanceOnFailure
  userAgent : String := defaultUserAgent
  prewarm : List String := []
deriving DecidableEq

/-- Where artifacts other than the aggregate come from. -/
structure OriginSettings where
  pciIds : String := OriginSettings.defaultPciIds
  usbIds : String := OriginSettings.defaultUsbIds
  fallbackBase : String := OriginSettings.defaultFallbackBase
deriving DecidableEq

/-- How often the store is compacted; the interval in seconds. -/
structure MaintenanceSettings where
  enabled : Bool := MaintenanceSettings.defaultEnabled
  interval : UInt64 := MaintenanceSettings.defaultInterval
deriving DecidableEq

/-- All settings. -/
structure Settings where
  server : ServerSettings := {}
  store : StoreSettings := {}
  cache : CacheSettings := {}
  refresh : RefreshSettings := {}
  origins : OriginSettings := {}
  maintenance : MaintenanceSettings := {}
deriving DecidableEq

/-- Why a service cannot be started with some settings. -/
inductive SettingsError where
  | noQueue
  | noFetchTime
  | noRebuildTime
  | noSample
  | badPrewarm (cause : KeyError)
  | noInterval
deriving DecidableEq

/-- The message of a settings error. -/
def SettingsError.message : SettingsError → String
  | .noQueue => "refresh.queue_capacity must be at least 1"
  | .noFetchTime => "refresh.fetch_timeout_secs must be at least 1"
  | .noRebuildTime => "refresh.materialize_timeout_secs must be at least 1"
  | .noSample => "refresh.sample_limit must be at least 1"
  | .badPrewarm cause => "refresh.prewarm_keys: " ++ cause.message
  | .noInterval => "maintenance.interval_secs cannot be 0 when enabled"

/-- The keys of some texts, up to the first one that is no key. -/
def Key.parseAll : List String → Except KeyError (List Key)
  | [] => .ok []
  | text :: rest =>
    match Key.parse text with
    | .error cause => .error cause
    | .ok key =>
      match Key.parseAll rest with
      | .error cause => .error cause
      | .ok keys => .ok (key :: keys)

/-- The keys to refresh at the start. -/
def RefreshSettings.prewarmKeys (s : RefreshSettings) : Except KeyError (List Key) :=
  Key.parseAll s.prewarm

/-- The first reason not to start with some refresh settings. -/
def RefreshSettings.check (s : RefreshSettings) : Except SettingsError Unit :=
  if s.queueCapacity = 0 then .error .noQueue
  else if s.fetchTimeout = 0 then .error .noFetchTime
  else if s.rebuildTimeout = 0 then .error .noRebuildTime
  else if s.sampleLimit = 0 then .error .noSample
  else
    match s.prewarmKeys with
    | .error cause => .error (.badPrewarm cause)
    | .ok _ => .ok ()

/-- The first reason not to start with some maintenance settings. -/
def MaintenanceSettings.check (s : MaintenanceSettings) : Except SettingsError Unit :=
  if s.enabled ∧ s.interval = 0 then .error .noInterval else .ok ()

/-- The first reason not to start with some settings. -/
def Settings.check (s : Settings) : Except SettingsError Unit :=
  match s.refresh.check with
  | .error error => .error error
  | .ok () => s.maintenance.check

/-- The settings for trying the service out: nothing runs by itself. -/
def Settings.forTesting : Settings :=
  { maintenance := { enabled := false } }

end BenchDepot
