import BenchDepot.Json.Layout
import BenchDepot.Settings.Basic

/-!
# Settings as JSON

Every section of the settings is a record in which each field may be missing and then has its
default.  The store's section is the exception: it names its kind in a member `type`, of which
there is one, and must give a path.  Because the kind may stand behind the other members, all of
them are read before it is known what they mean: they must be texts and numbers of a readable
size throughout, and may not nest without bound.
-/

namespace BenchDepot

open Json (Codec RecordField Layout Piece Value)

/-- The JSON form of the server's section. -/
def ServerSettings.layout : Layout ServerSettings where
  default := {}
  fields :=
    [ Codec.text.fieldOr "bind" defaultBind bind fun s v => { s with bind := v },
      Codec.bool.fieldOr "metrics_enabled" defaultMetricsEnabled metricsEnabled
        fun s v => { s with metricsEnabled := v } ]

/-- The JSON form of the cache's section. -/
def CacheSettings.layout : Layout CacheSettings where
  default := {}
  fields :=
    [ Codec.uint64.fieldOr "aggregate_ttl_secs" defaultAggregate aggregate
        fun s v => { s with aggregate := v },
      Codec.uint64.fieldOr "reference_table_ttl_secs" defaultReferenceTable referenceTable
        fun s v => { s with referenceTable := v },
      Codec.uint64.fieldOr "default_ttl_secs" defaultOther other
        fun s v => { s with other := v } ]

/-- The JSON form of the refresh section. -/
def RefreshSettings.layout : Layout RefreshSettings where
  default := {}
  fields :=
    [ Codec.uint64.fieldOr "cooldown_secs" defaultCooldown cooldown
        fun s v => { s with cooldown := v },
      Codec.uint64.fieldOr "queue_capacity" defaultQueueCapacity queueCapacity
        fun s v => { s with queueCapacity := v },
      Codec.uint64.fieldOr "fetch_timeout_secs" defaultFetchTimeout fetchTimeout
        fun s v => { s with fetchTimeout := v },
      Codec.uint64.fieldOr "materialize_timeout_secs" defaultRebuildTimeout rebuildTimeout
        fun s v => { s with rebuildTimeout := v },
      Codec.uint32.fieldOr "sample_limit" defaultSampleLimit sampleLimit
        fun s v => { s with sampleLimit := v },
      Codec.bool.fieldOr "advance_cooldown_on_failure" defaultAdvanceOnFailure advanceOnFailure
        fun s v => { s with advanceOnFailure := v },
      Codec.text.fieldOr "user_agent" defaultUserAgent userAgent
        fun s v => { s with userAgent := v },
      Codec.text.list.fieldOr "prewarm_keys" [] prewarm fun s v => { s with prewarm := v } ]

/-- The JSON form of the origins' section. -/
def OriginSettings.layout : Layout OriginSettings where
  default := {}
  fields :=
    [ Codec.text.fieldOr "pci_ids_url" defaultPciIds pciIds fun s v => { s with pciIds := v },
      Codec.text.fieldOr "usb_ids_url" defaultUsbIds usbIds fun s v => { s with usbIds := v },
      Codec.text.fieldOr "fallback_base_url" defaultFallbackBase fallbackBase
        fun s v => { s with fallbackBase := v } ]

/-- The JSON form of the maintenance section. -/
def MaintenanceSettings.layout : Layout MaintenanceSettings where
  default := {}
  fields :=
    [ Codec.bool.fieldOr "enabled" defaultEnabled enabled fun s v => { s with enabled := v },
      Codec.uint64.fieldOr "interval_secs" defaultInterval interval
        fun s v => { s with interval := v } ]

namespace StoreSettings

/-- The member that names the kind of a store. -/
def tagName : String := "type"

/-- The one kind of store there is. -/
def tag : String := "sqlite"

/-- The members of the store's section beside its kind. -/
def layout : Layout StoreSettings where
  default := {}
  fields :=
    [ Codec.text.field "path" path fun s v => { s with path := v },
      Codec.uint64.fieldOr "busy_timeout_secs" defaultBusyTimeout busyTimeout
        fun s v => { s with busyTimeout := v } ]

mutual

/-- Whether all of a value can be read, with at most some open arrays and objects at once. -/
def isReadable : Nat → Value → Bool
  | _, .null => true
  | _, .bool _ => true
  | _, .number n => n.toFloat?.isSome
  | _, .string pieces => (Piece.text? pieces).isSome
  | 0, .array _ => false
  | room + 1, .array items => areReadable room items
  | 0, .object _ => false
  | room + 1, .object members => areReadableMembers room members

/-- Whether all of some values can be read. -/
def areReadable : Nat → List Value → Bool
  | _, [] => true
  | room, v :: rest => isReadable room v && areReadable room rest

/-- Whether all of some members can be read, and their names too. -/
def areReadableMembers : Nat → List (List Piece × Value) → Bool
  | _, [] => true
  | room, (name, v) :: rest =>
    (Piece.text? name).isSome && isReadable room v && areReadableMembers room rest

end

/-- The store's section from named members: one of them names the kind. -/
def readTagged (members : List (String × Value)) : Option StoreSettings :=
  match Layout.given members tagName with
  | [kind] =>
    if kind.text? = some tag then
      Layout.readMembers members layout.fields layout.default
    else
      none
  | _ => none

/-- The store's section from an object, or from an array that starts with the kind. -/
def read (room : Nat) : Value → Option StoreSettings
  | .object members =>
    if areReadableMembers room members then
      (members.mapM Layout.named).bind readTagged
    else
      none
  | .array (kind :: items) =>
    if kind.text? = some tag ∧ areReadable room items then
      Layout.readItems layout.fields items layout.default
    else
      none
  | _ => none

/-- The members of the store's section, the kind first. -/
def write (s : StoreSettings) : Value :=
  Value.ofMembers ((tagName, Value.ofString tag) :: layout.members s)

/-- How many arrays and objects may be open at once in a text, where they are looked at. -/
def nesting : Nat := 127

/-- The JSON form of the store's section inside some arrays and objects that are open. -/
def codec (depth : Nat) : Codec StoreSettings where
  encode := write
  decode := read (nesting - 1 - depth)

end StoreSettings

/-- The JSON form of all settings. -/
def Settings.layout : Layout Settings where
  default := {}
  fields :=
    [ ServerSettings.layout.codec.fieldOr "server" {} server fun s v => { s with server := v },
      (StoreSettings.codec 1).fieldOr "metadata" {} store fun s v => { s with store := v },
      CacheSettings.layout.codec.fieldOr "cache" {} cache fun s v => { s with cache := v },
      RefreshSettings.layout.codec.fieldOr "refresh" {} refresh
        fun s v => { s with refresh := v },
      OriginSettings.layout.codec.fieldOr "origins" {} origins
        fun s v => { s with origins := v },
      MaintenanceSettings.layout.codec.fieldOr "maintenance" {} maintenance
        fun s v => { s with maintenance := v } ]

end BenchDepot
