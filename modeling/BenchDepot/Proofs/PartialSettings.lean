import BenchDepot.Proofs.FiniteDoubles
import BenchDepot.Proofs.Published
import BenchDepot.Proofs.Spellings
import BenchDepot.Settings.Format

/-!
# Settings of which a part is left out

An operator writes down the settings that are to differ from the defaults and leaves out the rest.
Whatever is left out of a section has its default, all else is as it was written, and the same holds
of whole sections.  The store's section is the exception: it must say of which kind it is and where
the store is kept.  As its kind may stand behind the other members, all of them have to be looked at
first, so that even the number of seconds must be small enough for a double.

* `Overridable` — what makes a section readable without any of its members;
* `StoreSettings.decode_of_perm` — the members of the store's section, in any order;
* `Settings.readsSection` — a section that is left out, or of which a part is;
* `Settings.decode_without` — all settings, without some sections and some fields of the others;
* `settings_partial` — what is read of an object without some of its members.
-/

namespace BenchDepot

namespace Json

/-- An object without the members that are left out. -/
def Value.without (omitted : String → Bool) : Value → Value
  | .object members => .object (members.filter fun m => !(Piece.text? m.1).any omitted)
  | v => v

/-- An object in which each member is without what is left out of it. -/
def Value.within (nested : String → String → Bool) : Value → Value
  | .object members => .object (members.map fun m =>
      (m.1, m.2.without (nested ((Piece.text? m.1).getD ""))))
  | v => v

end Json

open Json (Codec Layout Piece RecordField Value)

/-! ## Defaults for what is left out -/

/-- The server's section with defaults for the fields that are left out. -/
def ServerSettings.withDefaults (c : ServerSettings) (omitted : String → Bool) :
    ServerSettings where
  bind := if omitted "bind" then ServerSettings.bind {} else c.bind
  metricsEnabled :=
    if omitted "metrics_enabled" then ServerSettings.metricsEnabled {} else c.metricsEnabled

/-- The store's section with a default for the field that may be left out. -/
def StoreSettings.withDefaults (c : StoreSettings) (omitted : String → Bool) : StoreSettings where
  path := c.path
  busyTimeout :=
    if omitted "busy_timeout_secs" then StoreSettings.busyTimeout {} else c.busyTimeout

/-- The cache's section with defaults for the fields that are left out. -/
def CacheSettings.withDefaults (c : CacheSettings) (omitted : String → Bool) : CacheSettings where
  aggregate := if omitted "aggregate_ttl_secs" then CacheSettings.aggregate {} else c.aggregate
  referenceTable :=
    if omitted "reference_table_ttl_secs" then CacheSettings.referenceTable {}
    else c.referenceTable
  other := if omitted "default_ttl_secs" then CacheSettings.other {} else c.other

/-- The refresh section with defaults for the fields that are left out. -/
def RefreshSettings.withDefaults (c : RefreshSettings) (omitted : String → Bool) :
    RefreshSettings where
  cooldown := if omitted "cooldown_secs" then RefreshSettings.cooldown {} else c.cooldown
  queueCapacity :=
    if omitted "queue_capacity" then RefreshSettings.queueCapacity {} else c.queueCapacity
  fetchTimeout :=
    if omitted "fetch_timeout_secs" then RefreshSettings.fetchTimeout {} else c.fetchTimeout
  rebuildTimeout :=
    if omitted "materialize_timeout_secs" then RefreshSettings.rebuildTimeout {}
    else c.rebuildTimeout
  sampleLimit := if omitted "sample_limit" then RefreshSettings.sampleLimit {} else c.sampleLimit
  advanceOnFailure :=
    if omitted "advance_cooldown_on_failure" then RefreshSettings.advanceOnFailure {}
    else c.advanceOnFailure
  userAgent := if omitted "user_agent" then RefreshSettings.userAgent {} else c.userAgent
  prewarm := if omitted "prewarm_keys" then RefreshSettings.prewarm {} else c.prewarm

/-- The origins' section with defaults for the fields that are left out. -/
def OriginSettings.withDefaults (c : OriginSettings) (omitted : String → Bool) :
    OriginSettings where
  pciIds := if omitted "pci_ids_url" then OriginSettings.pciIds {} else c.pciIds
  usbIds := if omitted "usb_ids_url" then OriginSettings.usbIds {} else c.usbIds
  fallbackBase :=
    if omitted "fallback_base_url" then OriginSettings.fallbackBase {} else c.fallbackBase

/-- The maintenance section with defaults for the fields that are left out. -/
def MaintenanceSettings.withDefaults (c : MaintenanceSettings) (omitted : String → Bool) :
    MaintenanceSettings where
  enabled := if omitted "enabled" then MaintenanceSettings.enabled {} else c.enabled
  interval := if omitted "interval_secs" then MaintenanceSettings.interval {} else c.interval

/-- All settings with defaults for the sections that are left out, and for the fields that are left
out of the others. -/
def Settings.withDefaults (c : Settings) (omitted : String → Bool)
    (nested : String → String → Bool) : Settings where
  server := if omitted "server" then {} else c.server.withDefaults (nested "server")
  store := if omitted "metadata" then {} else c.store.withDefaults (nested "metadata")
  cache := if omitted "cache" then {} else c.cache.withDefaults (nested "cache")
  refresh := if omitted "refresh" then {} else c.refresh.withDefaults (nested "refresh")
  origins := if omitted "origins" then {} else c.origins.withDefaults (nested "origins")
  maintenance :=
    if omitted "maintenance" then {} else c.maintenance.withDefaults (nested "maintenance")

/-- Whether a section is read from what it is written as, and without some of its members as the
section with defaults in their place. -/
structure ReadsPartially {σ : Type} (layout : Layout σ)
    (withDefaults : σ → (String → Bool) → σ) : Prop where
  whole : ∀ c, layout.codec.ofText? (layout.write c).text = some c
  partly : ∀ c omitted, layout.codec.ofText? ((layout.write c).without omitted).text =
    some (withDefaults c omitted)

/-- What is read of settings of which a part is left out. -/
structure SettingsPartial : Prop where
  server : ReadsPartially ServerSettings.layout ServerSettings.withDefaults
  cache : ReadsPartially CacheSettings.layout CacheSettings.withDefaults
  refresh : ReadsPartially RefreshSettings.layout RefreshSettings.withDefaults
  origins : ReadsPartially OriginSettings.layout OriginSettings.withDefaults
  maintenance : ReadsPartially MaintenanceSettings.layout MaintenanceSettings.withDefaults
  /-- The kind of a store, its path and what else is not left out may stand in any order. -/
  store : ∀ depth c omitted text raw members, Value.parse? text = some (.object raw) →
    raw.mapM Layout.named = some members → omitted "path" = false →
      members.Perm ((StoreSettings.tagName, Value.ofString StoreSettings.tag) ::
        (StoreSettings.layout.members c).filter fun m => !omitted m.1) →
        (StoreSettings.codec depth).ofText? text = some (c.withDefaults omitted)
  /-- Without its kind or its path the store's section is not read. -/
  required : ∀ depth text raw, Value.parse? text = some (.object raw) →
    Layout.occurrences raw StoreSettings.tagName = 0 ∨ Layout.occurrences raw "path" = 0 →
      (StoreSettings.codec depth).ofText? text = none
  whole : ∀ c, Settings.layout.codec.ofText? (Settings.layout.write c).text = some c
  /-- Of all settings, any sections may be left out, and of the others any fields but the kind and
  the path of the store. -/
  all : ∀ c omitted nested, nested "metadata" StoreSettings.tagName = false →
    nested "metadata" "path" = false →
      Settings.layout.codec.ofText?
          (((Settings.layout.write c).within nested).without omitted).text =
        some (c.withDefaults omitted nested)

/-! ## Objects without some of their members -/

namespace Json

variable {σ α : Type} {layout : Layout σ} {s t : σ} {omitted : String → Bool}
  {nested : String → String → Bool} {members : List (String × Value)} {v : Value}

namespace Value

theorem without_ofMembers (omitted : String → Bool) (members : List (String × Value)) :
    (ofMembers members).without omitted = ofMembers (members.filter fun m => !omitted m.1) := by
  simp only [ofMembers, without, List.filter_map, Function.comp_def, Piece.text?_ofString,
    Option.any_some]

theorem within_ofMembers (nested : String → String → Bool) (members : List (String × Value)) :
    (ofMembers members).within nested =
      ofMembers (members.map fun m => (m.1, m.2.without (nested m.1))) := by
  simp only [ofMembers, within, List.map_map, Function.comp_def, Piece.text?_ofString,
    Option.getD_some]

theorem plainMembers_iff {members : List (List Piece × Value)} :
    PlainMembers members ↔ ∀ m ∈ members, Piece.stray ∉ m.1 ∧ m.2.Plain := by
  induction members with
  | nil => simp [PlainMembers]
  | cons m rest ih =>
      rw [PlainMembers, ih, List.forall_mem_cons, and_assoc]

theorem Plain.without (h : v.Plain) (omitted : String → Bool) : (v.without omitted).Plain := by
  cases v with
  | object members =>
      exact plainMembers_iff.mpr fun m hm => plainMembers_iff.mp h m (List.mem_filter.mp hm).1
  | _ => exact h

theorem Plain.within (h : v.Plain) (nested : String → String → Bool) :
    (v.within nested).Plain := by
  cases v with
  | object members =>
      refine plainMembers_iff.mpr fun m hm => ?_
      obtain ⟨m', hm', rfl⟩ := List.mem_map.mp hm
      obtain ⟨hname, hvalue⟩ := plainMembers_iff.mp h m' hm'
      exact ⟨hname, hvalue.without _⟩
  | _ => exact h

end Value

namespace Layout

theorem given_cons_self (name : String) (v : Value) (members : List (String × Value)) :
    given ((name, v) :: members) name = v :: given members name := by
  simp [given]

theorem given_within (members : List (String × Value)) (nested : String → String → Bool)
    (name : String) :
    given (members.map fun m => (m.1, m.2.without (nested m.1))) name =
      (given members name).map (Value.without (nested name)) := by
  induction members with
  | nil => rfl
  | cons m rest ih =>
      simp only [given, List.map_cons, List.filter_cons] at ih ⊢
      by_cases hname : m.1 = name
      · simp [hname, ih]
      · simp [hname, ih]

/-- Each member of an object is read under its name. -/
theorem exists_named {raw : List (List Piece × Value)} (hnamed : raw.mapM named = some members)
    {m : List Piece × Value} (hm : m ∈ raw) :
    ∃ name, Piece.text? m.1 = some name ∧ (name, m.2) ∈ members := by
  induction raw generalizing members with
  | nil => cases hm
  | cons first rest ih =>
      rw [List.mapM_cons] at hnamed
      obtain ⟨own, hown, hnamed⟩ := Option.bind_eq_some_iff.mp hnamed
      obtain ⟨others, hothers, hmembers⟩ := Option.bind_eq_some_iff.mp hnamed
      cases hmembers
      rcases List.mem_cons.mp hm with rfl | hrest
      · obtain ⟨name, hname, rfl⟩ := Option.map_eq_some_iff.mp hown
        exact ⟨name, hname, List.mem_cons_self⟩
      · obtain ⟨name, hname, hmem⟩ := ih hothers hrest
        exact ⟨name, hname, List.mem_cons_of_mem _ hmem⟩

/-- An object without some of its members is read as the record with defaults in their place. -/
theorem read_without (hlawful : layout.Lawful) (hback : layout.ReadsFields t)
    (hoverrides : layout.Overrides omitted s t)
    (hoptional : ∀ f ∈ layout.fields, omitted f.name = true → f.required = false) :
    layout.read ((layout.write s).without omitted) = some t := by
  rw [write, Value.without_ofMembers]
  refine read_of_overrides hlawful hback hoverrides hoptional
    ⟨_, [], mapM_named_ofMembers _, ?_, ?_⟩
  · exact fun _ hm => absurd hm List.not_mem_nil
  · rw [List.append_nil]

end Layout

end Json

/-! ## Sections -/

/-- What makes a field one that may be left out of a section: it has a lawful type and its own
default, which is the one of the whole section. -/
structure Json.RecordField.MayBeOmitted {σ : Type} (f : RecordField σ) (default : σ)
    (withDefaults : σ → (String → Bool) → σ) : Prop where
  lawful : f.codec.Lawful
  own : f.absent = some (f.get default)
  get : ∀ c omitted, f.get (withDefaults c omitted) =
    if omitted f.name then f.get default else f.get c

/-- What makes a section readable without any of its members. -/
structure Overridable {σ : Type} (layout : Layout σ) (withDefaults : σ → (String → Bool) → σ) :
    Prop where
  names : layout.names.Nodup
  rebuilt : ∀ s t, layout.fields.foldl (fun t f => f.set t (f.get s)) t = s
  fields : ∀ f ∈ layout.fields, f.MayBeOmitted layout.default withDefaults

section

variable {σ α : Type} {layout : Layout σ} {withDefaults : σ → (String → Bool) → σ}

/-- A field of a lawful type may be left out if its own default is the one of the section. -/
@[simp] theorem Json.Codec.mayBeOmitted_fieldOr {codec : Codec α} [hcodec : codec.Lawful]
    {name : String} {own : α} {get : σ → α} {set : σ → α → σ} {default : σ} :
    (codec.fieldOr name own get set).MayBeOmitted default withDefaults ↔
      own = get default ∧ ∀ c omitted, get (withDefaults c omitted) =
        if omitted name then get default else get c :=
  ⟨fun h => ⟨Option.some.inj h.own, h.get⟩,
    fun h => ⟨hcodec, congrArg some h.1, h.2⟩⟩

namespace Overridable

theorem lawful (h : Overridable layout withDefaults) : layout.Lawful :=
  ⟨h.names, h.rebuilt, fun f hf => Or.inr (h.fields f hf).own⟩

theorem codec_lawful (h : Overridable layout withDefaults) : layout.codec.Lawful :=
  Layout.codec_lawful h.lawful fun f hf => (h.fields f hf).lawful

theorem decode_without (h : Overridable layout withDefaults) (c : σ) (omitted : String → Bool) :
    layout.codec.decode ((layout.codec.encode c).without omitted) =
      some (withDefaults c omitted) := by
  refine Layout.read_without h.lawful (fun f hf => (h.fields f hf).lawful.readsBack _)
    (fun f hf => (h.fields f hf).get c omitted) fun f hf _ => ?_
  rw [RecordField.required, (h.fields f hf).own]
  rfl

theorem readsPartially (h : Overridable layout withDefaults) :
    ReadsPartially layout withDefaults where
  whole c := by
    have hlawful := h.codec_lawful
    exact Codec.ofText?_encode c
  partly c omitted := by
    have hplain := (h.codec_lawful.plain c).without omitted
    rw [← h.decode_without c omitted]
    exact Codec.ofText?_of_parse (Value.parse?_text hplain)

end Overridable

end

theorem ServerSettings.overridable : Overridable layout withDefaults where
  names := by decide
  rebuilt _ _ := by simp [layout, Codec.fieldOr]
  fields := by simp [layout, withDefaults]

theorem CacheSettings.overridable : Overridable layout withDefaults where
  names := by decide
  rebuilt _ _ := by simp [layout, Codec.fieldOr]
  fields := by simp [layout, withDefaults]

theorem RefreshSettings.overridable : Overridable layout withDefaults where
  names := by decide
  rebuilt _ _ := by simp [layout, Codec.fieldOr]
  fields := by simp [layout, withDefaults]

theorem OriginSettings.overridable : Overridable layout withDefaults where
  names := by decide
  rebuilt _ _ := by simp [layout, Codec.fieldOr]
  fields := by simp [layout, withDefaults]

theorem MaintenanceSettings.overridable : Overridable layout withDefaults where
  names := by decide
  rebuilt _ _ := by simp [layout, Codec.fieldOr]
  fields := by simp [layout, withDefaults]

instance : ServerSettings.layout.codec.Lawful := ServerSettings.overridable.codec_lawful

instance : CacheSettings.layout.codec.Lawful := CacheSettings.overridable.codec_lawful

instance : RefreshSettings.layout.codec.Lawful := RefreshSettings.overridable.codec_lawful

instance : OriginSettings.layout.codec.Lawful := OriginSettings.overridable.codec_lawful

instance : MaintenanceSettings.layout.codec.Lawful := MaintenanceSettings.overridable.codec_lawful

/-! ## The store's section -/

namespace StoreSettings

variable {omitted : String → Bool} {raw : List (List Piece × Value)}
  {members : List (String × Value)}

theorem lawful : layout.Lawful where
  names := by decide
  rebuilt _ _ := rfl
  own := by simp [layout, Codec.field, Codec.fieldOr]

theorem readsFields (c : StoreSettings) : layout.ReadsFields c := by
  simp only [Layout.ReadsFields, layout, List.forall_mem_cons, List.not_mem_nil, false_implies,
    implies_true, and_true]
  exact ⟨Codec.text_readsBack c.path, Codec.uint64_readsBack c.busyTimeout⟩

theorem overrides (hpath : omitted "path" = false) (c : StoreSettings) :
    layout.Overrides omitted c (c.withDefaults omitted) := by
  simp only [Layout.Overrides, layout, Codec.field, Codec.fieldOr, withDefaults,
    List.forall_mem_cons, List.not_mem_nil, false_implies, implies_true, and_true, hpath]
  rfl

theorem areReadableMembers_iff {room : Nat} : areReadableMembers room raw = true ↔
    ∀ m ∈ raw, (Piece.text? m.1).isSome = true ∧ isReadable room m.2 = true := by
  induction raw with
  | nil => simp [areReadableMembers]
  | cons m rest ih =>
      rw [areReadableMembers, Bool.and_eq_true, Bool.and_eq_true, ih, List.forall_mem_cons]

/-- What the members of the section say can be read in any room. -/
theorem isReadable_of_mem {room : Nat} {c : StoreSettings} {m : String × Value}
    (hm : m ∈ (tagName, Value.ofString tag) :: layout.members c) :
    isReadable room m.2 = true := by
  have htext : ∀ s : String, isReadable room (Value.ofString s) = true := by
    intro s
    simp only [Value.ofString, isReadable, Piece.text?_ofString, Option.isSome_some]
  have hnumber : isReadable room (Codec.uint64.encode c.busyTimeout) = true := by
    have hfits : c.busyTimeout.toNat ≤ Decimal.significandLimit :=
      Nat.le_of_lt_succ c.busyTimeout.toNat_lt
    show isReadable room (.number (Decimal.Numeral.ofInt c.busyTimeout.toNat)) = true
    rw [isReadable]
    exact Decimal.isSome_toFloat?_ofInt hfits
  simp only [Layout.members, layout, RecordField.write, Codec.field, Codec.fieldOr, List.map_cons,
    List.map_nil, List.mem_cons, List.not_mem_nil, or_false] at hm
  rcases hm with rfl | rfl | rfl
  · exact htext tag
  · exact htext c.path
  · exact hnumber

/-- The kind, the path and what else is not left out are read in any order. -/
theorem decode_of_perm (depth : Nat) {c : StoreSettings}
    (hnamed : raw.mapM Layout.named = some members) (hpath : omitted "path" = false)
    (hperm : members.Perm ((tagName, Value.ofString tag) ::
      (layout.members c).filter fun m => !omitted m.1)) :
    (codec depth).decode (.object raw) = some (c.withDefaults omitted) := by
  have hreadable : areReadableMembers (nesting - 1 - depth) raw = true := by
    refine areReadableMembers_iff.mpr fun m hm => ?_
    obtain ⟨name, hname, hmem⟩ := Layout.exists_named hnamed hm
    have hmem' : (name, m.2) ∈ (tagName, Value.ofString tag) :: layout.members c :=
      (List.filter_sublist.cons_cons _).subset (hperm.subset hmem)
    exact ⟨by rw [hname]; rfl, isReadable_of_mem hmem'⟩
  have hkind : Layout.given members tagName = [Value.ofString tag] := by
    have hothers : Layout.given ((layout.members c).filter fun m => !omitted m.1) tagName = [] := by
      rw [Layout.given_filter]
      split <;> rfl
    have hgiven := Layout.given_perm hperm tagName
    rw [Layout.given_cons_self, hothers] at hgiven
    exact List.perm_singleton.mp hgiven
  -- to the fields of the section the kind is a foreign member
  have hread : layout.read (.object raw) = some (c.withDefaults omitted) := by
    refine Layout.read_of_overrides lawful (readsFields _) (overrides hpath c) ?_
      ⟨members, [(tagName, Value.ofString tag)], hnamed, ?_, ?_⟩
    · simp [layout, Codec.field, Codec.fieldOr, RecordField.required, hpath]
    · decide
    · exact hperm.trans (List.perm_append_singleton _ _).symm
  rw [Layout.read, hnamed] at hread
  show (if areReadableMembers (nesting - 1 - depth) raw then
    (raw.mapM Layout.named).bind readTagged else none) = _
  rw [if_pos hreadable, hnamed, Option.bind_some, readTagged, hkind]
  exact (if_pos (Codec.text_readsBack tag)).trans hread

/-- The section is read without the field that may be left out. -/
theorem decode_without (depth : Nat) (c : StoreSettings) (htag : omitted tagName = false)
    (hpath : omitted "path" = false) :
    (codec depth).decode (((codec depth).encode c).without omitted) =
      some (c.withDefaults omitted) := by
  show (codec depth).decode ((Value.ofMembers
    ((tagName, Value.ofString tag) :: layout.members c)).without omitted) = _
  rw [Value.without_ofMembers, List.filter_cons_of_pos (by simp [htag])]
  exact decode_of_perm depth (Layout.mapM_named_ofMembers _) hpath (List.Perm.refl _)

theorem readsBack (depth : Nat) (c : StoreSettings) : (codec depth).ReadsBack c := by
  have hall : (layout.members c).filter (fun _ => !false) = layout.members c :=
    List.filter_eq_self.mpr fun _ _ => rfl
  have hdecode : (codec depth).decode ((codec depth).encode c) =
      some (c.withDefaults fun _ => false) :=
    decode_of_perm depth (Layout.mapM_named_ofMembers _) rfl (by rw [hall])
  exact hdecode

/-- The section is not read without its kind, and not without its path. -/
theorem decode_eq_none (depth : Nat)
    (h : Layout.occurrences raw tagName = 0 ∨ Layout.occurrences raw "path" = 0) :
    (codec depth).decode (.object raw) = none := by
  show (if areReadableMembers (nesting - 1 - depth) raw then
    (raw.mapM Layout.named).bind readTagged else none) = none
  split
  · cases hnamed : raw.mapM Layout.named with
    | none => rfl
    | some members =>
        rw [Option.bind_some, readTagged]
        rw [Layout.occurrences_eq hnamed, Layout.occurrences_eq hnamed,
          List.length_eq_zero_iff, List.length_eq_zero_iff] at h
        rcases h with hkind | hpath
        · rw [hkind]
        · have hnone : Layout.readMembers members layout.fields layout.default = none := by
            rw [layout, Layout.readMembers]
            simp only [Codec.field, hpath, RecordField.value?, Option.bind_none]
          rw [hnone]
          split
          · split <;> rfl
          · rfl
  · rfl

theorem plain_write (c : StoreSettings) : (write c).Plain := by
  apply Value.plain_ofMembers
  simp only [Layout.members, layout, Codec.field, List.map_cons, List.map_nil, List.forall_mem_cons,
    List.not_mem_nil, false_implies, implies_true, and_true]
  exact ⟨Value.plain_ofString tag, Value.plain_ofString c.path, trivial⟩

instance (depth : Nat) : (codec depth).Lawful := ⟨readsBack depth, plain_write⟩

end StoreSettings

/-! ## All settings -/

namespace Settings

variable {omitted : String → Bool} {nested : String → String → Bool} {c d : Settings}

theorem lawful : layout.Lawful where
  names := by decide
  rebuilt _ _ := rfl
  own := by simp [layout, Codec.fieldOr]

instance : layout.codec.Lawful := by
  refine Layout.codec_lawful lawful ?_
  simp only [layout, List.forall_mem_cons, List.not_mem_nil, false_implies, implies_true,
    and_true, Codec.fieldOr]
  and_intros <;> infer_instance

/-- Whether a section of some settings is read as that of others, from what is left of it. -/
def ReadsSection (c d : Settings) (omitted : String → Bool) (nested : String → String → Bool)
    (f : RecordField Settings) : Prop :=
  f.value? (if omitted f.name then [] else [(f.write c).without (nested f.name)]) = some (f.get d)

/-- A section is read without what is left out of it, or has its own default. -/
theorem readsSection {α : Type} {codec : Codec α} {name : String} {own a : α}
    {get : Settings → α} {set : Settings → α → Settings}
    (hread : codec.decode ((codec.encode (get c)).without (nested name)) = some a)
    (hget : get d = if omitted name then own else a) :
    ReadsSection c d omitted nested (codec.fieldOr name own get set) := by
  show RecordField.value? (codec.fieldOr name own get set) (if omitted name then [] else _) =
    some (get d)
  rw [hget]
  cases omitted name with
  | true => rfl
  | false => exact hread

theorem readsSection_withDefaults (htag : nested "metadata" StoreSettings.tagName = false)
    (hpath : nested "metadata" "path" = false) (c : Settings) : ∀ f ∈ layout.fields,
      ReadsSection c (c.withDefaults omitted nested) omitted nested f := by
  simp only [layout, List.forall_mem_cons, List.not_mem_nil, false_implies, implies_true, and_true]
  exact ⟨readsSection (ServerSettings.overridable.decode_without _ _) rfl,
    readsSection (StoreSettings.decode_without 1 _ htag hpath) rfl,
    readsSection (CacheSettings.overridable.decode_without _ _) rfl,
    readsSection (RefreshSettings.overridable.decode_without _ _) rfl,
    readsSection (OriginSettings.overridable.decode_without _ _) rfl,
    readsSection (MaintenanceSettings.overridable.decode_without _ _) rfl⟩

/-- All settings are read without some sections and some fields of the others. -/
theorem decode_without (htag : nested "metadata" StoreSettings.tagName = false)
    (hpath : nested "metadata" "path" = false) (c : Settings) :
    layout.codec.decode (((layout.write c).within nested).without omitted) =
      some (c.withDefaults omitted nested) := by
  have hvalues : ∀ f ∈ layout.fields, f.value? (Layout.given (((layout.members c).map fun m =>
      (m.1, m.2.without (nested m.1))).filter fun m => !omitted m.1) f.name) =
        some (f.get (c.withDefaults omitted nested)) := by
    intro f hf
    have hown : Layout.given (layout.members c) f.name = [f.write c] :=
      Layout.given_map lawful.names hf c
    rw [Layout.given_filter, Layout.given_within, hown]
    exact readsSection_withDefaults htag hpath c f hf
  rw [Layout.write, Value.within_ofMembers, Value.without_ofMembers]
  show layout.read (Value.ofMembers _) = _
  rw [Layout.read_ofMembers, Layout.readMembers_of_values hvalues, lawful.rebuilt]

end Settings

/-- What is read of settings of which a part is left out. -/
theorem settings_partial : SettingsPartial where
  server := ServerSettings.overridable.readsPartially
  cache := CacheSettings.overridable.readsPartially
  refresh := RefreshSettings.overridable.readsPartially
  origins := OriginSettings.overridable.readsPartially
  maintenance := MaintenanceSettings.overridable.readsPartially
  store depth c omitted text raw members hparse hnamed hpath hperm := by
    rw [Codec.ofText?_of_parse hparse]
    exact StoreSettings.decode_of_perm depth hnamed hpath hperm
  required depth text raw hparse hmissing := by
    rw [Codec.ofText?_of_parse hparse]
    exact StoreSettings.decode_eq_none depth hmissing
  whole c := by exact Codec.ofText?_encode c
  all c omitted nested htag hpath := by
    have hwhole : (Settings.layout.codec.encode c).Plain := Codec.Lawful.plain c
    have hplain := (hwhole.within nested).without omitted
    exact (Codec.ofText?_of_parse (Value.parse?_text hplain)).trans
      (Settings.decode_without htag hpath c)

/-- Of the store only the path, the kind behind it, and one other setting. -/
example : Settings.layout.codec.ofText? ("\x7b\"maintenance\":\x7b\"enabled\":false\x7d," ++
    "\"metadata\":\x7b\"path\":\"a.db\",\"type\":\"sqlite\"\x7d\x7d") =
      some { maintenance := { enabled := false }, store := { path := "a.db" } } := by
  decide +kernel

end BenchDepot
