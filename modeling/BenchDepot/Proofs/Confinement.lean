import BenchDepot.Proofs.Cutting
import BenchDepot.Proofs.Delivery
import BenchDepot.Proofs.Surface

/-!
# Where clients can send the fetcher

Clients decide which keys are refreshed, and nothing else about it.  A key that is refreshed is the
path of a request, and it is the name of one file: to the base address it adds one slash and one
dot, and nothing that ends a path, escapes a character or leaves a directory.  The aggregate's key
is the one that is rebuilt instead of fetched, and all that tells keys apart agrees on it.

* `isFilePath_text` — what a key adds to an address;
* `source_cases` — the four addresses that content may come from;
* `mem_pending_run` — a signal that waits is that of a path that was read;
* `confined_run` — what a run asks.
-/

namespace BenchDepot

/-- A slash, and the name of one file. -/
structure IsFilePath (cs : List Char) : Prop where
  shape : ∃ name extension, cs = '/' :: (name ++ '.' :: extension) ∧
    name ≠ [] ∧ (∀ c ∈ name, c.isAlphanum = true ∨ c = '_' ∨ c = '-') ∧
    extension ≠ [] ∧ ∀ c ∈ extension, c.isLower = true
  oneSlash : cs.count '/' = 1
  oneDot : cs.count '.' = 1
  plain : '?' ∉ cs ∧ '#' ∉ cs ∧ '%' ∉ cs
  noParent : ['.', '.'] ∉ Text.pieces '/' cs

/-- Whether a key has no address of its own. -/
def Key.IsOther (key : Key) : Prop :=
  key.text ≠ "/benchmark.json" ∧ key.text ≠ "/pci.ids" ∧ key.text ≠ "/usb.ids"

/-- The address that the content of a key is fetched from. -/
inductive OriginSettings.FetchedFrom (s : OriginSettings) (key : Key) : String → Prop
  | pciIds : key.text = "/pci.ids" → FetchedFrom s key s.pciIds
  | usbIds : key.text = "/usb.ids" → FetchedFrom s key s.usbIds
  | fallback : key.IsOther → FetchedFrom s key (String.ofList (s.base ++ key.text.toList))

/-- All that tells keys apart agrees on whether a key is the aggregate's. -/
structure Key.Told (key : Key) (s : OriginSettings) : Prop where
  source : s.source key = .aggregate ↔ key.text = "/benchmark.json"
  isAggregate : key.isAggregate = true ↔ key.text = "/benchmark.json"
  refreshKind : key.refreshKind = .aggregate ↔ key.text = "/benchmark.json"
  ttl : (∀ policy : TtlPolicy, policy.ttl key = policy.aggregate) ↔ key.text = "/benchmark.json"

/-- What a handled signal asks of the world, and what the world still has in store after it. -/
inductive Handled.Asks (handled : Handled) (s : OriginSettings) (key : Key)
    (before after : Service) : Prop
  | nothing : handled.outcome = .debounced → handled.asked = [] → after.origins = before.origins →
      after.chance = before.chance → Asks handled s key before after
  | rebuild : key.text = "/benchmark.json" → handled.asked = [.aggregate] →
      after.origins = before.origins → Asks handled s key before after
  | fetch {url : String} : s.FetchedFrom key url → handled.asked = [.origin url] →
      after.origins = (Origins.fetch url before.origins).2 → after.chance = before.chance →
      Asks handled s key before after

/-- What clients can make a service ask. -/
structure Confined (s : Service) (events : List Event) : Prop where
  /-- If nothing but requests comes in, each key that is refreshed is the path of an earlier one. -/
  requested : s.signals.pending = [] → (∀ e ∈ events, e.isHttp = true ∨ e = .receive) →
    ∀ first e rest u key, events = first ++ e :: rest → (s.run first).met? e = some (u, key) →
      ∃ request, .request request ∈ first ∧
        (request.method = .get ∨ request.method = .head) ∧ request.path = key.text
  /-- A signal is debounced, or it rebuilds the aggregate, or it fetches from the address of its
  key, once. -/
  asked : ∀ first e rest u key, events = first ++ e :: rest → (s.run first).met? e = some (u, key) →
    (u.handle key).1.Asks s.settings.origins key (s.run first) ((s.run first).after e)
  /-- A request by itself neither fetches nor rebuilds. -/
  served : ∀ first request, ((s.run first).after (.request request)).origins =
    (s.run first).origins ∧ ((s.run first).after (.request request)).chance = (s.run first).chance
  /-- Nothing is fetched but for a signal. -/
  idle : ∀ first e, (s.run first).met? e = none → (∀ passed world, e ≠ .turn passed world) →
    ((s.run first).after e).origins = (s.run first).origins
  /-- What a key is appended to is the base that was set, without the slashes at its end. -/
  base : ∃ slashes, s.settings.origins.fallbackBase.toList =
      s.settings.origins.base ++ List.replicate slashes '/' ∧
    s.settings.origins.base.getLast? ≠ some '/'
  /-- Past the base stands the name of one file. -/
  path : ∀ key : Key, IsFilePath key.text.toList
  /-- Different keys are not fetched from one address. -/
  apart : ∀ first second : Key, first ≠ second → first.IsOther → second.IsOther →
    ∃ firstUrl secondUrl, s.settings.origins.source first = .origin firstUrl ∧
      s.settings.origins.source second = .origin secondUrl ∧ firstUrl ≠ secondUrl
  told : ∀ key : Key, key.Told s.settings.origins

/-! ## What a key adds to an address -/

namespace Key

variable {key : Key}

theorem isLower_of_isExtensionChar {c : Char} (h : isExtensionChar c = true) :
    c.isLower = true := by
  simp only [isExtensionChar, Bool.and_eq_true, decide_eq_true_eq, Char.le_def] at h
  exact Bool.and_eq_true_iff.mpr ⟨decide_eq_true h.1, decide_eq_true h.2⟩

theorem isAlphanum_of_isNameChar {c : Char} (h : isNameChar c = true) :
    c.isAlphanum = true ∨ c = '_' ∨ c = '-' := by
  simp only [isNameChar, Bool.or_eq_true, Bool.and_eq_true, decide_eq_true_eq, beq_iff_eq,
    Char.le_def, or_assoc] at h
  have hclasses : c.isAlphanum = ((c.isUpper || c.isLower) || c.isDigit) := rfl
  rcases h with hlower | hupper | hdigit | hother
  · have hc : c.isLower = true :=
      Bool.and_eq_true_iff.mpr ⟨decide_eq_true hlower.1, decide_eq_true hlower.2⟩
    exact Or.inl (by rw [hclasses, hc, Bool.or_true, Bool.true_or])
  · have hc : c.isUpper = true := decide_eq_true hupper
    exact Or.inl (by rw [hclasses, hc, Bool.true_or, Bool.true_or])
  · have hc : c.isDigit = true :=
      Bool.and_eq_true_iff.mpr ⟨decide_eq_true hdigit.1, decide_eq_true hdigit.2⟩
    exact Or.inl (by rw [hclasses, hc, Bool.or_true])
  · exact Or.inr hother

/-- A character that may not stand in a name does not stand in the key but for the slash and the
dot. -/
theorem notMem_name_extension {c : Char} (hname : isNameChar c = false)
    (hextension : isExtensionChar c = false) : c ∉ key.name ∧ c ∉ key.extension := by
  have hn := key.name_ok
  have he := key.extension_ok
  simp only [isName, isExtension, Bool.and_eq_true, List.all_eq_true] at hn he
  constructor
  · intro hmem
    rw [hn.2 c hmem] at hname
    cases hname
  · intro hmem
    rw [he.2 c hmem] at hextension
    cases hextension

/-- A key is the name of one file. -/
theorem isFilePath_text (key : Key) : IsFilePath key.text.toList := by
  have hslash : '/' ∉ key.name ∧ '/' ∉ key.extension := notMem_name_extension rfl rfl
  have hdot : '.' ∉ key.name ∧ '.' ∉ key.extension := notMem_name_extension rfl rfl
  have hname := key.name_ok
  have hextension := key.extension_ok
  simp only [isName, isExtension, Bool.and_eq_true, Bool.not_eq_true', List.isEmpty_eq_false_iff,
    List.all_eq_true] at hname hextension
  rw [toList_text]
  refine ⟨?_, ?_, ?_, ?_, ?_⟩
  · exact ⟨key.name, key.extension, rfl, hname.1,
      fun c hc => isAlphanum_of_isNameChar (hname.2 c hc), hextension.1,
      fun c hc => isLower_of_isExtensionChar (hextension.2 c hc)⟩
  · simp [List.count_eq_zero_of_not_mem hslash.1,
      List.count_eq_zero_of_not_mem hslash.2]
  · simp [List.count_eq_zero_of_not_mem hdot.1,
      List.count_eq_zero_of_not_mem hdot.2]
  · have habsent : ∀ c : Char, c ≠ '/' → c ≠ '.' → isNameChar c = false →
        isExtensionChar c = false → c ∉ '/' :: (key.name ++ '.' :: key.extension) := by
      intro c hc hc' hn he
      have hparts : c ∉ key.name ∧ c ∉ key.extension := notMem_name_extension hn he
      simp [hc, hc', hparts]
    exact ⟨habsent '?' (by decide) (by decide) rfl rfl, habsent '#' (by decide) (by decide) rfl rfl,
      habsent '%' (by decide) (by decide) rfl rfl⟩
  · -- the one segment behind the slash starts with a character of the name
    have hsegment : '/' ∉ key.name ++ '.' :: key.extension := by simp [hslash]
    rw [Text.pieces, if_pos rfl, Text.pieces_of_notMem hsegment]
    cases hcs : key.name with
    | nil => exact absurd hcs hname.1
    | cons c rest =>
        have hc : c ≠ '.' := fun heq => hdot.1 (by rw [hcs, heq]; exact List.mem_cons_self)
        simp [Ne.symm hc]

end Key

/-! ## Addresses -/

namespace OriginSettings

variable {s : OriginSettings} {key : Key}

/-- The base address is what was set, without the slashes at its end. -/
theorem base_spec (s : OriginSettings) :
    ∃ slashes, s.fallbackBase.toList = s.base ++ List.replicate slashes '/' ∧
      s.base.getLast? ≠ some '/' := by
  have hbase : s.base = s.fallbackBase.toList.rdropWhile (· == '/') := rfl
  have hslashes : s.fallbackBase.toList.rtakeWhile (· == '/') =
      List.replicate (s.fallbackBase.toList.rtakeWhile (· == '/')).length '/' := by
    rw [List.eq_replicate_iff]
    exact ⟨rfl, fun c hc => by simpa using List.mem_rtakeWhile_imp hc⟩
  refine ⟨(s.fallbackBase.toList.rtakeWhile (· == '/')).length, ?_, ?_⟩
  · rw [← hslashes, hbase, List.rdropWhile_append_rtakeWhile]
  · intro hlast
    obtain ⟨hne, hslash⟩ := List.mem_getLast?_eq_getLast hlast
    have hnot : ¬(s.base.getLast hne == '/') = true :=
      List.rdropWhile_last_not (· == '/') s.fallbackBase.toList hne
    rw [← hslash] at hnot
    exact hnot rfl

/-- Content is rebuilt for the aggregate's key, and fetched from the address of any other. -/
theorem source_cases (s : OriginSettings) (key : Key) :
    (key.text = "/benchmark.json" ∧ s.source key = .aggregate) ∨
      ∃ url, s.FetchedFrom key url ∧ s.source key = .origin url := by
  unfold source
  split_ifs with haggregate hpci husb
  · exact Or.inl ⟨(Key.eq_iff_text key .aggregate).mp haggregate, rfl⟩
  · exact Or.inr ⟨_, .pciIds ((Key.eq_iff_text key .pciIds).mp hpci), rfl⟩
  · exact Or.inr ⟨_, .usbIds ((Key.eq_iff_text key .usbIds).mp husb), rfl⟩
  · refine Or.inr ⟨_, .fallback ⟨?_, ?_, ?_⟩, rfl⟩
    · exact mt (Key.eq_iff_text key .aggregate).mpr haggregate
    · exact mt (Key.eq_iff_text key .pciIds).mpr hpci
    · exact mt (Key.eq_iff_text key .usbIds).mpr husb

/-- A key without an address of its own is fetched from the base address and its text. -/
theorem source_of_isOther (s : OriginSettings) (h : key.IsOther) :
    s.source key = .origin (String.ofList (s.base ++ key.text.toList)) := by
  obtain ⟨haggregate, hpci, husb⟩ := h
  rw [source, if_neg (mt (Key.eq_iff_text key .aggregate).mp haggregate),
    if_neg (mt (Key.eq_iff_text key .pciIds).mp hpci),
    if_neg (mt (Key.eq_iff_text key .usbIds).mp husb)]

/-- Different keys are not fetched from one address. -/
theorem urls_ne (s : OriginSettings) {first second : Key} (hne : first ≠ second)
    (hfirst : first.IsOther) (hsecond : second.IsOther) :
    ∃ firstUrl secondUrl, s.source first = .origin firstUrl ∧
      s.source second = .origin secondUrl ∧ firstUrl ≠ secondUrl := by
  refine ⟨_, _, s.source_of_isOther hfirst, s.source_of_isOther hsecond, fun heq => hne ?_⟩
  have happend := String.ofList_injective heq
  exact Key.text_injective (String.toList_injective (List.append_cancel_left happend))

/-- All that tells keys apart agrees on whether a key is the aggregate's. -/
theorem told (s : OriginSettings) (key : Key) : key.Told s := by
  have htext : key.text = "/benchmark.json" ↔ key = .aggregate :=
    (Key.eq_iff_text key .aggregate).symm
  refine ⟨?_, ?_, ?_, ?_⟩ <;> rw [htext]
  · unfold source
    split_ifs with haggregate <;> simp [haggregate]
  · rw [Key.isAggregate, beq_iff_eq]
  · rw [Key.refreshKind, Key.isAggregate]
    by_cases haggregate : key = Key.aggregate <;> simp [haggregate]
  · constructor
    · -- a policy that keeps nothing but the aggregate tells it from the others
      intro httl
      have hone : TtlPolicy.ttl ⟨1, 0, 0⟩ key = 1 := httl ⟨1, 0, 0⟩
      by_contra haggregate
      simp [TtlPolicy.ttl, Key.isAggregate, haggregate] at hone
    · rintro rfl policy
      rfl

end OriginSettings

/-! ## Whose signals wait -/

namespace Service

variable {s u : Service} {e : Event} {events : List Event} {key : Key}

/-- A signal that waits after a request or a reception waited before, or its key was read. -/
theorem mem_pending_of_mem_after (he : e.isHttp = true ∨ e = .receive)
    (h : key ∈ (s.after e).signals.pending) :
    key ∈ s.signals.pending ∨ e.readKey? = some key := by
  rcases he with hhttp | rfl
  · cases e with
    | turn passed world => exact Or.inl h
    | request request =>
        obtain ⟨keys, hkeys, hsignals⟩ := signals_respond s request
        have hpending : (s.after (.request request)).signals.pending =
            s.signals.pending ++ keys := congrArg Signals.pending hsignals
        rw [hpending] at h
        rcases List.mem_append.mp h with hold | hnew
        · exact Or.inl hold
        · exact Or.inr (Option.mem_toList.mp (hkeys.subset hnew))
    | _ => cases hhttp
  · cases hpending : s.signals.pending with
    | nil =>
        have hnone : s.signals.receive? = none := by rw [Signals.receive?, hpending]
        simp only [after, hnone, hpending, List.not_mem_nil] at h
    | cons first rest =>
        have hreceive : s.signals.receive? =
            some (first, { s.signals with pending := rest }) := by
          rw [Signals.receive?, hpending]
        simp only [after, hreceive, signals_handle] at h
        exact Or.inl (List.mem_cons_of_mem _ h)

/-- A signal that waits after requests and receptions waited before, or its key was read. -/
theorem mem_pending_run (hevents : ∀ e ∈ events, e.isHttp = true ∨ e = .receive)
    (h : key ∈ (s.run events).signals.pending) :
    key ∈ s.signals.pending ∨ ∃ e ∈ events, e.readKey? = some key := by
  induction events generalizing s with
  | nil => exact Or.inl h
  | cons e rest ih =>
      rcases ih (fun e' he' => hevents e' (List.mem_cons_of_mem _ he')) h with hwaits | hread
      · rcases mem_pending_of_mem_after (hevents e List.mem_cons_self) hwaits with hold | hnew
        · exact Or.inl hold
        · exact Or.inr ⟨e, List.mem_cons_self, hnew⟩
      · obtain ⟨e', he', hkey⟩ := hread
        exact Or.inr ⟨e', List.mem_cons_of_mem _ he', hkey⟩

/-- A signal that is received was waiting. -/
theorem mem_pending_of_met? (he : e.isHttp = true ∨ e = .receive)
    (h : s.met? e = some (u, key)) : key ∈ s.signals.pending := by
  rcases he with hhttp | rfl
  · cases e with
    | handle key => cases hhttp
    | receive => cases hhttp
    | _ => cases h
  · obtain ⟨r, hr, heq⟩ := Option.map_eq_some_iff.mp h
    obtain ⟨_, rfl⟩ := Prod.mk.inj heq
    cases hpending : s.signals.pending with
    | nil => simp [Signals.receive?, hpending] at hr
    | cons first rest =>
        simp only [Signals.receive?, hpending, Option.some.injEq] at hr
        rw [← hr]
        exact List.mem_cons_self

/-- A key that is refreshed where nothing but requests comes in is the path of an earlier one. -/
theorem exists_request_of_met? (hnone : s.signals.pending = [])
    (hevents : ∀ e ∈ events, e.isHttp = true ∨ e = .receive) {first rest : List Event}
    (hsplit : events = first ++ e :: rest) (hmet : (s.run first).met? e = some (u, key)) :
    ∃ request, .request request ∈ first ∧
      (request.method = .get ∨ request.method = .head) ∧ request.path = key.text := by
  have hfirst : ∀ e' ∈ first, e'.isHttp = true ∨ e' = .receive := fun e' he' =>
    hevents e' (hsplit ▸ List.mem_append_left _ he')
  have he : e.isHttp = true ∨ e = .receive := hevents e (by simp [hsplit])
  have hwaits := mem_pending_of_met? he hmet
  rcases mem_pending_run hfirst hwaits with hold | ⟨e', he', hread⟩
  · rw [hnone] at hold
    cases hold
  · cases e' with
    | request request =>
        obtain ⟨hmethod, htext⟩ := readKey?_eq_some_iff.mp hread
        exact ⟨request, he', hmethod, htext.symm⟩
    | _ => cases hread

/-! ## What is asked -/

theorem publish_eq_ok {content : Except RefreshError ByteArray} {after : Service}
    (h : s.publish key content = .ok after) :
    after.origins = s.origins ∧ after.chance = s.chance := by
  cases content with
  | error cause => cases h
  | ok content =>
      unfold publish at h
      dsimp only at h
      split at h
      · next stored hput =>
        cases h
        rw [put_eq_ok hput]
        exact ⟨rfl, rfl⟩
      · cases h

/-- Of a dispatch, only the attempt at new content uses up what the world has in store. -/
theorem world_dispatch (s : Service) (key : Key) :
    (s.dispatch key).2.origins = (s.attempt key).2.2.origins ∧
      (s.dispatch key).2.chance = (s.attempt key).2.2.chance := by
  unfold dispatch
  dsimp only
  split
  · next after hpublish =>
    obtain ⟨horigins, hchance⟩ := publish_eq_ok hpublish
    exact ⟨horigins, hchance⟩
  · unfold afterFailure
    dsimp only
    split <;> exact ⟨rfl, rfl⟩

/-- The attempt at new content fetches once if its source has an address, and nothing otherwise. -/
theorem world_attempt (s : Service) (key : Key) :
    match s.settings.origins.source key with
    | .aggregate => (s.attempt key).2.2.origins = s.origins
    | .origin url => (s.attempt key).2.2.origins = (Origins.fetch url s.origins).2 ∧
        (s.attempt key).2.2.chance = s.chance := by
  have hattempt : (s.attempt key).2.2.origins = (produce _ _).2.2.origins ∧
      (s.attempt key).2.2.chance = (produce _ _).2.2.chance := ⟨rfl, rfl⟩
  rw [hattempt.1, hattempt.2]
  split
  · next hsource =>
    rw [hsource]
    rfl
  · next url hsource =>
    rw [hsource]
    exact ⟨rfl, rfl⟩

/-- A signal is debounced, or it rebuilds the aggregate, or it fetches from the address of its key,
once. -/
theorem asks_handle (s : Service) (key : Key) :
    (s.handle key).1.Asks s.settings.origins key s (s.handle key).2 := by
  cases hblocks : s.dispatches.blocks s.cooldown s.clock key with
  | true =>
      rw [handle_of_blocks hblocks]
      exact .nothing rfl rfl rfl rfl
  | false =>
      obtain ⟨horigins, hchance⟩ := world_dispatch s key
      have hasked := (dispatch_handled s key).2
      have hworld := world_attempt s key
      rw [handle_of_not_blocks hblocks]
      rcases s.settings.origins.source_cases key with ⟨htext, hsource⟩ | ⟨url, hurl, hsource⟩
      · rw [hsource] at hasked hworld
        exact .rebuild htext hasked (horigins.trans hworld)
      · rw [hsource] at hasked hworld
        exact .fetch hurl hasked (horigins.trans hworld.1) (hchance.trans hworld.2)

/-- Nothing is fetched but for a signal, unless the world becomes another one. -/
theorem origins_after_of_met?_none (hmet : s.met? e = none)
    (hworld : ∀ passed world, e ≠ .turn passed world) : (s.after e).origins = s.origins := by
  have hdirect : e.isDirect = true → (s.after e).origins = s.origins := by
    intro hdirect
    obtain ⟨store, hafter⟩ := store_of_isDirect hdirect s
    rw [hafter]
  have hbuilt : ∀ r, (s.built r).2.origins = s.origins := by
    intro r
    obtain ⟨clock, chance, counters, _, hafter⟩ := built_steady s r
    rw [hafter]
  cases e with
  | turn passed world => exact absurd rfl (hworld passed world)
  | request request => exact (steady_respond s request).origins
  | read key => exact (quiet_read s key).origins
  | notify key => exact (quiet_notify s key).origins
  | handle key => cases hmet
  | receive => rw [after_receive_of_met?_none hmet]
  | put key blob at_ => exact hdirect rfl
  | append records at_ => exact hdirect rfl
  | importRow m benchmarkType cpuText at_ => exact hdirect rfl
  | build => exact hbuilt _
  | rebuild => exact hbuilt _
  | compact => exact (quiet_compact s).origins
  | close => rfl

end Service

/-- What clients can make a service ask in a run, whatever else happens in it: the keys that are
refreshed are paths that were read, and each is fetched from the one address that the settings give
it. -/
theorem confined_run (s : Service) (events : List Event) : Confined s events where
  requested hnone hevents _ _ _ _ _ hsplit hmet :=
    Service.exists_request_of_met? hnone hevents hsplit hmet
  asked first e _ u key _ hmet := by
    obtain ⟨hu, hafter⟩ := Service.after_of_met? hmet
    have hsettings : u.settings = s.settings := hu.settings.trans (Service.settings_run s first)
    have hasks := Service.asks_handle u key
    rw [hsettings] at hasks
    rw [hafter]
    cases hasks with
    | nothing hout hasked horigins hchance =>
        exact .nothing hout hasked (horigins.trans hu.origins) (hchance.trans hu.chance)
    | rebuild htext hasked horigins => exact .rebuild htext hasked (horigins.trans hu.origins)
    | fetch hurl hasked horigins hchance =>
        exact .fetch hurl hasked (by rw [horigins, hu.origins]) (hchance.trans hu.chance)
  served first request :=
    have hsteady := Service.steady_respond (s.run first) request
    ⟨hsteady.origins, hsteady.chance⟩
  idle _ _ hmet hworld := Service.origins_after_of_met?_none hmet hworld
  base := s.settings.origins.base_spec
  path := Key.isFilePath_text
  apart _ _ hne hfirst hsecond := s.settings.origins.urls_ne hne hfirst hsecond
  told key := s.settings.origins.told key

end BenchDepot
