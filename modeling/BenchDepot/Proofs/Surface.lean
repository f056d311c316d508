import BenchDepot.Proofs.Aggregate
import BenchDepot.Proofs.Answers
import BenchDepot.Proofs.KeyGrammar
import BenchDepot.Proofs.Reads

/-!
# What can be done over HTTP

A request reads a key, uploads results, or is answered without touching the service.  So artifacts
cannot be written over HTTP at all, rows come in with accepted uploads only, and a signal is that of
a key that somebody read.  A path without a handler of its own is first read as a key, before the
method is looked at and long before the store is.

* `answer_cases` — the three ways in which a request is answered;
* `respond_surface` — one request to any service;
* `run_surface` — any number of requests, with whatever happens to the world between them.
-/

namespace BenchDepot

open Http (ApiError)

/-- The key that a request reads: that of its path, for the two methods that read. -/
def Http.Request.readKey? (request : Http.Request) : Option Key :=
  match request.method with
  | .get => (Key.parse request.path).toOption
  | .head => (Key.parse request.path).toOption
  | _ => none

/-- Whether an event is a request, or the world changes. -/
def Event.isHttp : Event → Bool
  | .turn .. => true
  | .request _ => true
  | _ => false

/-- The key that an event reads over HTTP. -/
def Event.readKey? : Event → Option Key
  | .request r => r.readKey?
  | _ => none

/-- Whether a path has no handler of its own. -/
def Service.FallsThrough (s : Service) (path : String) : Prop :=
  path ≠ "/health" ∧ path ≠ "/benchmark.json" ∧
    (path = "/metrics" → s.settings.server.metricsEnabled = false)

/-- A request that is answered with an error, while nothing is done. -/
structure Refused (s : Service) (request : Http.Request) (status : Nat) (code : String) :
    Prop where
  status : (Http.respond s request).1.status = status
  answer : (Http.answer s request).1.code? = some code
  /-- The code is sent unless only the head was asked for. -/
  sent : request.method ≠ .head → (Http.respond s request).1.code? = some code
  after : (Http.respond s request).2 = s

/-- What a request may do and how it is answered. -/
structure Surface (s : Service) (request : Http.Request) : Prop where
  artifacts : (Http.respond s request).2.store.artifacts = s.store.artifacts
  /-- Rows come in with uploads that are answered with 200. -/
  rows : (Http.respond s request).2.store.rows ≠ s.store.rows →
    request.method = .post ∧ request.path = "/benchmark.json" ∧
      (Http.respond s request).1.status = 200
  /-- At most one signal comes in, behind the others: that of the key that was read. -/
  signals : ∃ keys, keys.Sublist request.readKey?.toList ∧ (Http.respond s request).2.signals =
    { s.signals with pending := s.signals.pending ++ keys }
  /-- A path that is no key is refused as one, whatever the method. -/
  badKey : s.FallsThrough request.path → (∀ key : Key, key.text ≠ request.path) →
    Refused s request 400 "invalid_key"
  /-- An artifact cannot be posted. -/
  forbidden : ∀ key : Key, s.FallsThrough request.path → key.text = request.path →
    request.method = .post → Refused s request 403 "forbidden"
  /-- Nor does it take any other method than the two that read. -/
  badMethod : ∀ key : Key, s.FallsThrough request.path → key.text = request.path →
    request.method ≠ .get → request.method ≠ .head → request.method ≠ .post →
      Refused s request 405 "method_not_allowed"
  /-- A read of a stored artifact answers with its content. -/
  found : ∀ (key : Key) (artifact : Artifact), key.text = request.path → request.method = .get →
    (s.lookup key).isOk = true → s.store.artifact? key.text = some artifact →
      (Http.respond s request).1.status = 200 ∧ (Http.respond s request).1.body = artifact.blob
  /-- A read of another one finds nothing. -/
  notFound : ∀ key : Key, key.text = request.path → request.method = .get →
    (s.lookup key).isOk = true → s.store.artifact? key.text = none →
      (Http.respond s request).1.status = 404

/-- What some requests may do, one after the other. -/
structure SurfaceOf (s : Service) (events : List Event) : Prop where
  /-- What each of them may do, and how it is answered. -/
  each : ∀ first request rest, events = first ++ .request request :: rest →
    Surface (s.run first) request
  artifacts : (s.run events).store.artifacts = s.store.artifacts
  /-- The rows that come in are those of the uploads that are accepted. -/
  rows : ∃ more, (s.run events).store.rows = s.store.rows ++ more ∧
    List.Forall₂ (fun record row => ∃ at_, Row.Keeps at_ record row)
      (s.accepted events).flatten more
  /-- The signals that come in are those of keys that are read, in their order. -/
  signals : ∃ keys, keys.Sublist (events.filterMap Event.readKey?) ∧ (s.run events).signals =
    { s.signals with pending := s.signals.pending ++ keys }

/-! ## Paths that are keys -/

namespace Key

variable {key : Key} {path : String}

/-- Every key has a dot. -/
theorem dot_mem_text (key : Key) : '.' ∈ key.text.toList := by
  rw [toList_text]
  simp

theorem text_ne_of_dot_notMem (key : Key) (h : '.' ∉ path.toList) : key.text ≠ path := by
  rintro rfl
  exact h key.dot_mem_text

end Key

namespace Service

variable {s : Service} {request : Http.Request} {key : Key} {events : List Event}

/-! ## How a request is answered -/

theorem answer_of_fallsThrough (h : s.FallsThrough request.path) :
    Http.answer s request = Http.fallback s request.method request.path := by
  obtain ⟨hhealth, haggregate, hmetrics⟩ := h
  have hroute : Http.route s.settings.server.metricsEnabled request.path =
      .artifact request.path := by
    have hne : request.path ≠ Key.aggregate.text := haggregate
    rw [Http.route, if_neg hhealth, if_neg hne, if_neg]
    rintro ⟨hpath, henabled⟩
    rw [hmetrics hpath] at henabled
    cases henabled
  rw [Http.answer, hroute]

/-- Only the aggregate's key has a path with a handler of its own. -/
theorem fallsThrough_of_ne_aggregate (h : key.text = request.path) (hne : key ≠ Key.aggregate) :
    s.FallsThrough request.path := by
  refine ⟨?_, ?_, ?_⟩
  · exact h ▸ key.text_ne_of_dot_notMem (by decide)
  · intro hpath
    have haggregate : Key.parse request.path = .ok Key.aggregate :=
      Key.parse_eq_ok_iff.mpr hpath.symm
    rw [Key.parse_eq_ok_iff.mpr h] at haggregate
    exact hne (Except.ok.inj haggregate)
  · intro hpath
    exact absurd (h.trans hpath) (key.text_ne_of_dot_notMem (by decide))

/-- A key is read in the same way with a handler of its own and without. -/
theorem answer_of_key (h : key.text = request.path)
    (hmethod : request.method = .get ∨ request.method = .head) :
    Http.answer s request = Http.serve s key := by
  by_cases haggregate : key = Key.aggregate
  · subst haggregate
    rw [Http.answer, ← h, route_aggregate]
    rcases hmethod with hmethod | hmethod <;> rw [hmethod]
  · rw [answer_of_fallsThrough (fallsThrough_of_ne_aggregate h haggregate), Http.fallback,
      Key.parse_eq_ok_iff.mpr h]
    rcases hmethod with hmethod | hmethod <;> rw [hmethod]

theorem readKey?_eq_some_iff : request.readKey? = some key ↔
    (request.method = .get ∨ request.method = .head) ∧ key.text = request.path := by
  rw [← Key.parse_eq_ok_iff]
  unfold Http.Request.readKey?
  cases request.method <;> cases Key.parse request.path <;> simp [Except.toOption]

/-- The paths of the two handlers that read keys. -/
theorem path_of_route {metricsEnabled : Bool} {path : String} :
    (Http.route metricsEnabled path = .aggregate → path = Key.aggregate.text) ∧
      ∀ other, Http.route metricsEnabled path = .artifact other → other = path := by
  constructor
  · intro hroute
    by_contra hne
    exact route_ne_aggregate hne hroute
  · intro other hroute
    unfold Http.route at hroute
    split_ifs at hroute
    cases hroute
    rfl

/-- The three ways in which a request is answered: a key is read, results are uploaded, or nothing
is done. -/
theorem answer_cases (s : Service) (request : Http.Request) :
    (∃ key, request.readKey? = some key ∧ Http.answer s request = Http.serve s key) ∨
      request.isUpload = true ∨ (Http.answer s request).2 = s := by
  by_cases hread : ∃ key, request.readKey? = some key
  · obtain ⟨key, hkey⟩ := hread
    obtain ⟨hmethod, htext⟩ := readKey?_eq_some_iff.mp hkey
    exact Or.inl ⟨key, hkey, answer_of_key htext hmethod⟩
  · refine Or.inr ?_
    -- a path that is a key comes with a method that does not read
    have hmethod : ∀ key : Key, key.text = request.path →
        request.method ≠ .get ∧ request.method ≠ .head := by
      intro key htext
      constructor <;> intro hmethod <;>
        exact hread ⟨key, readKey?_eq_some_iff.mpr ⟨by simp [hmethod], htext⟩⟩
    unfold Http.answer
    split
    case h_7 hroute hget =>
      exact absurd hget (hmethod Key.aggregate (path_of_route.1 hroute).symm).1
    case h_8 hroute hhead =>
      exact absurd hhead (hmethod Key.aggregate (path_of_route.1 hroute).symm).2
    case h_9 hroute hpost =>
      refine Or.inl ?_
      simp [Http.Request.isUpload, hpost, path_of_route.1 hroute]
    case h_11 path hroute =>
      refine Or.inr ?_
      rw [path_of_route.2 path hroute, Http.fallback]
      split
      · rfl
      · next key hparse =>
        obtain ⟨hget, hhead⟩ := hmethod key (Key.text_of_parse hparse)
        cases hcase : request.method with
        | get => exact absurd hcase hget
        | head => exact absurd hcase hhead
        | post => rfl
        | other name => rfl
    all_goals exact Or.inr rfl

/-! ## One request -/

theorem signals_serve (s : Service) (key : Key) :
    (Http.serve s key).2.signals = (s.read key).2.signals := by
  unfold Http.serve
  split <;> simp [*]

/-- A key whose lookup succeeds is answered with its artifact, however old, or as not found. -/
theorem serve_of_lookup (h : (s.lookup key).isOk = true) : (Http.serve s key).1 =
    ((s.store.artifact? key.text).map (Http.artifactResponse key)).getD
      (ApiError.notFound key).response := by
  cases hlookup : s.lookup key with
  | error cause =>
      rw [hlookup] at h
      cases h
  | ok artifact? =>
      rw [← eq_of_answer hlookup]
      simp only [Http.serve, read, hlookup]
      cases artifact? <;> rfl

/-- An answer that is an error and does nothing refuses the request. -/
theorem refused_of_error {error : ApiError} (h : Http.answer s request = (error.response, s)) :
    Refused s request error.status error.code := by
  have hrespond : Http.respond s request = (error.response.sendFor request, s) := by
    rw [Http.respond, h]
  refine ⟨?_, ?_, ?_, ?_⟩
  · rw [hrespond]
    exact status_sendFor _ _
  · rw [h]
    exact error.code?_response
  · intro hmethod
    rw [hrespond, ← error.code?_response, Http.Response.code?,
      Http.Response.member?_sendFor _ hmethod]
    rfl
  · rw [hrespond]

/-- Rows come in with uploads that are answered with 200. -/
theorem upload_of_rows_ne (h : (Http.respond s request).2.store.rows ≠ s.store.rows) :
    request.method = .post ∧ request.path = "/benchmark.json" ∧
      (Http.respond s request).1.status = 200 := by
  cases hupload : request.isUpload with
  | false => exact absurd (congrArg Store.rows (quiet_respond hupload).store) h
  | true =>
      have hpost := hupload
      simp only [Http.Request.isUpload, Bool.and_eq_true, decide_eq_true_eq] at hpost
      rw [respond_of_isUpload hupload] at h ⊢
      refine ⟨hpost.1, hpost.2, ?_⟩
      rw [status_sendFor, submit_status_iff]
      rcases submit_cases s request.body with hstored | ⟨hsame, _⟩ | ⟨hsame, _⟩
      · exact hstored
      · exact absurd (by rw [hsame]) h
      · exact absurd (by rw [hsame]; rfl) h

/-- At most one signal comes in, behind the others: that of the key that was read. -/
theorem signals_respond (s : Service) (request : Http.Request) :
    ∃ keys, keys.Sublist request.readKey?.toList ∧ (Http.respond s request).2.signals =
      { s.signals with pending := s.signals.pending ++ keys } := by
  have hafter : (Http.respond s request).2 = (Http.answer s request).2 := rfl
  have hnone : (Http.respond s request).2.signals = s.signals → ∃ keys,
      keys.Sublist request.readKey?.toList ∧ (Http.respond s request).2.signals =
        { s.signals with pending := s.signals.pending ++ keys } := by
    intro hsame
    exact ⟨[], List.nil_sublist _, by rw [hsame, List.append_nil]⟩
  rcases answer_cases s request with ⟨key, hkey, hserve⟩ | hupload | hstay
  · rw [hafter, hserve, hkey, signals_serve]
    exact signals_read s key
  · exact hnone (by rw [respond_of_isUpload hupload]; exact signals_submit s request.body)
  · exact hnone (by rw [hafter, hstay])

/-- A path without a handler of its own that is no key is refused as one, whatever the method. -/
theorem refused_of_badKey (hfalls : s.FallsThrough request.path)
    (hnokey : ∀ key : Key, key.text ≠ request.path) : Refused s request 400 "invalid_key" := by
  obtain ⟨cause, hparse⟩ := Key.exists_parse_eq_error hnokey
  have herror : Http.answer s request = ((ApiError.badKey cause).response, s) := by
    rw [answer_of_fallsThrough hfalls, Http.fallback, hparse]
  exact refused_of_error herror

/-- An artifact cannot be posted. -/
theorem refused_of_post (hfalls : s.FallsThrough request.path) (htext : key.text = request.path)
    (hpost : request.method = .post) : Refused s request 403 "forbidden" := by
  have herror : Http.answer s request = ((ApiError.forbidden key).response, s) := by
    rw [answer_of_fallsThrough hfalls, Http.fallback, Key.parse_eq_ok_iff.mpr htext, hpost]
  exact refused_of_error herror

/-- A key takes no other method than the two that read. -/
theorem refused_of_badMethod (hfalls : s.FallsThrough request.path)
    (htext : key.text = request.path) (hget : request.method ≠ .get)
    (hhead : request.method ≠ .head) (hpost : request.method ≠ .post) :
    Refused s request 405 "method_not_allowed" := by
  have herror : Http.answer s request = ((ApiError.badMethod request.method).response, s) := by
    rw [answer_of_fallsThrough hfalls, Http.fallback, Key.parse_eq_ok_iff.mpr htext]
    cases hmethod : request.method with
    | get => exact absurd hmethod hget
    | head => exact absurd hmethod hhead
    | post => exact absurd hmethod hpost
    | other name => rfl
  exact refused_of_error herror

/-- A read whose lookup succeeds sends the artifact, or says that there is none. -/
theorem respond_of_lookup (htext : key.text = request.path) (hget : request.method = .get)
    (hlookup : (s.lookup key).isOk = true) : (Http.respond s request).1 =
      (((s.store.artifact? key.text).map (Http.artifactResponse key)).getD
        (ApiError.notFound key).response).sendFor request := by
  rw [← serve_of_lookup hlookup, ← answer_of_key htext (Or.inl hget)]
  rfl

/-- Every request may do no more than this. -/
theorem respond_surface (s : Service) (request : Http.Request) : Surface s request where
  artifacts := artifacts_after s (.request request)
  rows := upload_of_rows_ne
  signals := signals_respond s request
  badKey := refused_of_badKey
  forbidden _ hfalls htext hpost := refused_of_post hfalls htext hpost
  badMethod _ hfalls htext hget hhead hpost := refused_of_badMethod hfalls htext hget hhead hpost
  found key artifact htext hget hlookup hstored := by
    rw [respond_of_lookup htext hget hlookup, hstored, status_sendFor,
      Http.Response.body_sendFor _ (by rw [hget]; simp)]
    exact ⟨rfl, rfl⟩
  notFound key htext hget hlookup hstored := by
    rw [respond_of_lookup htext hget hlookup, hstored, status_sendFor]
    rfl

/-! ## Many requests -/

theorem writesRows_of_isHttp {e : Event} (h : e.isHttp = true) : e.writesRows = false := by
  cases e <;> first | rfl | cases h

/-- Over HTTP artifacts stay as they are. -/
theorem artifacts_run_of_isHttp (h : ∀ e ∈ events, e.isHttp = true) :
    (s.run events).store.artifacts = s.store.artifacts := by
  induction events generalizing s with
  | nil => rfl
  | cons e rest ih =>
      have hafter : (s.after e).store.artifacts = s.store.artifacts := by
        have hhttp := h e List.mem_cons_self
        cases e with
        | turn passed world => rfl
        | request r => exact (respond_surface s r).artifacts
        | _ => cases hhttp
      rw [run_cons, ih fun e' he' => h e' (List.mem_cons_of_mem _ he'), hafter]

/-- Over HTTP the keys that are signalled are among those that are read. -/
theorem signals_run_of_isHttp (h : ∀ e ∈ events, e.isHttp = true) :
    ∃ keys, keys.Sublist (events.filterMap Event.readKey?) ∧ (s.run events).signals =
      { s.signals with pending := s.signals.pending ++ keys } := by
  induction events generalizing s with
  | nil => exact ⟨[], List.Sublist.refl _, by rw [run_nil, List.append_nil]⟩
  | cons e rest ih =>
      have hafter : ∃ keys, keys.Sublist e.readKey?.toList ∧ (s.after e).signals =
          { s.signals with pending := s.signals.pending ++ keys } := by
        have hhttp := h e List.mem_cons_self
        cases e with
        | turn passed world => exact ⟨[], List.nil_sublist _, by rw [List.append_nil]; rfl⟩
        | request r => exact (respond_surface s r).signals
        | _ => cases hhttp
      obtain ⟨first, hfirst, hsignals⟩ := hafter
      obtain ⟨later, hlater, hrun⟩ := @ih (s.after e) fun e' he' =>
        h e' (List.mem_cons_of_mem _ he')
      refine ⟨first ++ later, ?_, ?_⟩
      · have hkeys : (e :: rest).filterMap Event.readKey? =
            e.readKey?.toList ++ rest.filterMap Event.readKey? := by
          cases hkey : e.readKey? <;> simp [hkey]
        rw [hkeys]
        exact hfirst.append hlater
      · rw [run_cons, hrun, hsignals, List.append_assoc]

end Service

/-- Requests may do no more than this, whatever happens to the world between them. -/
theorem run_surface {s : Service} {events : List Event} (h : ∀ e ∈ events, e.isHttp = true) :
    SurfaceOf s events where
  each first request _ _ := Service.respond_surface (s.run first) request
  artifacts := Service.artifacts_run_of_isHttp h
  rows := Service.rows_run fun e he => Service.writesRows_of_isHttp (h e he)
  signals := Service.signals_run_of_isHttp h

/-- Two methods that are refused for a key, a path that is none, and two reads. -/
def fiveRequests : List Event :=
  [(.post, "/pci.ids"), (.other "DELETE", "/pci.ids"), (.get, "/pci"), (.get, "/pci.ids"),
    (.head, "/benchmark.json")].map fun r => .request ⟨r.1, r.2, [], "1".toUTF8⟩

/-- Before them there is nothing, and after them two signals wait. -/
theorem run_surface_fiveRequests : SurfaceOf (Service.fresh {} .epoch) fiveRequests ∧
    ((Service.fresh {} .epoch).run fiveRequests).signals.pending =
      [Key.pciIds, Key.aggregate] :=
  ⟨run_surface (by simp [fiveRequests, Event.isHttp]), by decide⟩

end BenchDepot
