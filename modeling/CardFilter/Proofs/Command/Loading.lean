import CardFilter.Command.Perform
import CardFilter.Proofs.Condition.RoundTrip
import CardFilter.Proofs.Json.Exact
import Mathlib.Data.List.DropRight

/-!
# One load of names

The whole way from settings to names, for a session that has not asked yet.  A condition without a
root asks nobody.  Any other condition goes out in one request, in a form in which both readers find
it again, and the load ends with the names of the answer or with no names at all.

What carries the request is not looked at here: the outside may answer it in any way or not at all.
Whatever it cannot carry, such as a request to an address that leads nowhere, counts as not
answered.
-/

namespace CardFilter

/-! ## The request -/

/-- A request for the names in a condition, as settings want it. -/
structure SourceSettings.Asks (settings : SourceSettings) (condition : Condition)
    (request : WebRequest) : Prop where
  method : request.method = "POST"
  url : ∃ stem slashes : String, settings.baseUrl = stem ++ slashes ∧
    (∀ c ∈ slashes.toList, c = '/') ∧ stem.toList.getLast? ≠ some '/' ∧
    request.url = stem ++ "/conditions/display-info"
  body : ∃ sent : Json, Json.Exact.read? request.body = some (.object [("condition", sent)]) ∧
    Condition.parseValue sent.canonical = ⟨.ok condition.canonical, []⟩ ∧
    Condition.decode? sent.canonical = some condition.canonical
  authorization : ∀ value, ("authorization", value) ∈ request.headers ↔
    ∃ token, settings.token = some token ∧ Text.isBlank token = false ∧ value = "Bearer " ++ token

namespace Endpoint

/-- All slashes at the end of an address are dropped, and nothing but slashes. -/
theorem exists_slashes (url : String) :
    ∃ slashes : String, url = withoutSlashes url ++ slashes ∧ (∀ c ∈ slashes.toList, c = '/') ∧
      (withoutSlashes url).toList.getLast? ≠ some '/' := by
  have hstem : (withoutSlashes url).toList = url.toList.rdropWhile (· == '/') := by
    rw [withoutSlashes, String.toList_ofList]
    rfl
  refine ⟨String.ofList (url.toList.rtakeWhile (· == '/')), ?_, ?_, ?_⟩
  · apply String.toList_inj.1
    rw [String.toList_append, hstem, String.toList_ofList, List.rdropWhile_append_rtakeWhile]
  · intro c hc
    rw [String.toList_ofList] at hc
    have hslash := List.mem_rtakeWhile_imp hc
    exact beq_iff_eq.1 hslash
  · rw [hstem]
    intro hlast
    obtain ⟨hne, hslash⟩ := List.mem_getLast?_eq_getLast hlast
    have hnot := List.rdropWhile_last_not (· == '/') url.toList hne
    rw [← hslash] at hnot
    exact hnot rfl

theorem mem_headers_iff (token : Option String) (userAgent value : String) :
    ("authorization", value) ∈
        [("user-agent", userAgent), ("content-type", "application/json")] ++
          ((token.filter Text.isFilled).map fun token ↦ ("authorization", bearer token)).toList ↔
      ∃ text, token = some text ∧ Text.isBlank text = false ∧ value = "Bearer " ++ text := by
  cases token with
  | none => simp
  | some text =>
    cases hblank : Text.isBlank text <;> simp [Option.filter, Text.isFilled, hblank, bearer]

/-- What an endpoint writes is what its settings ask for. -/
theorem asks_request (settings : SourceSettings) (condition : Condition) :
    settings.Asks condition ((ofSettings settings).request condition) := by
  obtain ⟨slashes, hbase, hslashes, hstem⟩ := exists_slashes settings.baseUrl
  refine ⟨rfl, ⟨_, slashes, hbase, hslashes, hstem, rfl⟩, ⟨condition.toJson.finite, ?_, ?_, ?_⟩, ?_⟩
  · exact Json.Exact.read?_of_writing .compact
  · rw [Json.canonical_finite]
    exact condition.parseValue_toJson
  · rw [Json.canonical_finite]
    exact condition.decode?_toJson
  · exact mem_headers_iff settings.token settings.userAgent

/-- An answer gives names exactly if it is a success and its body is the form of names. -/
theorem receive_eq_ok_iff {response : WebResponse} {names : Names} :
    receive response = .ok names ↔
      200 ≤ response.status ∧ response.status ≤ 299 ∧ Names.parse? response.body = some names := by
  have hsuccess : isSuccess response.status = true ↔
      200 ≤ response.status ∧ response.status ≤ 299 := by
    simp [isSuccess]
  rw [← and_assoc, ← hsuccess, receive]
  cases isSuccess response.status <;> cases Names.parse? response.body <;> simp

theorem reply_eq_ok_iff {answer : Except String WebResponse} {names : Names} :
    reply answer = .ok names ↔
      ∃ response, answer = .ok response ∧ 200 ≤ response.status ∧ response.status ≤ 299 ∧
        Names.parse? response.body = some names := by
  cases answer with
  | error detail => simp [reply]
  | ok response => simp [reply, receive_eq_ok_iff]

end Endpoint

/-! ## The load -/

/-- Every identifier stands for itself. -/
structure Names.AreRaw (names : Names) : Prop where
  field : ∀ id, names.fieldName id = id
  link : ∀ id, names.linkName id = id
  option : ∀ fieldId id, names.optionName fieldId id = id
  card : ∀ id, names.cardLabel id = id
  status : ∀ id, names.statusName id = id

theorem Names.areRaw_empty : empty.AreRaw :=
  ⟨fun _ ↦ rfl, fun _ ↦ rfl, fun _ _ ↦ rfl, fun _ ↦ rfl, fun _ ↦ rfl⟩

/-- A session after a load that failed: without names, but with a reason. -/
structure Session.HasFailed (session : Session) : Prop where
  names : session.names = .empty
  raw : session.names.AreRaw
  error : session.error.isSome = true
  loading : session.loading = false

/-- The load of the current generation ends with the names of a reply, or it fails. -/
theorem Session.finish_ends (session : Session) (reply : Except FetchError Names) :
    ∃ outcome after, session.finish session.generation reply = (outcome, after) ∧
      (∀ names, outcome = .loaded ∧ after.names = names ↔ reply = .ok names) ∧
      (outcome ≠ .loaded → outcome = .failed ∧ after.HasFailed) := by
  simp only [finish, ne_eq, not_true_eq_false, if_false]
  cases reply with
  | ok names =>
    refine ⟨_, _, rfl, fun other ↦ ?_, fun h ↦ absurd rfl h⟩
    rw [Except.ok.injEq]
    exact and_iff_right rfl
  | error error =>
    refine ⟨_, _, rfl, fun other ↦ ?_, fun _ ↦ ⟨rfl, rfl, Names.areRaw_empty, rfl, rfl⟩⟩
    exact iff_of_false (fun h ↦ nomatch h.1) nofun

theorem Session.start_of_root {condition : Condition} (hroot : condition.root ≠ none)
    {session : Session} (hloading : session.loading = false)
    (hinitialized : session.initialized = false) :
    session.start condition = (.asks session.generation,
      { session with initialized := true, loading := true, error := none }) := by
  have hsome : condition.root.isNone = false := by
    rwa [Option.isNone_eq_false_iff, Option.isSome_iff_ne_none]
  simp [start, hsome, hloading, hinitialized]

namespace Invocation

variable {condition : Condition} {session : Session}

theorem run_loadNames_of_no_root (endpoint : Endpoint) (session : Session) (outside : Outside)
    (hroot : condition.root = none) :
    (loadNames endpoint condition session).run outside = (.ok (.noRoot, session), .none) := by
  have hstart : session.start condition = (.ended .noRoot, session) := by
    simp [Session.start, hroot]
  rw [loadNames, hstart]
  rfl

/-- The load of a session that has not asked yet sends its request, and it ends with what comes
back. -/
theorem run_loadNames (endpoint : Endpoint) (hroot : condition.root ≠ none)
    (hloading : session.loading = false) (hinitialized : session.initialized = false)
    (outside : Outside) :
    (loadNames endpoint condition session).run outside =
      (.ok ({ session with initialized := true, loading := true, error := none }.finish
          session.generation (Endpoint.reply (outside.send (endpoint.request condition)))),
        ⟨[], [endpoint.request condition]⟩) := by
  rw [loadNames, Session.start_of_root hroot hloading hinitialized]
  rfl

/-- A load sends nothing for a condition without a root, and one request for any other, as the
settings want it.  It ends with the names of the answer exactly if that is a success in the form of
names; whatever else comes back, or nothing, it fails and leaves no names. -/
theorem loadNames_sends_once (settings : SourceSettings) (condition : Condition)
    (session : Session) (outside : Outside) :
    let load := (loadNames (.ofSettings settings) condition session).run outside
    (condition.root = none → load = (.ok (.noRoot, session), .none)) ∧
    (condition.root ≠ none → session.loading = false → session.initialized = false →
      ∃ outcome after request, load = (.ok (outcome, after), ⟨[], [request]⟩) ∧
        settings.Asks condition request ∧
        (∀ names, outcome = .loaded ∧ after.names = names ↔
          ∃ response, outside.send request = .ok response ∧ 200 ≤ response.status ∧
            response.status ≤ 299 ∧ Names.parse? response.body = some names) ∧
        (outcome ≠ .loaded → outcome = .failed ∧ after.HasFailed)) := by
  intro load
  refine ⟨run_loadNames_of_no_root (.ofSettings settings) session outside, ?_⟩
  intro hroot hloading hinitialized
  let asking : Session := { session with initialized := true, loading := true, error := none }
  let request := (Endpoint.ofSettings settings).request condition
  obtain ⟨outcome, after, hfinish, hloaded, hfailed⟩ :=
    asking.finish_ends (Endpoint.reply (outside.send request))
  have hrun : load = (.ok (asking.finish asking.generation
      (Endpoint.reply (outside.send request))), ⟨[], [request]⟩) :=
    run_loadNames (.ofSettings settings) hroot hloading hinitialized outside
  rw [hfinish] at hrun
  refine ⟨outcome, after, request, hrun, Endpoint.asks_request settings condition, ?_, hfailed⟩
  intro names
  rw [hloaded, Endpoint.reply_eq_ok_iff]

/-- An address with slashes at its end, a token, and an answer that names the one field. -/
theorem loadNames_sends_once_named :
    let settings : SourceSettings :=
      ⟨"http://localhost:8080/api//", 30, "condctl/0.1.0", some "secret"⟩
    let condition := Condition.ofNode (.leaf ⟨.text, ⟨.named "f", none, rfl⟩, none⟩)
    let response : WebResponse := ⟨200, "\x7b\"fieldNames\":\x7b\"f\":\"Name\"\x7d\x7d"⟩
    let outside : Outside :=
      ⟨fun path ↦ .error (.absent path), .error "", fun _ _ ↦ .ok (), fun _ ↦ .ok response⟩
    condition.root ≠ none ∧
      ∃ after request, settings.Asks condition request ∧
        (loadNames (.ofSettings settings) condition .initial).run outside =
          (.ok (.loaded, after), ⟨[], [request]⟩) ∧
        after.names.fieldName "f" = "Name" := by
  intro settings condition response outside
  have hroot : condition.root ≠ none := nofun
  obtain ⟨outcome, after, request, hrun, hrequest, hnames, -⟩ :=
    (loadNames_sends_once settings condition .initial outside).2 hroot rfl rfl
  have hparse : Names.parse? response.body = some ⟨[("f", "Name")], [], [], [], []⟩ := by
    decide +kernel
  obtain ⟨rfl, hafter⟩ := (hnames _).2 ⟨response, rfl, by decide, by decide, hparse⟩
  exact ⟨hroot, after, request, hrequest, hrun, by rw [hafter]; rfl⟩

end Invocation

end CardFilter
