import CatalogTypes.Proofs.Replies

/-!
# What comes of a request

`Outcome.Due` says when an outcome is due, from the request alone and one after the other: the path,
the method, the part of the path that names a language, the size of the body, the language, the
body, the widths of its columns. `Outcome.Shows` says how a reply shows it. For every request there
is one outcome that is due, and the reply shows that one (`respond_settles`).
-/

namespace CatalogTypes.Service

inductive Outcome where
  | unknownPath
  | wrongMethod
  /-- The part of the path that names a language is no text. -/
  | notUtf8
  | tooLong
  | unknownLanguage (name : String)
  | malformed
  /-- A column of the source text would be too wide. -/
  | brokenDown
  | success
deriving DecidableEq, Repr

/-- The names by which languages are asked for, in lower case. -/
def languageNames : List String := ["typescript", "ts", "go", "golang", "swift", "python", "py"]

theorem mem_languageNames_iff {name : String} :
    name.map Char.toLower ∈ languageNames ↔ ∃ language, Language.ofName? name = some language := by
  rw [← Option.isSome_iff_exists, Language.ofName?, List.find?_isSome]
  simp [languageNames, Language.all, Language.aliases, or_assoc]

theorem not_mem_languageNames_iff {name : String} :
    name.map Char.toLower ∉ languageNames ↔ Language.ofName? name = none := by
  rw [mem_languageNames_iff, ← Option.isSome_iff_exists, Option.not_isSome_iff_eq_none]

/-- The request asks for what is generated in the language that the part names. -/
structure Request.Generates {Body : Type} (request : Request Body) (part : String) : Prop where
  path : (Route.generate part).HasPath (pathText request.target) ∨
    (Route.diagnostics part).HasPath (pathText request.target)
  method : request.method = "POST"

namespace Outcome

section Due

variable {Body : Type} (decoder : Decoder Body) (config : Config) (request : Request Body)

inductive Due : Outcome → Prop
  | unknownPath (h : ∀ route : Route, ¬ route.HasPath (pathText request.target)) : Due .unknownPath
  | wrongMethod {route : Route} (path : route.HasPath (pathText request.target))
      (h : request.method ≠ route.method) : Due .wrongMethod
  | information {route : Route} (path : route.HasPath (pathText request.target))
      (h : route = .health ∨ route = .generators) (method : request.method = "GET") : Due .success
  | notUtf8 {part : String} (asks : request.Generates part) (h : percentDecode? part = none) :
      Due .notUtf8
  | tooLong {part name : String} (asks : request.Generates part)
      (named : percentDecode? part = some name)
      (h : config.bodyLimit < decoder.size request.body) : Due .tooLong
  | unknownLanguage {part name : String} (asks : request.Generates part)
      (named : percentDecode? part = some name)
      (fits : decoder.size request.body ≤ config.bodyLimit)
      (h : name.map Char.toLower ∉ languageNames) : Due (.unknownLanguage name)
  | malformed {part name : String} {e : Json.Error} (asks : request.Generates part)
      (named : percentDecode? part = some name)
      (fits : decoder.size request.body ≤ config.bodyLimit)
      (known : name.map Char.toLower ∈ languageNames)
      (h : decoder.payload request.body = .error e) : Due .malformed
  | brokenDown {part : String} (asks : request.Generates part)
      (h : decoder.Breaks config part request.body) : Due .brokenDown
  | generated {part name : String} {p : Payload} (asks : request.Generates part)
      (named : percentDecode? part = some name)
      (fits : decoder.size request.body ≤ config.bodyLimit)
      (known : name.map Char.toLower ∈ languageNames)
      (read : decoder.payload request.body = .ok p)
      (h : ¬ decoder.Breaks config part request.body) : Due .success

/-- Some outcome is due, whatever the request. -/
theorem exists_due : ∃ o : Outcome, o.Due decoder config request := by
  by_cases found : ∃ route : Route, route.HasPath (pathText request.target)
  · obtain ⟨route, path⟩ := found
    by_cases method : request.method = route.method
    · have generates : ∀ part : String, request.Generates part →
          ∃ o : Outcome, o.Due decoder config request := by
        intro part asks
        cases named : percentDecode? part with
        | none => exact ⟨_, .notUtf8 asks named⟩
        | some name =>
          rcases Nat.lt_or_ge config.bodyLimit (decoder.size request.body) with long | fits
          · exact ⟨_, .tooLong asks named long⟩
          · by_cases known : name.map Char.toLower ∈ languageNames
            · cases read : decoder.payload request.body with
              | error e => exact ⟨_, .malformed asks named fits known read⟩
              | ok p =>
                by_cases broken : decoder.Breaks config part request.body
                · exact ⟨_, .brokenDown asks broken⟩
                · exact ⟨_, .generated asks named fits known read broken⟩
            · exact ⟨_, .unknownLanguage asks named fits known⟩
      cases route with
      | health => exact ⟨_, .information path (.inl rfl) method⟩
      | generators => exact ⟨_, .information path (.inr rfl) method⟩
      | generate part => exact generates part ⟨.inl path, method⟩
      | diagnostics part => exact generates part ⟨.inr path, method⟩
    · exact ⟨_, .wrongMethod path method⟩
  · exact ⟨_, .unknownPath (not_exists.mp found)⟩

end Due

/-- The reply shows the outcome by its status, and where outcomes share a status, by its body. -/
def Shows (reports : Reports) (r : Reply) : Outcome → Prop
  | unknownPath => r = ⟨404, none, ""⟩
  | wrongMethod => r = ⟨405, none, ""⟩
  | notUtf8 => r.status = 400 ∧ r.mediaType = some .plainText
  | tooLong => r.status = 413
  | unknownLanguage name => r.status = 404 ∧ r.mediaType = some .json ∧
    failureReader.decode r.body = .ok (true, "UNKNOWN_BACKEND", "unknown backend '" ++ name ++ "'")
  | malformed => r.status = 400 ∧ r.mediaType = some .json ∧
    ∃ message, failureReader.decode r.body = .ok (true, "BAD_REQUEST", message)
  | brokenDown => r.status = 500 ∧ r.mediaType = some .json ∧
    failureReader.decode r.body =
      .ok (true, "INTERNAL_ERROR", "generation task failed: " ++ reports .width)
  | success => r.status = 200

section Shows

variable {reports : Reports} {r : Reply} {o o' : Outcome}

/-- A reply shows at most one outcome. -/
theorem Shows.unique (h : o.Shows reports r) (h' : o'.Shows reports r) : o = o' := by
  cases o <;> cases o'
  case unknownLanguage.unknownLanguage name name' =>
    have message := Except.ok.inj (h.2.2.symm.trans h'.2.2)
    simpa [← String.toList_inj] using message
  all_goals simp_all [Shows]

theorem Shows.status_eq_iff (h : o.Shows reports r) : r.status = 500 ↔ o = .brokenDown := by
  cases o
  all_goals simp_all [Shows]

end Shows

section Respond

variable {Body : Type} (decoder : Decoder Body) (config : Config) (reports : Reports)
  {request : Request Body}

/-- A request to generate is answered alike at both paths, but for what a result is made into. -/
theorem respond_of_generates {part : String} (asks : request.Generates part) :
    ∃ present, (∀ g, (present g).status = 200) ∧
      decoder.respond config reports request =
        decoder.answer config reports part request.body present := by
  rcases asks.path with path | path
  · exact ⟨sourceReply, fun _ => rfl,
      decoder.respond_of_hasPath config reports request path asks.method⟩
  · exact ⟨diagnosticsReply, fun _ => rfl,
      decoder.respond_of_hasPath config reports request path asks.method⟩

theorem Due.shows {o : Outcome} (h : o.Due decoder config request) :
    o.Shows reports (decoder.respond config reports request) := by
  cases h with
  | unknownPath h =>
    have none : Route.ofPath? (path request.target) = none :=
      Option.eq_none_iff_forall_ne_some.mpr fun route found =>
        h route (Route.ofPath?_eq_some_iff.mp found)
    simp only [Decoder.respond, none, Shows]
  | wrongMethod path h =>
    simp only [Decoder.respond, Route.ofPath?_eq_some_iff.mpr path, if_neg h, Shows]
  | information path h method =>
    rcases h with rfl | rfl
    · rw [decoder.respond_of_hasPath config reports request path method]
      rfl
    · rw [decoder.respond_of_hasPath config reports request path method]
      rfl
  | notUtf8 asks h =>
    obtain ⟨present, -, respond⟩ := respond_of_generates decoder config reports asks
    rw [respond, decoder.answer_notUtf8 config reports h]
    exact ⟨rfl, rfl⟩
  | tooLong asks named h =>
    obtain ⟨present, -, respond⟩ := respond_of_generates decoder config reports asks
    rw [respond, decoder.answer_tooLong config reports named h]
    rfl
  | unknownLanguage asks named fits h =>
    obtain ⟨present, -, respond⟩ := respond_of_generates decoder config reports asks
    have unknown := not_mem_languageNames_iff.mp h
    rw [respond, decoder.answer_failure config reports named fits
      (decoder.run_unknown config reports unknown)]
    exact ⟨rfl, rfl, Failure.decode_reply _⟩
  | malformed asks named fits known h =>
    obtain ⟨present, -, respond⟩ := respond_of_generates decoder config reports asks
    obtain ⟨language, known⟩ := mem_languageNames_iff.mp known
    have run := decoder.run_malformed config reports known h
    rw [respond, decoder.answer_failure config reports named fits run]
    exact ⟨rfl, rfl, _, Failure.decode_reply _⟩
  | brokenDown asks h =>
    obtain ⟨present, -, respond⟩ := respond_of_generates decoder config reports asks
    rw [respond, decoder.answer_of_breaks config h]
    exact ⟨rfl, rfl, Failure.decode_reply _⟩
  | generated asks named fits known read h =>
    obtain ⟨present, success, respond⟩ := respond_of_generates decoder config reports asks
    obtain ⟨language, known⟩ := mem_languageNames_iff.mp known
    have run := decoder.run_generated config reports known read
      (decoder.not_breaksDown_of_not_breaks config named fits known read h)
    rw [respond, decoder.answer_result config reports named fits run]
    exact success _

end Respond

end Outcome

namespace Decoder

variable {Body : Type} (decoder : Decoder Body) (config : Config) (request : Request Body)

theorem status_respond_eq_iff (reports : Reports) :
    (decoder.respond config reports request).status = 500 ↔
      Outcome.brokenDown.Due decoder config request := by
  constructor
  · intro h
    obtain ⟨o, due⟩ := Outcome.exists_due decoder config request
    exact (due.shows decoder config reports).status_eq_iff.mp h ▸ due
  · intro due
    exact (due.shows decoder config reports).status_eq_iff.mpr rfl

end Decoder

end CatalogTypes.Service
