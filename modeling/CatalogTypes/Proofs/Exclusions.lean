import CatalogTypes.Proofs.Inventory
import CatalogTypes.Proofs.Outcomes

/-!
# Which schemas the service holds back

The configuration names schemas that are not emitted when a request does not choose any. A request
with neither list is answered like one that names these schemas itself; where a list is given, they
count for nothing (`ExclusionsStandIn`). Generation asks its options only which schemas they admit,
so both come down to the schemas that are held back (`attempt_eq_of_heldBack`). When it breaks down,
each of two replies still has a report of its own.
-/

namespace CatalogTypes

/-- Of the lists of schemas nothing shows in what is generated but which schemas they admit. -/
theorem attempt_congr_admits (s : Snapshot) {o o' : Options} (language : o.language = o'.language)
    (access : o.access = o'.access) (admits : ∀ schema, o.admits schema ↔ o'.admits schema) :
    attempt s o = attempt s o' := by
  have same : o.admits = o'.admits := funext fun schema => Bool.eq_iff_iff.mpr (admits schema)
  have built : declare s o = declare s o' := by
    simp only [declare, Dialect.build, Dialect.plan, language, same]
  simp only [attempt, generate, built, language, access]

namespace Service

open Json

namespace Payload

/-! ## Schemas that are held back -/

variable {p p' : Payload} {config config' : Config} {language : Language}

/-- Whether the payload chooses schemas itself, if only by an empty list. -/
def Chooses (p : Payload) : Prop := p.included.isSome ∨ p.excluded.isSome

instance (p : Payload) : Decidable p.Chooses := inferInstanceAs (Decidable (_ ∨ _))

/-- The schemas that are not emitted, included or not. -/
def heldBack (p : Payload) (config : Config) : List String :=
  if p.Chooses then p.excluded.getD [] else config.excluded

theorem heldBack_excluded (names : List String) :
    { p with excluded := some names }.heldBack config = names := by
  simp [heldBack, Chooses]

theorem mem_heldBack_iff {schema : String} :
    schema ∈ p.heldBack config ↔ ∃ names, p.exclusions config = some names ∧ schema ∈ names := by
  obtain ⟨-, included, excluded, -⟩ := p
  cases included <;> cases excluded <;> cases h : config.excluded <;>
    simp [heldBack, Chooses, exclusions, h]

theorem admits_options_iff {schema : String} :
    (p.options language config).admits schema ↔
      (∀ names, p.included = some names → schema ∈ names) ∧ schema ∉ p.heldBack config := by
  rw [Options.admits_iff, mem_heldBack_iff]
  simp [options]

/-- What is generated from a payload shows of the configuration only which schemas are held back. -/
theorem attempt_eq_of_heldBack (p p' : Payload) (snapshot : p.snapshot = p'.snapshot)
    (included : p.included = p'.included) (access : p.access = p'.access)
    (heldBack : p.heldBack config = p'.heldBack config') :
    attempt p.snapshot (p.options language config) =
      attempt p'.snapshot (p'.options language config') := by
  rw [snapshot]
  refine attempt_congr_admits _ rfl ?_ fun schema => ?_
  · simp only [options, access]
  · rw [admits_options_iff, admits_options_iff, included, heldBack]

end Payload

/-! ## Replies under two configurations -/

namespace Decoder

section Congruence

variable {Body : Type} (decoder : Decoder Body) {config config' : Config} {body body' : Body}

theorem run_eq_of_payload {p p' : Payload} (read : decoder.payload body = .ok p)
    (read' : decoder.payload body' = .ok p') (same : ∀ language,
      attempt p.snapshot (p.options language config) =
        attempt p'.snapshot (p'.options language config'))
    (reports : Reports) (name : String) :
    decoder.run config reports name body = decoder.run config' reports name body' := by
  cases known : Language.ofName? name with
  | none => rw [decoder.run_unknown config reports known, decoder.run_unknown config' reports known]
  | some language =>
    rw [decoder.run_eq_attempt config reports known read,
      decoder.run_eq_attempt config' reports known read', same language]

theorem run_eq_of_error {e : Json.Error} (read : decoder.payload body = .error e)
    (reports : Reports) (name : String) :
    decoder.run config reports name body = decoder.run config' reports name body := by
  cases known : Language.ofName? name with
  | none => rw [decoder.run_unknown config reports known, decoder.run_unknown config' reports known]
  | some language =>
    rw [decoder.run_malformed config reports known read,
      decoder.run_malformed config' reports known read]

/-- Under one configuration, only reports make a difference to what a request is replied to. -/
theorem respond_sameBut (config : Config) (request : Request Body) (reports reports' : Reports) :
    (decoder.respond config reports request).SameBut reports reports'
      (decoder.respond config reports' request) := by
  cases found : Route.ofPath? (path request.target) with
  | none =>
    simp only [respond, found]
    exact .of_ne (by simp)
  | some route =>
    by_cases method : request.method = route.method
    · simp only [respond, found, if_pos method]
      cases route with
      | health => exact .of_ne (r := healthReply) (by decide)
      | generators => exact .of_ne (r := generatorsReply) (by decide)
      | generate part => exact decoder.answer_sameBut config fun _ => rfl
      | diagnostics part => exact decoder.answer_sameBut config fun _ => rfl
    · simp only [respond, found, if_neg method]
      exact .of_ne (by simp)

/-- Whatever a request asks for, only the results of generations and the limit on bodies make a
difference to its reply. -/
theorem respond_congr (request : Request Body) (reports reports' : Reports)
    (fits : decoder.size request.body ≤ config.bodyLimit ↔ decoder.size body' ≤ config'.bodyLimit)
    (run : ∀ reports name,
      decoder.run config reports name request.body = decoder.run config' reports name body') :
    (decoder.respond config reports request).SameBut reports reports'
      (decoder.respond config' reports' { request with body := body' }) := by
  have long : decoder.size request.body > config.bodyLimit ↔
      decoder.size body' > config'.bodyLimit := by omega
  have replies : decoder.reply config reports request.body =
      decoder.reply config' reports body' := by
    funext route
    cases route
    all_goals simp only [reply, answer, long, run]
  have same : decoder.respond config reports request =
      decoder.respond config' reports { request with body := body' } := by
    simp only [respond, replies]
  exact same ▸ decoder.respond_sameBut config' { request with body := body' } reports reports'

end Congruence

end Decoder

/-- The reply holds the source text, alone or together with warnings. -/
def Reply.Holds (r : Reply) (source : String) : Prop :=
  r = ⟨200, some .plainText, source⟩ ∨
    r.status = 200 ∧ r.mediaType = some .json ∧
      ∃ warnings, diagnosticsReader.decode r.body = .ok (source, warnings)

namespace Decoder

variable {Body : Type} (decoder : Decoder Body) (config : Config) {request : Request Body}

theorem respond_holds {part name : String} {language : Language} {p : Payload}
    (asks : request.Generates part) (named : percentDecode? part = some name)
    (known : Language.ofName? name = some language)
    (fits : decoder.size request.body ≤ config.bodyLimit)
    (read : decoder.payload request.body = .ok p)
    (laid : ¬ decoder.Breaks config part request.body) (reports : Reports) :
    (decoder.respond config reports request).Holds
      (generate p.snapshot (p.options language config)).output := by
  have run := decoder.run_generated config reports known read
    (decoder.not_breaksDown_of_not_breaks config named fits known read laid)
  rcases asks.path with path | path
  · rw [decoder.respond_of_hasPath config reports request path asks.method]
    exact .inl (decoder.answer_result config reports named fits run)
  · rw [decoder.respond_of_hasPath config reports request path asks.method, reply,
      decoder.answer_result config reports named fits run]
    exact .inr ⟨rfl, rfl, _, decode_diagnosticsReply _⟩

/-- The exclusions of the configuration stand in for lists that a request does not have, and for
nothing else. -/
structure ExclusionsStandIn (request : Request Body) : Prop where
  /-- They are as good as the same list in the request, under any other configuration. -/
  absent : ∀ p, decoder.payload request.body = .ok p → ¬ p.Chooses →
    ∀ (config' : Config) (body' : Body),
      decoder.payload body' = .ok { p with excluded := some config.excluded } →
      (decoder.size request.body ≤ config.bodyLimit ↔ decoder.size body' ≤ config'.bodyLimit) →
      ∀ reports reports', (decoder.respond config reports request).SameBut reports reports'
        (decoder.respond config' reports' { request with body := body' })
  /-- They count for nothing in a request that has a list, and in one that is malformed. -/
  given : (∀ p, decoder.payload request.body = .ok p → p.Chooses) →
    ∀ names reports reports', (decoder.respond config reports request).SameBut reports reports'
      (decoder.respond { config with excluded := names } reports' request)
  /-- Reports are sent when generation breaks down, and at no other time. -/
  breaks : ∀ reports, (decoder.respond config reports request).status = 500 ↔
    Outcome.brokenDown.Due decoder config request
  /-- The text that is sent is that of the declared schemas that are included and not held back. -/
  emitted : ∀ {part name : String} {language : Language} {p : Payload}, request.Generates part →
    percentDecode? part = some name → Language.ofName? name = some language →
    decoder.size request.body ≤ config.bodyLimit → decoder.payload request.body = .ok p →
    let ds := (declare p.snapshot (p.options language config)).declarations
    (¬ decoder.Breaks config part request.body → ∀ reports,
      (decoder.respond config reports request).Holds
        (language.render (p.access.getD .publicAccess) ds)) ∧
      ∀ name, name ∈ ds.schemas.map (·.rawName) ↔
        (∃ schema ∈ p.snapshot.schemas, schema.name = name) ∧
          (∀ names, p.included = some names → name ∈ names) ∧ name ∉ p.heldBack config

end Decoder

/-- Payloads are read from every text of theirs, and whatever bodies are, the exclusions of the
configuration stand in for absent lists. -/
theorem respond_exclusionsStandIn {Body : Type} (decoder : Decoder Body) (config : Config)
    (request : Request Body) :
    RoundTrips Payload.toJson Payload.shape Payload.ofJson ∧
      decoder.ExclusionsStandIn config request := by
  refine ⟨Payload.roundTrips, ?_⟩
  constructor
  case absent =>
    intro p read unchosen config' body' read' fits reports reports'
    refine decoder.respond_congr request reports reports' fits ?_
    refine decoder.run_eq_of_payload read read' fun language => ?_
    refine p.attempt_eq_of_heldBack { p with excluded := some config.excluded } rfl rfl rfl ?_
    rw [Payload.heldBack_excluded, Payload.heldBack, if_neg unchosen]
  case given =>
    intro chooses names reports reports'
    refine decoder.respond_congr request reports reports' .rfl ?_
    cases read : decoder.payload request.body with
    | error e => exact decoder.run_eq_of_error read
    | ok p =>
      refine decoder.run_eq_of_payload read read fun language => ?_
      refine p.attempt_eq_of_heldBack p rfl rfl rfl ?_
      rw [Payload.heldBack, Payload.heldBack, if_pos (chooses p read), if_pos (chooses p read)]
  case breaks => exact decoder.status_respond_eq_iff config request
  case emitted =>
    intro part name language p asks named known fits read
    refine ⟨decoder.respond_holds config asks named known fits read, fun name => ?_⟩
    rw [declare, Dialect.mem_rawNames_build_iff, Snapshot.emits, Bool.and_eq_true,
      Payload.admits_options_iff]
    simp

/-- A payload that has no lists. -/
def Payload.ofTables : Payload where
  snapshot := {
    schemas := [⟨1, "app"⟩, ⟨2, "auth"⟩]
    tables := [⟨10, "app", "todos"⟩, ⟨11, "auth", "users"⟩] }

theorem Request.body_toGo (p : Payload) : (toGo p).body = p.toJson.compact := rfl

theorem Request.toGo_generates (p : Payload) : (toGo p).Generates "go" where
  path := by
    have path : pathText "/generators/go" = "/generators/go" := pathText_eq_self (by simp)
    have route : (Route.generate "go").HasPath "/generators/go" := .generate (by simp) (by simp)
    exact .inl (path.symm ▸ route)
  method := rfl

/-- A list that is left out, one that stands for it and one that is empty. The bodies of the first
two are as long as they may be. -/
theorem respond_exclusionsStandIn_auth :
    let p := Payload.ofTables
    let explicit := { p with excluded := some ["auth"] }
    let unlimited := { p with excluded := some [] }
    let config := Config.upTo p ["auth"]
    let config' := Config.upTo explicit []
    let respond := Decoder.text.respond
    let ds := (declare p.snapshot (p.options .go config)).declarations
    (respond config (.ofTask 1) (.toGo p)).SameBut (.ofTask 1) (.ofTask 2)
        (respond config' (.ofTask 2) (.toGo explicit)) ∧
      (respond config (.ofTask 1) (.toGo unlimited)).SameBut (.ofTask 1) (.ofTask 2)
        (respond { config with excluded := [] } (.ofTask 2) (.toGo unlimited)) ∧
      "auth" ∉ ds.schemas.map (·.rawName) := by
  intro p explicit unlimited config config' respond ds
  have standIn := fun config request => (respond_exclusionsStandIn Decoder.text config request).2
  have read : ∀ q : Payload, Decoder.text.payload (Request.toGo q).body = .ok q :=
    Decoder.payload_compact
  have fits : Decoder.text.size (Request.toGo p).body ≤ config.bodyLimit := by
    rw [Decoder.size_text, Request.body_toGo]
    exact Config.fits_upTo p _
  have fits' : Decoder.text.size (Request.toGo explicit).body ≤ config'.bodyLimit := by
    rw [Decoder.size_text, Request.body_toGo]
    exact Config.fits_upTo explicit _
  refine ⟨?absent, ?given, ?emitted⟩
  case absent =>
    exact (standIn config (.toGo p)).absent p (read p) (by decide) config'
      (Request.toGo explicit).body (read explicit) (iff_of_true fits fits') _ _
  case given =>
    refine (standIn config (.toGo unlimited)).given (fun q hq => ?_) [] _ _
    obtain rfl : unlimited = q := Except.ok.inj ((read unlimited).symm.trans hq)
    decide
  case emitted =>
    have named : percentDecode? "go" = some "go" := by decide +kernel
    have known : Language.ofName? "go" = some .go := by decide +kernel
    have emitted := (standIn config (.toGo p)).emitted (Request.toGo_generates p) named
      known fits (read p)
    intro mem
    exact ((emitted.2 "auth").mp mem).2.2 (by decide)

/-- A list that stands for the one left out, and yet the replies are not the same: two tasks break
down on a name that is too long. -/
theorem respond_explicit_ne :
    let p := Payload.wide
    let explicit := { p with excluded := some ["auth"] }
    let config := Config.upTo p ["auth"]
    let config' := Config.upTo explicit []
    ¬ p.Chooses ∧ respond config (.ofTask 1) (.toGo p) ≠
      respond config' (.ofTask 2) (.toGo explicit) := by
  intro p explicit config config'
  have wide : BreaksDown p.snapshot (p.options .go config) := breaksDown_longName rfl (by decide)
  have wide' : BreaksDown explicit.snapshot (explicit.options .go config') :=
    breaksDown_longName rfl (by decide)
  refine ⟨by decide, fun same => Reports.ofTask_ne ?_⟩
  rw [respond_toGo (Config.fits_upTo p _) wide, respond_toGo (Config.fits_upTo explicit _) wide']
    at same
  exact Failure.body_ofReport_eq_iff.mp (congrArg Reply.body same)

end Service

end CatalogTypes
