import CatalogTypes.Proofs.Breakdowns
import CatalogTypes.Proofs.Routes
import CatalogTypes.Proofs.RoundTrips
import CatalogTypes.Service.Exchange

/-!
# Replies are read back

The bodies of requests and of replies in JSON are read back, whatever texts stand in them. The two
routes that generate do the same work and show it in two ways: `respond_endpointsAgree` compares
what they reply to one body. Only when generation breaks down are there two reports, one for each.
-/

namespace CatalogTypes.Service

open Json

/-! ## Bodies of requests -/

namespace Payload

def toJson (p : Payload) : Value :=
  .object [
    ("metadata", p.snapshot.toJson),
    ("included_schemas", .orNull textsValue p.included),
    ("excluded_schemas", .orNull textsValue p.excluded),
    ("access_control", .orNull Access.toJson p.access)]

/-- All but the snapshot may be left out, which says the same as null. -/
def shape : Shape := .object [("metadata", Snapshot.shape)] [
  ("included_schemas", .null), ("excluded_schemas", .null), ("access_control", .null)]

theorem reads (p : Payload) : reader.Reads shape p p.toJson := by
  have textsNonnull : ∀ texts, textsValue texts ≠ .null := by simp [textsValue]
  have accessNonnull : ∀ access, Access.toJson access ≠ .null := by simp [Access.toJson]
  have texts := Reader.takes_optional takes_textsValue textsNonnull
  have access := Reader.takes_optional Access.takes accessNonnull
  refine Reader.reads_record (Fields.Tells.map
    (x := (p.snapshot, p.included, p.excluded, p.access)) ?_ _) (by simp) _
  refine .cons ?_ (Snapshot.reads p.snapshot) (by simp [List.lookup_cons]) (by simp)
  refine .cons ?_ (texts p.included).reads (eq_none_of_standard textsNonnull rfl) (by simp)
  refine .cons ?_ (texts p.excluded).reads (eq_none_of_standard textsNonnull rfl) (by simp)
  exact Fields.tells_single (access p.access).reads (eq_none_of_standard accessNonnull rfl)

/-- Every payload is read back from text. A list left out or null is read as none, and one that is
empty as an empty one. -/
theorem roundTrips : RoundTrips toJson shape ofJson := roundTrips_decode reads

end Payload

/-! ## Bodies of replies -/

/-- Reads the flag, the code and the message of a failure. -/
def failureReader : Reader (Bool × String × String) :=
  .record "Failure" <|
    (Fields.required "error" .boolean).and <| (Fields.required "code" .text).and <|
      .required "message" .text

theorem Failure.decode_reply (f : Failure) :
    failureReader.decode f.reply.body = .ok (true, f.code, f.message) := by
  have reads : failureReader.Reads (.object [] []) (true, f.code, f.message) (.object
      [("error", .boolean true), ("code", .text f.code), ("message", .text f.message)]) := by
    refine Reader.reads_record ?_ (by simp) _
    refine .cons ?_ (Reader.takes_boolean true).reads (by simp) (by simp)
    refine .cons ?_ (Reader.takes_text f.code).reads (by simp) (by simp)
    exact Fields.tells_single (Reader.takes_text f.message).reads (by simp)
  exact reads.decode (.refl _ _) (Value.spells_compact _)

@[simp] theorem Failure.status_reply (f : Failure) : f.reply.status = f.status := rfl

theorem Failure.status_ne (f : Failure) : f.reply.status ≠ 200 := by
  cases f
  all_goals simp [status]

/-- The report can be told from the body of the reply. -/
theorem Failure.body_ofReport_eq_iff {report report' : String} :
    (ofReport report).reply.body = (ofReport report').reply.body ↔ report = report' := by
  refine ⟨fun same => ?_, fun same => same ▸ rfl⟩
  have read := decode_reply (ofReport report)
  rw [same, decode_reply] at read
  have message := congrArg String.toList (Prod.mk.inj (Prod.mk.inj (Except.ok.inj read)).2).2
  rw [ofReport, ofReport, Failure.message, Failure.message, String.toList_append,
    String.toList_append] at message
  exact (String.toList_inj.mp (List.append_cancel_left message)).symm

/-- The replies differ at most in the report of a breakdown: each has the report about its own
task. -/
structure Reply.SameBut (reports reports' : Reports) (r r' : Reply) : Prop where
  status : r.status = r'.status
  mediaType : r.mediaType = r'.mediaType
  body : r.body = r'.body ↔ (r.status = 500 → reports .width = reports' .width)

namespace Reply.SameBut

variable {reports reports' : Reports}

theorem of_ne {r : Reply} (h : r.status ≠ 500) : r.SameBut reports reports' r where
  status := rfl
  mediaType := rfl
  body := iff_of_true rfl fun broken => absurd broken h

theorem ofReport : (Failure.ofReport (reports .width)).reply.SameBut reports reports'
    (Failure.ofReport (reports' .width)).reply where
  status := rfl
  mediaType := rfl
  body := Failure.body_ofReport_eq_iff.trans ⟨fun same _ => same, fun same => same rfl⟩

end Reply.SameBut

/-- Reads the source text and the texts of the warnings. -/
def diagnosticsReader : Reader (String × List String) :=
  .record "Diagnostics" <|
    (Fields.required "output" .text).and <| .required "warnings" (.list .text)

theorem decode_diagnosticsReply (g : Generated) :
    diagnosticsReader.decode (diagnosticsReply g).body =
      .ok (g.output, g.warnings.map (·.message)) := by
  have reads : diagnosticsReader.Reads (.object [] []) (g.output, g.warnings.map (·.message))
      (.object [("output", .text g.output),
        ("warnings", textsValue (g.warnings.map (·.message)))]) := by
    refine Reader.reads_record ?_ (by simp) _
    refine .cons ?_ (Reader.takes_text g.output).reads (by simp) (by simp)
    exact Fields.tells_single (takes_textsValue _).reads (by simp)
  exact reads.decode (.refl _ _) (Value.spells_compact _)

namespace Decoder

variable {Body : Type} (decoder : Decoder Body) (config : Config)

/-! ## What a generation comes to -/

section Run

variable (reports : Reports) {name : String} {body : Body}

/-- The name of no language is refused, whatever the body holds. -/
theorem run_unknown (h : Language.ofName? name = none) :
    decoder.run config reports name body = .error (.unknownBackend name) := by
  simp only [run, Language.ofName, h]
  rfl

variable {language : Language} (known : Language.ofName? name = some language)

include known

theorem run_malformed {e : Json.Error} (h : decoder.payload body = .error e) :
    decoder.run config reports name body = .error (.ofJsonError e) := by
  simp only [run, Language.ofName, known, h]
  rfl

variable {p : Payload} (read : decoder.payload body = .ok p)

include read

theorem run_eq_attempt :
    decoder.run config reports name body =
      (attempt p.snapshot (p.options language config)).mapError (.ofReport <| reports ·) := by
  simp only [run, Language.ofName, known, read]
  rfl

theorem run_generated (h : ¬ BreaksDown p.snapshot (p.options language config)) :
    decoder.run config reports name body =
      .ok (generate p.snapshot (p.options language config)) := by
  rw [decoder.run_eq_attempt config reports known read, attempt_of_not_breaksDown h]
  rfl

theorem run_broken (h : BreaksDown p.snapshot (p.options language config)) :
    decoder.run config reports name body = .error (.ofReport (reports .width)) := by
  rw [decoder.run_eq_attempt config reports known read, attempt_of_breaksDown h]
  rfl

end Run

section Answer

variable (reports : Reports) {part name : String} {body : Body} {present : Generated → Reply}

theorem answer_notUtf8 (h : percentDecode? part = none) :
    decoder.answer config reports part body present = notUtf8 := by
  simp only [answer, h]

variable (named : percentDecode? part = some name)

include named

theorem answer_tooLong (h : config.bodyLimit < decoder.size body) :
    decoder.answer config reports part body present = tooLong := by
  simp only [answer, named, if_pos h]

variable (fits : decoder.size body ≤ config.bodyLimit)

include fits

theorem answer_failure {f : Failure} (h : decoder.run config reports name body = .error f) :
    decoder.answer config reports part body present = f.reply := by
  simp only [answer, named, if_neg (Nat.not_lt.mpr fits), h]

theorem answer_result {g : Generated} (h : decoder.run config reports name body = .ok g) :
    decoder.answer config reports part body present = present g := by
  simp only [answer, named, if_neg (Nat.not_lt.mpr fits), h]

end Answer

theorem respond_of_hasPath (reports : Reports) (request : Request Body) {route : Route}
    (h : route.HasPath (pathText request.target)) (method : request.method = route.method) :
    decoder.respond config reports request = decoder.reply config reports request.body route := by
  simp only [respond, Route.ofPath?_eq_some_iff.mpr h, method, if_true]

/-! ## Breakdowns -/

section Breaks

variable (part : String) (body : Body)

/-- What is asked for is source text in Go, and it has a column that is too wide. -/
def Breaks : Prop :=
  ∃ name p, percentDecode? part = some name ∧ decoder.size body ≤ config.bodyLimit ∧
    Language.ofName? name = some .go ∧ decoder.payload body = .ok p ∧
      Go.TooWide (declare p.snapshot (p.options .go config)).declarations

variable {part body}

theorem answer_of_breaks (h : decoder.Breaks config part body) (reports : Reports)
    (present : Generated → Reply) :
    decoder.answer config reports part body present = (Failure.ofReport (reports .width)).reply :=
  have ⟨_, _, named, fits, go, read, wide⟩ := h
  decoder.answer_failure config reports named fits
    (decoder.run_broken config reports go read ⟨rfl, wide⟩)

theorem not_breaksDown_of_not_breaks {name : String} {language : Language} {p : Payload}
    (named : percentDecode? part = some name) (fits : decoder.size body ≤ config.bodyLimit)
    (known : Language.ofName? name = some language) (read : decoder.payload body = .ok p)
    (h : ¬ decoder.Breaks config part body) :
    ¬ BreaksDown p.snapshot (p.options language config) := by
  rintro ⟨go, wide⟩
  obtain rfl : language = .go := go
  exact h ⟨name, p, named, fits, known, read, wide⟩

/-- There are three ways to answer, and which of them is taken shows neither of a report nor of what
is done with results. Only a breakdown has its report in the reply. -/
theorem answer_cases (part : String) (body : Body) :
    (∃ r : Reply, r.status ≠ 200 ∧ r.status ≠ 500 ∧
      ∀ reports present, decoder.answer config reports part body present = r) ∨
    decoder.Breaks config part body ∨
    ∃ name language p, percentDecode? part = some name ∧ Language.ofName? name = some language ∧
      decoder.payload body = .ok p ∧ ∀ reports present,
        decoder.answer config reports part body present =
          present (generate p.snapshot (p.options language config)) := by
  cases named : percentDecode? part with
  | none =>
    exact .inl ⟨notUtf8, by decide, by decide, fun reports _ =>
      decoder.answer_notUtf8 config reports named⟩
  | some name =>
    rcases Nat.lt_or_ge config.bodyLimit (decoder.size body) with long | fits
    · exact .inl ⟨tooLong, by decide, by decide, fun reports _ =>
        decoder.answer_tooLong config reports named long⟩
    cases known : Language.ofName? name with
    | none =>
      have other : (Failure.unknownBackend name).reply.status ≠ 500 := by simp [Failure.status]
      exact .inl ⟨_, Failure.status_ne _, other, fun reports _ =>
        decoder.answer_failure config reports named fits
          (decoder.run_unknown config reports known)⟩
    | some language =>
      cases read : decoder.payload body with
      | error e =>
        have other : (Failure.ofJsonError e).reply.status ≠ 500 := by
          simp [Failure.ofJsonError, Failure.status]
        exact .inl ⟨_, Failure.status_ne _, other, fun reports _ =>
          decoder.answer_failure config reports named fits
            (decoder.run_malformed config reports known read)⟩
      | ok p =>
        by_cases broken : decoder.Breaks config part body
        · exact .inr (.inl broken)
        · have laid := decoder.not_breaksDown_of_not_breaks config named fits known read broken
          exact .inr (.inr ⟨name, language, p, rfl, known, rfl, fun reports _ =>
            decoder.answer_result config reports named fits
              (decoder.run_generated config reports known read laid)⟩)

theorem answer_sameBut {reports reports' : Reports} {present : Generated → Reply}
    (success : ∀ g, (present g).status = 200) :
    (decoder.answer config reports part body present).SameBut reports reports'
      (decoder.answer config reports' part body present) := by
  rcases decoder.answer_cases config part body with
    ⟨r, -, other, answer⟩ | broken | ⟨_, _, _, -, -, -, answer⟩
  · rw [answer, answer]
    exact .of_ne other
  · rw [decoder.answer_of_breaks config broken, decoder.answer_of_breaks config broken]
    exact .ofReport
  · rw [answer, answer]
    exact .of_ne (by simp [success])

end Breaks

/-! ## The two routes that generate -/

section Paths

variable (reports : Reports) {part : String}
  (plain : ∀ c ∈ part.toList, c ≠ '/' ∧ c ≠ '?' ∧ c ≠ '#') (body : Body)

include plain

theorem plain_prefixed : ∀ c ∈ ("/generators/" ++ part).toList, c ≠ '?' ∧ c ≠ '#' := by
  rw [String.toList_append]
  exact List.forall_mem_append.mpr ⟨by simp, fun c hc => (plain c hc).2⟩

theorem respond_generate (nonempty : part ≠ "") :
    decoder.respond config reports ⟨"POST", "/generators/" ++ part, body⟩ =
      decoder.answer config reports part body sourceReply := by
  have path : (Route.generate part).HasPath (pathText ("/generators/" ++ part)) := by
    rw [pathText_eq_self (plain_prefixed plain)]
    exact .generate (fun mem => (plain '/' mem).1 rfl) nonempty
  exact decoder.respond_of_hasPath config reports ⟨"POST", _, body⟩ path rfl

end Paths

end Decoder

/-- A configuration under which the payload's body is as long as it may be. -/
def Config.upTo (p : Payload) (excluded : List String) : Config where
  bodyLimit := p.toJson.compact.utf8ByteSize
  excluded

theorem Config.fits_upTo (p : Payload) (excluded : List String) :
    p.toJson.compact.utf8ByteSize ≤ (upTo p excluded).bodyLimit :=
  Nat.le_refl _

/-- The only column of the payload has a name that is too long. -/
def Payload.wide : Payload where
  snapshot := .ofColumns [longName]

def Request.toGo (p : Payload) : Request String := ⟨"POST", "/generators/go", p.toJson.compact⟩

theorem Decoder.payload_text : text.payload = Payload.ofJson := rfl

theorem Decoder.size_text : text.size = String.utf8ByteSize := rfl

theorem Decoder.payload_compact (p : Payload) : text.payload p.toJson.compact = .ok p := by
  rw [payload_text, Payload.roundTrips.compact]

section Breaks

variable {config : Config} {p : Payload}
  (fits : p.toJson.compact.utf8ByteSize ≤ config.bodyLimit)
  (wide : BreaksDown p.snapshot (p.options .go config))

include fits wide

theorem breaks_toGo : Decoder.text.Breaks config "go" p.toJson.compact := by
  have named : percentDecode? "go" = some "go" := by decide +kernel
  have known : Language.ofName? "go" = some .go := by decide +kernel
  rw [← Decoder.size_text] at fits
  exact ⟨"go", p, named, fits, known, Decoder.payload_compact p, wide.2⟩

theorem respond_toGo (reports : Reports) :
    respond config reports (.toGo p) = (Failure.ofReport (reports .width)).reply := by
  have target : "/generators/go" = "/generators/" ++ "go" := by decide +kernel
  rw [← Decoder.text.answer_of_breaks config (breaks_toGo fits wide) reports sourceReply,
    Request.toGo, target]
  exact Decoder.text.respond_generate config reports (by simp) _ (by simp)

end Breaks

theorem Reports.ofTask_ne : Reports.ofTask 1 .width ≠ Reports.ofTask 2 .width := by
  decide +kernel

end CatalogTypes.Service
