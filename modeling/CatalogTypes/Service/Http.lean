import CatalogTypes.Service.Payload

/-! # Requests to the service and their replies -/

namespace CatalogTypes.Service

open Json

structure Request (Body : Type) where
  method : String
  /-- The path, and whatever comes after it. -/
  target : String
  body : Body
deriving DecidableEq, Repr

inductive MediaType where
  | json
  | plainText
deriving DecidableEq, Repr

def MediaType.name : MediaType → String
  | json => "application/json"
  | plainText => "text/plain; charset=utf-8"

structure Reply where
  status : Nat
  mediaType : Option MediaType := none
  body : String := ""
deriving DecidableEq, Repr

def Reply.json (status : Nat) (body : Value) : Reply := ⟨status, some .json, body.compact⟩

/-! ## Failures -/

/-- What is reported about a task that breaks down. Each request has a task of its own to generate,
and a report names the task, so it is not the same for two of them. -/
abbrev Reports := Breakdown → String

/-- Why a request gets no source text. -/
inductive Failure where
  | badRequest (message : String)
  | unknownBackend (name : String)
  | internal (message : String)
deriving DecidableEq, Repr

namespace Failure

def status : Failure → Nat
  | badRequest _ => 400
  | unknownBackend _ => 404
  | internal _ => 500

def code : Failure → String
  | badRequest _ => "BAD_REQUEST"
  | unknownBackend _ => "UNKNOWN_BACKEND"
  | internal _ => "INTERNAL_ERROR"

def message : Failure → String
  | badRequest message => message
  | unknownBackend name => (InputError.unknownBackend name).message
  | internal message => message

def ofInputError : InputError → Failure
  | .unknownBackend name => .unknownBackend name
  | e => .badRequest e.message

def ofJsonError (e : Json.Error) : Failure := .badRequest ("JSON error: " ++ e.message)

/-- A breakdown is known by what is reported about its task. -/
def ofReport (report : String) : Failure := .internal ("generation task failed: " ++ report)

def reply (f : Failure) : Reply :=
  .json f.status <|
    .object [("error", .boolean true), ("code", .text f.code), ("message", .text f.message)]

end Failure

/-! ## Paths -/

/-- The parts between the slashes of a target's path, empty ones included. A query or a fragment is
no part of the path. -/
def path (target : String) : List String :=
  ((target.toList.takeWhile fun c => c != '?' && c != '#').splitOn '/').map String.ofList

def hexByte? (b : UInt8) : Option UInt8 :=
  if 0x30 ≤ b ∧ b ≤ 0x39 then some (b - 0x30)
  else if 0x61 ≤ b ∧ b ≤ 0x66 then some (b - 0x57)
  else if 0x41 ≤ b ∧ b ≤ 0x46 then some (b - 0x37)
  else none

/-- Puts bytes for percent signs with two hexadecimal digits; a percent sign without them stays. -/
def percentBytes : List UInt8 → List UInt8
  | [] => []
  | 0x25 :: high :: low :: rest =>
    match hexByte? high, hexByte? low with
    | some h, some l => (16 * h + l) :: percentBytes rest
    | _, _ => 0x25 :: percentBytes (high :: low :: rest)
  | b :: rest => b :: percentBytes rest

/-- The text of a part of a path. None if its bytes are no UTF-8. -/
def percentDecode? (part : String) : Option String :=
  String.fromUTF8? ⟨(percentBytes part.toUTF8.toList).toArray⟩

/-! ## Routes -/

inductive Route where
  | health
  | generators
  /-- Source text in the language that the part of the path names. -/
  | generate (part : String)
  /-- Source text together with the warnings. -/
  | diagnostics (part : String)
deriving DecidableEq, Repr

namespace Route

def ofPath? : List String → Option Route
  | ["", "health"] => some .health
  | ["", "generators"] => some .generators
  | ["", "generators", part] => if part.isEmpty then none else some (.generate part)
  | ["", "generators", part, "diagnostics"] => some (.diagnostics part)
  | _ => none

def method : Route → String
  | health | generators => "GET"
  | generate _ | diagnostics _ => "POST"

end Route

/-! ## Replies -/

def version : String := "0.1.0"

def tooLong : Reply :=
  ⟨413, some .plainText, "Failed to buffer the request body: length limit exceeded"⟩

def notUtf8 : Reply := ⟨400, some .plainText, "Invalid URL: Invalid UTF-8 in `backend`"⟩

def healthReply : Reply :=
  .json 200 (.object [("status", .text "healthy"), ("version", .text version)])

def generatorsReply : Reply :=
  .json 200 (.object [("generators", textsValue (Language.all.map (·.name)))])

def sourceReply (g : Generated) : Reply := ⟨200, some .plainText, g.output⟩

def diagnosticsReply (g : Generated) : Reply :=
  .json 200 <| .object [
    ("output", .text g.output),
    ("warnings", textsValue (g.warnings.map (·.message)))]

namespace Decoder

variable {Body : Type} (decoder : Decoder Body) (config : Config) (reports : Reports)

/-- Generates for a language by its name, which is looked at before the body. -/
def run (name : String) (body : Body) : Except Failure Generated := do
  let language ← (Language.ofName name).mapError .ofInputError
  let payload ← (decoder.payload body).mapError .ofJsonError
  (attempt payload.snapshot (payload.options language config)).mapError (.ofReport <| reports ·)

/-- The reply of a route that generates, `present` being what it does with the result. -/
def answer (part : String) (body : Body) (present : Generated → Reply) : Reply :=
  match percentDecode? part with
  | none => notUtf8
  | some name =>
    if decoder.size body > config.bodyLimit then tooLong
    else match decoder.run config reports name body with
      | .ok g => present g
      | .error f => f.reply

def reply (body : Body) : Route → Reply
  | .health => healthReply
  | .generators => generatorsReply
  | .generate part => decoder.answer config reports part body sourceReply
  | .diagnostics part => decoder.answer config reports part body diagnosticsReply

/-- Replies to a request: first the path has to be known, then the method has to be that of the
path. Requests by `HEAD` and `OPTIONS` do not come here. -/
def respond (request : Request Body) : Reply :=
  match Route.ofPath? (path request.target) with
  | none => ⟨404, none, ""⟩
  | some route =>
    if request.method = route.method then decoder.reply config reports request.body route
    else ⟨405, none, ""⟩

end Decoder

/-- Replies to a request whose body is text. -/
def respond : Config → Reports → Request String → Reply := Decoder.text.respond

end CatalogTypes.Service
