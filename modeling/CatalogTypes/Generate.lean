import CatalogTypes.Catalog.Format
import CatalogTypes.Declarations.Build
import CatalogTypes.Emit.TypeScript
import CatalogTypes.Emit.Go
import CatalogTypes.Emit.Swift
import CatalogTypes.Emit.Python

/-! # Generation of source text -/

namespace CatalogTypes

namespace Language

def dialect : Language → Dialect
  | typescript => TypeScript.dialect
  | go => Go.dialect
  | swift => Swift.dialect
  | python => Python.dialect

/-- The source text of declarations, if it can be laid out. Only Swift writes down what they can be
seen from. -/
def render (language : Language) (access : Access) (ds : Declarations) : String :=
  match language with
  | typescript => TypeScript.render ds
  | go => Go.render ds
  | swift => Swift.render access ds
  | python => Python.render ds

end Language

/-- Why declarations have no source text. -/
inductive Breakdown where
  /-- A column is wider than widths can say. -/
  | width
deriving DecidableEq, Repr

def Breakdown.message : Breakdown → String
  | width => "Formatting argument out of range"

/-- What stands in the way of a source text, if anything does. -/
def Language.breakdown? (language : Language) (ds : Declarations) : Option Breakdown :=
  match language with
  | go => if Go.fits ds then none else some .width
  | typescript | swift | python => none

/-- Source text and what was noticed on the way. -/
structure Generated where
  output : String
  warnings : List Warning
deriving DecidableEq, Repr

/-- The declarations of a snapshot, with the warnings about them. -/
def declare (s : Snapshot) (o : Options) : Built :=
  o.language.dialect.build (.ofSnapshot s) o

/-- What is generated from a snapshot, if its source text can be laid out. What cannot be expressed
becomes the type of all values, and a warning. Warnings about the snapshot itself come first. -/
def generate (s : Snapshot) (o : Options) : Generated :=
  let built := declare s o
  { output := o.language.render o.access built.declarations
    warnings := (Findings.ofList (s.flaws ++ built.warnings)).toList }

/-- Generates from a snapshot, or breaks down. -/
def attempt (s : Snapshot) (o : Options) : Except Breakdown Generated :=
  match o.language.breakdown? (declare s o).declarations with
  | none => .ok (generate s o)
  | some b => .error b

/-! ## Input as text -/

/-- Why there is nothing to generate. -/
inductive InputError where
  | invalidMetadata (e : Json.Error)
  | unknownBackend (name : String)
deriving DecidableEq, Repr

def InputError.message : InputError → String
  | invalidMetadata e => "invalid metadata: " ++ e.message
  | unknownBackend name => "unknown backend '" ++ name ++ "'"

/-- The language of that name; an unknown name is kept as it was given. -/
def Language.ofName (name : String) : Except InputError Language :=
  match ofName? name with
  | some language => .ok language
  | none => .error (.unknownBackend name)

def Snapshot.ofText (text : String) : Except InputError Snapshot :=
  (Snapshot.ofJson text).mapError .invalidMetadata

def generateFromText (text : String) (o : Options) :
    Except InputError (Except Breakdown Generated) :=
  (Snapshot.ofText text).map (attempt · o)

end CatalogTypes
