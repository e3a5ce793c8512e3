/-! # Built-in scalar types -/

namespace CatalogTypes

inductive Scalar where
  | bool
  | int16
  | int32
  | int64
  | float32
  | float64
  | numeric
  | bytes
  | text
  | date
  | time
  | timestamp
  | interval
  | uuid
  | json
  /-- Ranges and multiranges. -/
  | range
  | void
  /-- Rows of no declared type. -/
  | record
deriving DecidableEq, Repr

namespace Scalar

/-- The names that a catalog has for each scalar type. Types whose values are exchanged as text
(`inet`, `vector` and the like) count as text. -/
def formats : Scalar → List String
  | bool => ["bool", "boolean"]
  | int16 => ["int2", "smallint"]
  | int32 => ["int4", "int", "integer"]
  | int64 => ["int8", "bigint"]
  | float32 => ["float4", "real"]
  | float64 => ["float8", "double precision"]
  | numeric => ["numeric", "decimal", "money"]
  | bytes => ["bytea"]
  | text =>
    ["text", "varchar", "character varying", "bpchar", "char", "character", "citext", "name",
      "inet", "cidr", "macaddr", "macaddr8", "vector"]
  | date => ["date"]
  | time => ["time", "timetz"]
  | timestamp => ["timestamp", "timestamptz"]
  | interval => ["interval"]
  | uuid => ["uuid"]
  | json => ["json", "jsonb"]
  | range =>
    ["int4range", "int8range", "numrange", "tsrange", "tstzrange", "daterange", "int4multirange",
      "int8multirange", "nummultirange", "tsmultirange", "tstzmultirange", "datemultirange"]
  | void => ["void"]
  | record => ["record"]

def all : List Scalar :=
  [bool, int16, int32, int64, float32, float64, numeric, bytes, text, date, time, timestamp,
    interval, uuid, json, range, void, record]

theorem mem_all (s : Scalar) : s ∈ all := by cases s <;> decide

def ofFormat? (format : String) : Option Scalar := all.find? (·.formats.contains format)

theorem mem_formats_of_ofFormat? {format : String} {s : Scalar} (h : ofFormat? format = some s) :
    format ∈ s.formats := by
  simpa using List.find?_some h

def isNumeric : Scalar → Bool
  | int16 | int32 | int64 | float32 | float64 | numeric => true
  | _ => false

end Scalar

end CatalogTypes
