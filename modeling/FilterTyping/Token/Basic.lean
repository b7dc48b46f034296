/-!
# Type tokens

A type token says what a bound parameter is, or what a field may be compared with: the type of a
column, a way of binding, a name of the host's own, or the identity of an enumeration or an entity.
-/

namespace FilterTyping

/-! ## Column types -/

inductive Column where
  | asciiString | bigint | binary | blob | boolean | date | dateImmutable | dateInterval | dateTime
  | dateTimeImmutable | dateTimeTz | dateTimeTzImmutable | decimal | float | guid | integer | json
  | simpleArray | smallint | string | text | time | timeImmutable
  deriving DecidableEq, Repr

namespace Column

def all : List Column :=
  [asciiString, bigint, binary, blob, boolean, date, dateImmutable, dateInterval, dateTime,
    dateTimeImmutable, dateTimeTz, dateTimeTzImmutable, decimal, float, guid, integer, json,
    simpleArray, smallint, string, text, time, timeImmutable]

def name : Column → String
  | asciiString => "ascii_string"
  | bigint => "bigint"
  | binary => "binary"
  | blob => "blob"
  | boolean => "boolean"
  | date => "date"
  | dateImmutable => "date_immutable"
  | dateInterval => "dateinterval"
  | dateTime => "datetime"
  | dateTimeImmutable => "datetime_immutable"
  | dateTimeTz => "datetimetz"
  | dateTimeTzImmutable => "datetimetz_immutable"
  | decimal => "decimal"
  | float => "float"
  | guid => "guid"
  | integer => "integer"
  | json => "json"
  | simpleArray => "simple_array"
  | smallint => "smallint"
  | string => "string"
  | text => "text"
  | time => "time"
  | timeImmutable => "time_immutable"

def ofName? (name : String) : Option Column :=
  all.find? (·.name == name)

@[simp]
theorem ofName?_name (c : Column) : ofName? c.name = some c := by
  cases c <;> rfl

theorem name_of_ofName? {name : String} {c : Column} (h : ofName? name = some c) :
    c.name = name := by
  have := List.find?_some h
  simpa using this

end Column

/-! ## Ways of binding -/

inductive BindKind where
  | null | integer | string | largeObject | boolean | binary | ascii
  | integerArray | stringArray | asciiArray | binaryArray
  deriving DecidableEq, Repr

namespace BindKind

def all : List BindKind :=
  [null, integer, string, largeObject, boolean, binary, ascii,
    integerArray, stringArray, asciiArray, binaryArray]

def name : BindKind → String
  | null => "null"
  | integer => "integer"
  | string => "string"
  | largeObject => "large_object"
  | boolean => "boolean"
  | binary => "binary"
  | ascii => "ascii"
  | integerArray => "integer[]"
  | stringArray => "string[]"
  | asciiArray => "ascii[]"
  | binaryArray => "binary[]"

def ofName? (name : String) : Option BindKind :=
  all.find? (·.name == name)

def render (kind : BindKind) : String :=
  "binding::" ++ kind.name

end BindKind

/-! ## Builtin types -/

/-- A type that a field can be declared with. A custom name may spell a known column. -/
inductive Builtin where
  | column (column : Column)
  | custom (name : String)
  | binding (kind : BindKind)
  deriving DecidableEq, Repr

namespace Builtin

def named (name : String) : Builtin :=
  match Column.ofName? name with
  | some c => column c
  | none => custom name

def render : Builtin → String
  | column c => c.name
  | custom name => name
  | binding kind => kind.render

end Builtin

/-! ## Tokens -/

/-- A builtin type, or an enumeration or an entity known by its path. -/
inductive TypeToken where
  | builtin (type : Builtin)
  | enumeration (path : String)
  | entity (path : String)
  deriving DecidableEq, Repr

namespace TypeToken

abbrev column (c : Column) : TypeToken := builtin (.column c)

abbrev binding (kind : BindKind) : TypeToken := builtin (.binding kind)

def named (name : String) : TypeToken :=
  builtin (Builtin.named name)

def column? : TypeToken → Option Column
  | builtin (.column c) => some c
  | _ => none

def render : TypeToken → String
  | builtin type => type.render
  | enumeration path => path
  | entity path => path

end TypeToken

end FilterTyping
