import Localize.Json.Cursor

/-! # Reading typed data from JSON

Typed data is read straight from the text, or from a value already read. Strings, booleans,
lists, enumerations without payload and records with named fields are supported.

A record is read from an object, member by member: a known field read twice is an error,
unknown members are skipped, and at the end each field not given takes its default or, if it
has none, is reported missing. A record can also be read from an array holding its fields in
declaration order; missing trailing fields take their defaults, and the first one without a
default is reported with the number of fields read.

Reading from text, a shape error is placed where reading stands after the innermost string,
list, record or enumeration it arose in (after its closing bracket, when one follows), and
anything but whitespace after the whole value is an error.
-/

namespace Localize.Json

open Scan

/-- How a record is read: its name, its fields in declaration order, a draft that collects
field values, and the reading of each field into the draft. -/
structure RecordShape (δ α : Type) where
  name : String
  fields : List String
  empty : δ
  /-- Whether the draft has a value for field `i`. -/
  has : δ → Nat → Bool
  /-- Reads the value of field `i` from text into the draft. -/
  readText : Nat → δ → Scan δ
  /-- Reads the value of field `i` from a value into the draft. -/
  readValue : Nat → δ → Value → Except JsonError δ
  /-- The record, or the index and name of the first field that is missing and has no
  default. -/
  complete : δ → Except (Nat × String) α

/-- What the array form of a record is expected to be. -/
def RecordShape.arrayExpected (shape : RecordShape δ α) : String :=
  "struct " ++ shape.name ++ " with " ++ toString shape.fields.length ++ " elements"

/-- The record from a draft read from an object. -/
def RecordShape.fromObject (shape : RecordShape δ α) (draft : δ) : Except Problem α :=
  match shape.complete draft with
  | .ok a => .ok a
  | .error (_, name) => .error (.missingField name)

/-- The record from a draft read from an array. -/
def RecordShape.fromArray (shape : RecordShape δ α) (draft : δ) : Except Problem α :=
  match shape.complete draft with
  | .ok a => .ok a
  | .error (i, _) => .error (.invalidLength i shape.arrayExpected)

namespace Scan

/-- Fails with a shape problem that has no place yet. -/
def problem (p : Problem) : Scan α := throw ⟨p, none⟩

/-- Reads a string value. -/
def readString : Scan String := placed do
  match ← peekValue with
  | none => failAhead .eofValue
  | some 34 => eat; string
  | some _ => invalidType "a string"

/-- Reads a boolean value. -/
def readBool : Scan Bool := placed do
  match ← peekValue with
  | none => failAhead .eofValue
  | some 116 => eat; word [114, 117, 101]; return true
  | some 102 => eat; word [97, 108, 115, 101]; return false
  | some _ => invalidType "a boolean"

/-- Reads `null`, the only value of a variant without payload. -/
def readUnit : Scan Unit := placed do
  match ← peekValue with
  | none => failAhead .eofValue
  | some 110 => eat; word [117, 108, 108]
  | some _ => invalidType "unit"

/-- Runs `body`, then closes a bracket with `close`; an error of `body` wins over one of
`close`, and is placed after the closing. -/
def closing (body : Scan α) (close : Scan Unit) : Scan α := placed do
  let result ← tryCatch (do return Except.ok (← body)) fun e => pure (Except.error e)
  let closed ← tryCatch (do close; return none) fun e => pure (some e)
  match result, closed with
  | .error e, _ => throw e
  | .ok _, some e => throw e
  | .ok a, none => return a

/-- Closes an array: its `]`, or an error naming what stands there instead. -/
def closeArray : Scan Unit := do
  match ← peekValue with
  | some 93 => eat
  | some 44 =>
    eat
    match ← peekValue with
    | some 93 => failAhead .trailingComma
    | _ => failAhead .trailingCharacters
  | some _ => failAhead .trailingCharacters
  | none => failAhead .eofList

/-- Closes an object: its closing brace, or an error naming what stands there instead. -/
def closeObject : Scan Unit := do
  match ← peekValue with
  | some 125 => eat
  | some 44 => failAhead .trailingComma
  | some _ => failAhead .trailingCharacters
  | none => failAhead .eofObject

/-- Moves to the next element of an array (`first` for the first): true when one follows. -/
def nextElement (first : Bool) : Scan Bool := do
  match ← peekValue with
  | some 93 => return false
  | some 44 =>
    if first then return true
    eat
    match ← peekValue with
    | some 93 => failAhead .trailingComma
    | some _ => return true
    | none => failAhead .eofValue
  | some _ => if first then return true else failAhead .expectedListCommaOrEnd
  | none => failAhead .eofList

/-- Reads the elements of an array (after its `[`). -/
def elements (element : Scan α) : Nat → Bool → List α → Scan (List α)
  | 0, _, acc => return acc.reverse
  | fuel + 1, first, acc => do
    if ← nextElement first then elements element fuel false ((← element) :: acc)
    else return acc.reverse

/-- Reads a list value. -/
def readList (element : Scan α) : Scan (List α) := placed do
  match ← peekValue with
  | none => failAhead .eofValue
  | some 91 =>
    eat
    closing (do elements element (← bound) true []) closeArray
  | some _ => invalidType "a sequence"

/-- Moves to the next key of an object (`first` for the first) and reads it. -/
def nextKey (first : Bool) : Scan (Option String) := do
  let ahead ← match ← peekValue with
    | some 125 => return none
    | some 44 =>
      if first then pure (some 44)
      else do eat; peekValue
    | some b => if first then pure (some b) else failAhead .expectedObjectCommaOrEnd
    | none => failAhead .eofObject
  match ahead with
  | some 34 => eat; return some (← string)
  | some 125 => failAhead .trailingComma
  | some _ => failAhead .keyMustBeString
  | none => failAhead .eofValue

/-- Reads the colon between a key and its value. -/
def colon : Scan Unit := do
  match ← peekValue with
  | some 58 => eat
  | some _ => failAhead .expectedColon
  | none => failAhead .eofObject

/-- Reads the members of a record's object (after its opening brace) into a draft. -/
def members (shape : RecordShape δ α) : Nat → Bool → δ → Scan δ
  | 0, _, draft => return draft
  | fuel + 1, first, draft => do
    match ← nextKey first with
    | none => return draft
    | some key =>
      match shape.fields.idxOf? key with
      | some i =>
        if shape.has draft i then problem (.duplicateField key)
        colon
        members shape fuel false (← shape.readText i draft)
      | none =>
        colon
        skipValue
        members shape fuel false draft

/-- Reads a record's fields from its array (after its `[`) into a draft. -/
def fieldsInOrder (shape : RecordShape δ α) : List Nat → Bool → δ → Scan δ
  | [], _, draft => return draft
  | i :: rest, first, draft => do
    if ← nextElement first then fieldsInOrder shape rest false (← shape.readText i draft)
    else return draft

/-- Lifts the result of completing a record. -/
def ofProblem : Except Problem α → Scan α
  | .ok a => return a
  | .error p => problem p

/-- Reads a record, from an object or an array. -/
def readRecord (shape : RecordShape δ α) : Scan α := placed do
  match ← peekValue with
  | none => failAhead .eofValue
  | some 123 =>
    eat
    closing (do
      let draft ← members shape (← bound) true shape.empty
      ofProblem (shape.fromObject draft)) closeObject
  | some 91 =>
    eat
    closing (do
      let draft ← fieldsInOrder shape (List.range shape.fields.length) true shape.empty
      ofProblem (shape.fromArray draft)) closeArray
  | some _ => invalidType ("struct " ++ shape.name)

/-- Reads the name of an enumeration variant. -/
def readVariantName (variants : List String) : Scan Nat := placed do
  match ← peekValue with
  | none => failAhead .eofValue
  | some 34 =>
    eat
    let name ← string
    match variants.idxOf? name with
    | some i => return i
    | none => problem (.unknownVariant name variants)
  | some _ => invalidType "variant identifier"

/-- Reads a variant of an enumeration without payload: its name as a string, or an object
with its name as the only key and `null` as value. Returns the variant's index. -/
def readVariant (variants : List String) : Scan Nat := do
  match ← peekValue with
  | some 123 =>
    eat
    let i ← readVariantName variants
    colon
    readUnit
    match ← peekValue with
    | some 125 => eat; return i
    | some _ => fail .expectedValue
    | none => fail .eofObject
  | some 34 => readVariantName variants
  | some _ => failAhead .expectedValue
  | none => failAhead .eofValue

/-- The members of an object with `key` bound to `value`, replacing an earlier binding; keys
stay in byte order. -/
def bind (members : List (String × Value)) (key : String) (value : Value) :
    List (String × Value) :=
  let others := members.filter (·.1 != key)
  let before := others.filter fun (k, _) => compare k key == .lt
  let after := others.filter fun (k, _) => compare k key == .gt
  before ++ [(key, value)] ++ after

/-- Reads the members of an object (after its opening brace), each value with `value`. -/
def objectMembers (value : Scan Value) : Nat → Bool → List (String × Value) →
    Scan (List (String × Value))
  | 0, _, acc => return acc
  | fuel + 1, first, acc => do
    match ← nextKey first with
    | none => return acc
    | some key =>
      colon
      let v ← value
      objectMembers value fuel false (bind acc key v)

/-- Reads any value, arrays and objects nested at most `depth` deep. -/
def anyValue : Nat → Nat → Scan Value
  | 0, _ => fail .eofValue
  | fuel + 1, depth => placed do
    match ← peekValue with
    | none => failAhead .eofValue
    | some 110 => eat; word [117, 108, 108]; return .null
    | some 116 => eat; word [114, 117, 101]; return .bool true
    | some 102 => eat; word [97, 108, 115, 101]; return .bool false
    | some 45 => eat; return .number (← number false)
    | some 34 => eat; return .string (← string)
    | some 91 =>
      if depth ≤ 1 then failAhead .recursionLimitExceeded
      eat
      closing (do return .array (← elements (anyValue fuel (depth - 1)) (← bound) true [])) closeArray
    | some 123 =>
      if depth ≤ 1 then failAhead .recursionLimitExceeded
      eat
      closing (do return .object (← objectMembers (anyValue fuel (depth - 1)) (← bound) true []))
        closeObject
    | some b => if isDigit b then return .number (← number true) else failAhead .expectedValue

/-- Reads any value; objects keep one binding per key, the last, in key order. -/
def readValue : Scan Value := do anyValue (← bound) 128

/-- Reads a whole text as one value: nothing but whitespace may follow it. -/
def readAll (reader : Scan α) : Scan α := do
  let a ← reader
  match ← peekValue with
  | some _ => failAhead .trailingCharacters
  | none => return a

end Scan

/-- Runs a reader over a text. -/
def readText (reader : Scan α) (text : String) : Except JsonError α :=
  (Id.run ((Scan.readAll reader).run.run (Cursor.start text))).1

namespace Value

/-- A shape problem, without place. -/
def problem (p : Problem) : Except JsonError α := .error ⟨p, none⟩

/-- Reads a string. -/
def toStr : Value → Except JsonError String
  | .string s => .ok s
  | v => problem (.invalidType v.unexpected "a string")

/-- Reads a boolean. -/
def toBool : Value → Except JsonError Bool
  | .bool b => .ok b
  | v => problem (.invalidType v.unexpected "a boolean")

/-- Reads a list. -/
def toList (element : Value → Except JsonError α) : Value → Except JsonError (List α)
  | .array items => items.mapM element
  | v => problem (.invalidType v.unexpected "a sequence")

/-- Lifts the result of completing a record. -/
def ofProblem : Except Problem α → Except JsonError α
  | .ok a => .ok a
  | .error p => problem p

/-- Reads a record from an object or an array. -/
def toRecord (shape : RecordShape δ α) : Value → Except JsonError α
  | .object members => do
    let draft ← members.foldlM (fun draft (key, value) =>
      match shape.fields.idxOf? key with
      | some i => shape.readValue i draft value
      | none => .ok draft) shape.empty
    ofProblem (shape.fromObject draft)
  | .array items => do
    let draft ← (items.zip (List.range shape.fields.length)).foldlM
      (fun draft (value, i) => shape.readValue i draft value) shape.empty
    let record ← ofProblem (shape.fromArray draft)
    if items.length > shape.fields.length then
      problem (.invalidLength items.length "fewer elements in array")
    else .ok record
  | v => problem (.invalidType v.unexpected ("struct " ++ shape.name))

/-- Reads a variant of an enumeration without payload, returning its index. -/
def toVariant (variants : List String) : Value → Except JsonError Nat
  | .string name => match variants.idxOf? name with
    | some i => .ok i
    | none => problem (.unknownVariant name variants)
  | .object [(name, payload)] => match variants.idxOf? name with
    | some i => match payload with
      | .null => .ok i
      | v => problem (.invalidType v.unexpected "unit")
    | none => problem (.unknownVariant name variants)
  | .object _ => problem (.invalidValue .map "map with a single key")
  | v => problem (.invalidType v.unexpected "string or map")

end Value

end Localize.Json
