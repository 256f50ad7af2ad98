/-
  Decoding of records. A record is written as an object with its fields in any order, where unknown
  fields are ignored, or as an array of its fields in declaration order, where fields with a default
  may be left out at the end. Fields are decoded in the order in which they are written and the
  first wrong one is reported; only then is a missing field, the first in declaration order.
-/
import DialogueFlow.Decode.Basic

namespace DialogueFlow.Decode

/-- What becomes of an array with more items than the record has fields. -/
inductive Surplus where
  | refused
  /-- Refused, and the message tells how many items there should be. -/
  | counted
  | ignored
  deriving DecidableEq, Repr

/-- The written form of a record. -/
structure RecordForm (α : Type) where
  /-- What messages call the record. -/
  title : String
  /-- All fields in declaration order. -/
  names : List String
  /-- The fields without a default. -/
  required : List String
  /-- The record of defaults; a required field is overwritten whenever the record is accepted. -/
  blank : α
  /-- The record with the field of this name decoded. -/
  set : α → String → Json → Except DecodeError α

namespace RecordForm

variable {α : Type}

/-- Sets the known fields one by one; also their names. -/
def setAll (form : RecordForm α) :
    (seen : List String) → α → List (String × Json) → Except DecodeError (List String × α)
  | seen, record, [] => .ok (seen, record)
  | seen, record, (name, value) :: rest =>
    if name ∉ form.names then form.setAll seen record rest
    else if name ∈ seen then .error (.duplicateField name)
    else
      match form.set record name value with
      | .error e => .error e
      | .ok record => form.setAll (name :: seen) record rest

/-- How many elements the record has, in words. -/
def elements (form : RecordForm α) : String :=
  toString form.names.length ++ (if form.names.length = 1 then " element" else " elements")

/-- The record of an object's fields. -/
def ofFields (form : RecordForm α) (fields : List (String × Json)) : Except DecodeError α :=
  match form.setAll [] form.blank fields with
  | .error e => .error e
  | .ok (seen, record) =>
    match form.required.find? (· ∉ seen) with
    | some name => .error (.missingField name)
    | none => .ok record

/-- The record of an array's items. -/
def ofItems (form : RecordForm α) (surplus : Surplus) (items : List Json) :
    Except DecodeError α :=
  match form.setAll [] form.blank (form.names.zip items) with
  | .error e => .error e
  | .ok (seen, record) =>
    if form.required.any (· ∉ seen) then
      .error (.wrongLength items.length s!"{form.title} with {form.elements}")
    else if items.length ≤ form.names.length then .ok record
    else
      match surplus with
      | .refused => .error (.wrongLength items.length "fewer elements in array")
      | .counted => .error (.wrongLength items.length s!"{form.elements} in sequence")
      | .ignored => .ok record

/-- Decodes a record in either form. -/
def decode (form : RecordForm α) (surplus : Surplus) : Decoder α
  | .obj fields => form.ofFields fields
  | .arr items => form.ofItems surplus items
  | value => .error (.wrongKind value form.title)

end RecordForm

end DialogueFlow.Decode
