/-
  Decoding of values of several variants that carry the variant's name: as one field of an object,
  or as the first item of an array.
-/
import DialogueFlow.Decode.Record

namespace DialogueFlow.Decode

variable {α : Type}

/-- The variants of a type: each name with the decoder of the other fields or items. -/
abbrev Variants (α : Type) := List (String × Decoder α)

/-- The variant of this name. -/
def Variants.named (variants : Variants α) (name : String) : Except DecodeError (Decoder α) :=
  match variants.lookup name with
  | some decode => .ok decode
  | none => .error (.unknownVariant name (variants.map (·.1)))

/-- The variant that a tag names. -/
def Variants.byName (variants : Variants α) : Json → Except DecodeError (Decoder α)
  | .str name => variants.named name
  | value => .error (.wrongKind value "variant identifier")

/-- The variant that a tag names, or counts from zero. -/
def Variants.byNameOrIndex (variants : Variants α) : Json → Except DecodeError (Decoder α)
  | .int n =>
    if n < 0 then .error (.wrongKind (.int n) "variant identifier")
    else
      match variants[n.toNat]? with
      | some variant => .ok variant.2
      | none => .error (.wrongValue (.int n) s!"variant index 0 <= i < {variants.length}")
  | value => variants.byName value

/-- Decodes the fields of an object that carries its variant in the field `tag`. -/
def taggedFields (tag : String) (variant : Json → Except DecodeError (Decoder α))
    (fields : List (String × Json)) : Except DecodeError α :=
  match fields.filter (·.1 = tag) with
  | [] => .error (.missingField tag)
  | (_, name) :: more =>
    match variant name with
    | .error e => .error e
    | .ok decode =>
      if more = [] then decode (.obj (fields.filter (·.1 ≠ tag)))
      else .error (.duplicateField tag)

/-- Decodes a value that carries its variant. -/
def tagged (title tag : String) (variant : Json → Except DecodeError (Decoder α)) : Decoder α
  | .obj fields => taggedFields tag variant fields
  | .arr [] => .error (.missingField tag)
  | .arr (name :: items) =>
    match variant name with
    | .error e => .error e
    | .ok decode => decode (.arr items)
  | value => .error (.wrongKind value s!"internally tagged enum {title}")

end DialogueFlow.Decode
