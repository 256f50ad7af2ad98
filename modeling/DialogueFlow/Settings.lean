/-
  The settings of the executor: the ceiling of a turn, and whether the built-in patterns join the
  catalog. What is left out has its default.
-/
import DialogueFlow.Turn

namespace DialogueFlow

structure Settings where
  /-- The most iterations of a turn. -/
  ceiling : Nat
  addsPatterns : Bool
  deriving DecidableEq, Repr

namespace Settings

/-- The settings without a file. -/
def default : Settings := ⟨Turn.defaultCeiling, true⟩

/-- A whole number of 64 bits without a sign. -/
def natural : Decoder Nat
  | .int n =>
    if 0 ≤ n ∧ n < 2 ^ 64 then .ok n.toNat else .error (.wrongValue (.int n) "a natural number")
  | value => .error (.wrongKind value "a natural number")

/-- The written form of settings. -/
def form : Decode.RecordForm Settings where
  title := "struct RuntimeConfig"
  names := ["max_steps", "include_default_patterns"]
  required := []
  blank := default
  set := fun settings name value =>
    if name = "max_steps" then (natural value).map fun ceiling => { settings with ceiling }
    else (Decode.truth value).map fun addsPatterns => { settings with addsPatterns }

/-- Reads settings. -/
def decode : Decoder Settings := form.decode .ignored

/-- The settings as an object. -/
def toJson (settings : Settings) : Json :=
  .obj [("max_steps", .int settings.ceiling),
    ("include_default_patterns", .bool settings.addsPatterns)]

/-- The catalog with the patterns, if the settings add them. -/
def catalog (settings : Settings) (catalog : Catalog) : Catalog :=
  if settings.addsPatterns then Pattern.addTo catalog else catalog

end Settings

end DialogueFlow
