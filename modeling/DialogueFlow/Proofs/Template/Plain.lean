/-
  Plain texts: without braces and line breaks a text has no marker, so it is rendered as it stands.
  `Services.Verbatim` asks this of services; those of the program keep to it (`verbatim_services`).
-/
import DialogueFlow.Templated
import Mathlib.Tactic.Common

namespace DialogueFlow

/-- A text without opening braces and line breaks. -/
def Text.IsPlain (text : String) : Prop := ∀ c ∈ text.toList, c ≠ '\x7b' ∧ c ≠ '\n' ∧ c ≠ '\r'

instance : DecidablePred Text.IsPlain := fun text => List.decidableBAll
  (fun c => c ≠ '\x7b' ∧ c ≠ '\n' ∧ c ≠ '\r') text.toList

/-- Plain texts are rendered as they stand. -/
def Services.Verbatim (services : Services) : Prop :=
  ∀ asked text root, Text.IsPlain text → services.evaluator.render asked text root = .ok text

theorem Services.Verbatim.builtIn {services : Services} (h : services.Verbatim) {name : String}
    (hname : name ∈ Domain.builtIn) (asked : List Question) (root : Json) :
    services.evaluator.render asked name root = .ok name := by
  have hplain : ∀ name ∈ Domain.builtIn, Text.IsPlain name := by decide +kernel
  exact h asked name root (hplain name hname)

namespace Template

theorem untilMarker_plain {cs : List Char} (h : ∀ c ∈ cs, c ≠ '\x7b') :
    Token.untilMarker cs = (cs, none) := by
  induction cs with
  | nil => rfl
  | cons c rest ih =>
    rw [List.forall_mem_cons] at h
    rw [Token.untilMarker, ih h.2]
    rintro _ _ hbrace
    exact absurd hbrace h.1

theorem dropLastBreak_plain {cs : List Char} (h : ∀ c ∈ cs, c ≠ '\n' ∧ c ≠ '\r') :
    Token.dropLastBreak cs = cs := by
  have hkept : ∀ c, c = '\n' ∨ c = '\r' → cs.getLast? ≠ some c := by
    rintro c hbreak hlast
    have hmem := h c (List.mem_of_getLast? hlast)
    tauto
  unfold Token.dropLastBreak
  simp only [if_neg (hkept '\n' (Or.inl rfl)), if_neg (hkept '\r' (Or.inr rfl))]

theorem ofTemplate_plain {source : String} (h : Text.IsPlain source) :
    Token.ofTemplate source = .ok (Token.ofText source.toList) := by
  have hdrop : Token.dropLastBreak source.toList = source.toList :=
    dropLastBreak_plain fun c hc => (h c hc).2
  have huntil : Token.untilMarker source.toList = (source.toList, none) :=
    untilMarker_plain fun c hc => (h c hc).1
  unfold Token.ofTemplate
  rw [hdrop]
  simp only [Token.scan, Bool.false_eq_true, if_false, huntil]

theorem readBody_nil (fuel room : Nat) :
    Reader.readBody (fuel + 1) [] room [] = .ok (([], none), []) := by
  rw [Reader.readBody]
  rfl

theorem readBody_text (fuel room : Nat) (text : String) :
    Reader.readBody (fuel + 2) [] room [.text text] = .ok (([.literal text], none), []) := by
  rw [Reader.readBody, readBody_nil]
  rfl

theorem ofText?_plain {source : String} (h : Text.IsPlain source) :
    Statement.ofText? source =
      .ok (if source.toList.isEmpty then [] else [.literal source]) := by
  unfold Statement.ofText?
  rw [ofTemplate_plain h]
  unfold Token.ofText
  split
  · show (Reader.readBody (39 + 1) [] Reader.levelLimit [] >>= _) = _
    rw [readBody_nil]
    rfl
  · rw [String.ofList_toList]
    show (Reader.readBody (58 + 2) [] Reader.levelLimit [.text source] >>= _) = _
    rw [readBody_text]
    rfl

theorem render_plain {source : String} (h : Text.IsPlain source) (root : Json) :
    render source root = .ok source := by
  unfold render
  rw [ofText?_plain h]
  split
  · rename_i hempty
    obtain rfl : source = "" := by simpa using hempty
    rfl
  · show Except.ok (source ++ "") = _
    rw [String.append_empty]

end Template

/-- The services that come with the program render plain texts as they stand. -/
theorem Templated.verbatim_services : services.Verbatim := by
  intro asked text root hplain
  show (Template.render text root).mapError Template.Failure.message = .ok text
  rw [Template.render_plain hplain]
  rfl

end DialogueFlow
