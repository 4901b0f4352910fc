import Mathlib.Data.List.Basic
import Mathlib.Tactic.Lemma
import ShellTemplate.Command.Option

/-! How arguments are read. Options that are complete are read alike whatever comes after them, every
value of an option is the end of an argument, and the options that have values are settled once each, in
an order that those of one kind can be left out of. -/
namespace ShellTemplate

lemma map_eq_ok {ε α β : Type} {x : Except ε α} {f : α → β} {b : β} :
    x.map f = .ok b ↔ ∃ a, x = .ok a ∧ f a = b := by
  cases x <;> simp [Except.map]

namespace Command

/-- Arguments that are options with their values and nothing else, and what is read in them. It does not
matter what comes after one that is misspelled. -/
inductive Spelled : List Text → Except Misspelling (List Use) → Prop
  | nil : Spelled [] (.ok [])
  | closed {a as us x} : a ≠ "--".toText → holdsOptions a → readOptions a = .ok (us,none) →
      Spelled as x → Spelled (a :: as) (x.map (us ++ ·))
  | valued {a value as us w x} : a ≠ "--".toText → holdsOptions a →
      readOptions a = .ok (us,some w) → Spelled as x →
      Spelled (a :: value :: as) (x.map fun vs => us ++ .valued w.option value :: vs)
  | misspelled {a as e} : a ≠ "--".toText → holdsOptions a → readOptions a = .error e →
      Spelled (a :: as) (.error e)

namespace Arguments

lemma mem_values {a : Arguments} {v : Valued} {value : Text} :
    value ∈ a.values v ↔ .valued v value ∈ a.uses := by
  rw [values,List.mem_filterMap]
  constructor
  · rintro ⟨u,hu,h⟩
    split at h
    · split at h
      · rename_i hw
        cases h
        exact hw ▸ hu
      · cases h
    · cases h
  · intro h
    exact ⟨_,h,by simp⟩

end Arguments

/-- The option that a use gives a value to. -/
def Use.valued? : Use → Option Valued
  | .valued v _ => some v
  | .flag _ => none

namespace Arguments

section
variable {p : Valued → Bool} (a : Arguments)

end

end Arguments
end Command
end ShellTemplate
