import ShellTemplate.Proofs.Command.Alike
import ShellTemplate.Proofs.Command.Result
import ShellTemplate.Proofs.Properties.Depth
import ShellTemplate.Proofs.Text.Encoding

/-! The ways a template can come: as an argument, in a file that is named, and on the standard input with
or without a hyphen for it. The same text by each of them makes the same run, and what comes by a way that
is not used makes no difference. -/
namespace ShellTemplate.Command

/-- Uses that name no file for the template. -/
def NoFile (us : List Use) : Prop := ∀ path, .valued .file path ∉ us

lemma NoFile.values {us : List Use} (h : NoFile us) (operands : List Text) :
    (⟨us,operands⟩ : Arguments).values .file = [] :=
  List.eq_nil_iff_forall_not_mem.2 fun path hp => h path (Arguments.mem_values.1 hp)

lemma NoFile.append {us vs : List Use} (hus : NoFile us) (hvs : NoFile vs) : NoFile (us ++ vs) :=
  fun path hp => (List.mem_append.1 hp).elim (hus path) (hvs path)

lemma NoFile.filter {us : List Use} (h : NoFile us) :
    us.filter (fun u => u.valued? ≠ some .file) = us := by
  refine List.filter_eq_self.2 fun u hu => decide_eq_true ?_
  cases u with
  | flag => simp [Use.valued?]
  | valued v path =>
    rintro hv
    obtain rfl : v = .file := Option.some.inj hv
    exact h path hu

section Between
variable {us vs : List Use} (hus : NoFile us) (hvs : NoFile vs) (path : Text) (operands : List Text)
include hus hvs

end Between

section
variable {w : World} {opts more : List Text} {x y : Except Misspelling (List Use)}
  (hopts : Spelled opts x) (hxno : ∀ us, x = .ok us → NoFile us)
  (hmore : Spelled more y) (hyno : ∀ us, y = .ok us → NoFile us) (access : Access)
include hopts hxno hmore hyno

end

end ShellTemplate.Command
