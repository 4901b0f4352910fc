import ShellTemplate.Command.Request
import ShellTemplate.Proofs.Command.Arguments
import ShellTemplate.Proofs.Properties.Items

/-! The request that arguments make. Each option is settled by its own values and touches its own field,
so the request says of every option what its last value says; and arguments that make none are refused
for a reason that stands in them. -/
namespace ShellTemplate.Command

lemma openFile_ok {files : Files} {path : Text} {f : TemplateFile} (hp : path ≠ (['-'] : Text))
    (h : openFile files path = .ok f) : ∃ bytes, files path = .file bytes ∧ f = .bytes bytes := by
  rw [openFile,if_neg hp] at h
  split at h <;> cases h
  exact ⟨_,‹_›,rfl⟩

namespace Request

/-- The field of an option is what the values of the option say. -/
def Settled (files : Files) (a : Arguments) (r : Request) : Valued → Prop
  | .file => ∃ f, openFile files ((a.values .file).getLastD []) = .ok f ∧ r.file = some f
  | .var => Properties.ofItems (a.values .var) = .ok r.assigned
  | .varsFile => r.varsFile = some (Path.plain ((a.values .varsFile).getLastD []))
  | .source => Origin.ofWord? ((a.values .source).getLastD []) = some r.origin

/-- Two requests have the same in the field of an option. -/
def Agrees (r q : Request) : Valued → Prop
  | .file => r.file = q.file
  | .var => r.assigned = q.assigned
  | .varsFile => r.varsFile = q.varsFile
  | .source => r.origin = q.origin

/-- What no option with a value sets. -/
def rest (r : Request) : Option Text × Option Bool × Option Bool × Option Bool :=
  (r.template,r.sh,r.defaults,r.dos)

lemma Agrees.trans {r q p : Request} {v : Valued} (h : r.Agrees q v) (h' : q.Agrees p v) :
    r.Agrees p v := by
  cases v <;> exact Eq.trans h h'

lemma Agrees.settled {files : Files} {a : Arguments} {r q : Request} {v : Valued}
    (h : r.Agrees q v) (hq : q.Settled files a v) : r.Settled files a v := by
  cases v <;> simp_all [Agrees,Settled]

end Request

/-- A request says what the arguments say: of an option with one value the last, of variables all, and
what is usual of an option that is not there. -/
structure Request.Says (files : Files) (a : Arguments) (r : Request) : Prop where
  asksNothing : a.question? = none
  template : a.operands = r.template.toList
  file : match (a.values .file).getLast? with
    | some path => ∃ f, openFile files path = .ok f ∧ r.file = some f
    | none => r.file = none
  assigned : Properties.ofItems (a.values .var) = .ok r.assigned
  varsFile : r.varsFile = (a.values .varsFile).getLast?.map Path.plain
  origin : r.origin.word = (a.values .source).getLastD Origin.combined.word
  sh : r.sh = a.switch? .sh
  defaults : r.defaults = a.switch? .defaults
  dos : r.dos = a.switch? .dos

namespace Request

/-- The request in which only the switches are set. -/
def start (a : Arguments) : Request :=
  { sh := a.switch? .sh, defaults := a.switch? .defaults, dos := a.switch? .dos }

end Request
end ShellTemplate.Command
