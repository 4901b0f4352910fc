import ShellTemplate.Proofs.Command.Result
import ShellTemplate.Proofs.Properties.Depth

/-! How the command fails. Wrong use ends a run before anything is done; whatever goes wrong after that is
noted, reported and ends it with nothing printed. Some failures escape without a report: variables that nest
too deeply, and characters that the system has no bytes for, in what is printed or in the name of a file. -/
namespace ShellTemplate

namespace Command

namespace Request.Fails
variable {w : World} {access : Access} {r : Request} {reason : Reason}

/-- A request that fails notes its reason last and then reports it. -/
lemma reported (h : r.Fails w access reason) (hd : reason.isDepth = false) :
    ∃ (ns : List Notice) (line : Text), errorLine w.shown reason.message = .ok line ∧
      r.run w access = { exit := 1, events := ns.map .notice ++ [.notice reason.notice,.error line] } ∧
      ∀ quiet, Notice.logged quiet (r.run w access).notices =
        if quiet then [] else ns.map Notice.text ++ [reason.notice.text] := by
  have hrun := h.run_eq
  rw [if_neg (Bool.eq_false_iff.1 hd)] at hrun
  obtain ⟨ns,hrun⟩ := hrun
  obtain ⟨line,hline,hfailed⟩ := Outcome.failed_eq w.shown reason.message (ns ++ [reason.notice])
  have he : r.run w access =
      { exit := 1, events := ns.map .notice ++ [.notice reason.notice,.error line] } := by
    rw [hrun,hfailed]
    simp
  refine ⟨ns,line,hline,he,fun quiet => ?_⟩
  rw [hrun,Outcome.notices_failed,Notice.logged,List.map_append]
  rfl

/-- A request that fails because its variables nest too deeply ends there. -/
lemma tooDeep (h : r.Fails w access reason) (hd : reason.isDepth = true) :
    r.run w access = .crashed (.tooDeep reason.message) [] := by
  have hrun := h.run_eq
  rwa [if_pos hd] at hrun

end Request.Fails

/-- The failures that escape without a report, as messages of their own: the variables nest too deeply, there
are no bytes for a character of the expansion or of the help, or none for a path. -/
inductive Escapes (w : World) (access : Access) (args : List Text) : Crash → Prop
  | tooDeep {r reason} : Request.read w.files args = .ok r → r.Fails w access reason → reason.isDepth = true →
      Escapes w access args (.tooDeep reason.message)
  | unprinted {r text u} : Request.read w.files args = .ok r → r.Expands w access text →
      w.codec.fault? (w.printed text) = some u → Escapes w access args (.unencodable u)
  | unshown {ns t f} : Request.read w.files args = .error .help → Help.Composes w.shown help ns t →
      w.codec.fault? t ≠ none → (Help.shown w.shown w.codec (some help)).result = .error f →
      Escapes w access args (.unshown f)
  | unnamed {path u} : Request.read w.files args = .error (.malformed path) → w.names.fault? path = some u →
      Escapes w access args (.unencodable u)

variable {w : World} {access : Access} {args : List Text}

/-- A failure that escapes ends the run and leaves nothing printed. -/
lemma Escapes.run_eq {c : Crash} (h : Escapes w access args c) :
    ∃ ns, runWith w access args = .crashed c ns := by
  cases h with
  | tooDeep hr hfails hd => exact ⟨[],by simp only [runWith,hr,hfails.tooDeep hd]⟩
  | unprinted hr hexpands hu =>
    obtain ⟨t,properties,ns,ask,ht,hp,ha,hout⟩ := hexpands
    simp only [runWith,hr]
    rw [Request.run_done ht hp ha hout,Outcome.written,hu]
    exact ⟨_,rfl⟩
  | unshown hr _ _ hf =>
    refine ⟨(Help.shown w.shown w.codec (some help)).notices,?_⟩
    simp only [runWith,hr,helpRun,hf]
  | unnamed hr hu => exact ⟨[],by simp only [runWith,hr,Crash.ofPath,hu]⟩

lemma Escapes.ends {c : Crash} (h : Escapes w access args c) : (runWith w access args).exit = 1 ∧
    (runWith w access args).output = [] ∧ (runWith w access args).crash = some c := by
  obtain ⟨ns,hrun⟩ := h.run_eq
  rw [hrun]
  exact ⟨rfl,Outcome.output_crashed c ns,rfl⟩

end Command
end ShellTemplate
