import ShellTemplate.Proofs.Command.Failing
import ShellTemplate.Proofs.Markup.Verbatim
import ShellTemplate.Proofs.Text.Single

/-! Which messages are reported as they are. The message of a failure is escaped, and so it is reported as it
is unless there is something in it that the escape does not keep. -/
namespace ShellTemplate

/-- A printed line is the only one if it ends only once. -/
lemma Help.printed_eq_line {ls : List Text} {l : Text} (hl : ('\n' : CodePoint) ∉ l)
    (h : printed ls = l ++ (['\n'] : Text)) :
    ls = [l] := by
  have hcount : ∀ ls : List Text, ls.length ≤ (printed ls).count ('\n' : CodePoint) := by
    intro ls
    induction ls with
    | nil => exact Nat.le_refl 0
    | cons a ls ih =>
      have ha : printed (a :: ls) = a ++ (['\n'] : Text) ++ printed ls := List.flatMap_cons
      rw [ha,List.count_append,List.count_append,List.count_singleton_self,List.length_cons]
      omega
  have hone := hcount ls
  rw [h,List.count_append,List.count_eq_zero.2 hl,List.count_singleton_self] at hone
  match ls,hone with
  | [],_ => exact absurd (congrArg List.length h) (by simp [printed])
  | [a],_ =>
    have ha : a ++ (['\n'] : Text) = l ++ (['\n'] : Text) := by simpa [printed] using h
    rw [List.append_cancel_right ha]

namespace Text

lemma isPrintable_ge {c : CodePoint} (h : isPrintable c) : 0x20 ≤ c.toNat := by
  unfold isPrintable at h
  split at h
  · simp only [Bool.and_eq_true,decide_eq_true_eq] at h
    exact h.1
  · omega

end Text

namespace Command
open Markup Help

/-- What is reported of any message. -/
lemma errorLine_eq (c : Console) (message : Text) : errorLine c message = .ok (c.laid (Text.wrap c.width
    ("Error: ".toText ++ (spelled message).filter fun d => !isControl d))) := by
  have hl : IsPlain "Error:".toText := ⟨List.all_eq_true.1 (by decide),by decide,by decide,by decide⟩
  have hshown : (plainShown "Error:".toText ++ (' ' :: spelled message : Text)).filter
      (fun d => !isControl d) =
      "Error: ".toText ++ (spelled message).filter fun d => !isControl d := by
    have hcontrols : "Error: ".toText.filter (fun d => !isControl d) = "Error: ".toText := by decide
    have hlabel : "Error: ".toText = "Error:".toText ++ ([' '] : Text) := by decide
    rw [hl.literal.plainShown_eq,← List.singleton_append,← List.append_assoc,← hlabel,List.filter_append,
      hcontrols]
  rw [errorLine,errorLine_tagged,tagged_append,render_escaped isStyle_red (by decide) c.evaluate,hshown]
  rfl

/-- A line of its own that is not wrapped is there to be printed. -/
lemma laid_label {c : Console} {message : Text}
    (hfits : Text.wrap c.width ("Error: ".toText ++ message) = ["Error: ".toText ++ message])
    (ls : List Text) :
    c.laid ls = printed ls := by
  refine if_neg fun hzero => ?_
  rw [hzero] at hfits
  have hcells := Text.cells_of_wrap_zero hfits
  have hlabel : Text.cells "Error: ".toText = 7 := Text.cells_ascii (List.all_eq_true.1 (by decide))
  rw [Text.cells_append,hlabel] at hcells
  omega

lemma isControl_lt {c : CodePoint} (h : isControl c) : c.toNat < 0x20 := by
  simp [isControl] at h
  omega

lemma isSign_ge {c : CodePoint} (h : isSign c) : 0x20 ≤ c.toNat := by
  simp only [isSign,Bool.or_eq_true,decide_eq_true_eq] at h
  obtain rfl | rfl := h <;> decide

/-- No control is a sign. -/
lemma signs_filter (t : Text) : signs (t.filter fun c => !isControl c) = signs t := by
  induction t with
  | nil => rfl
  | cons c t ih =>
    rw [List.filter_cons]
    split
    · rw [signs_cons,signs_cons,ih]
    · rename_i hc
      have hlt := isControl_lt (by simpa using hc)
      have hsign : isSign c = false := Bool.eq_false_iff.2 fun h => by
        have hge := isSign_ge h
        omega
      rw [ih,signs_cons,hsign]
      rfl

section
variable {c : Console} {message : Text}

/-- A message of printable characters that is not wrapped behind its label is reported as it is just if an
escape keeps it. -/
theorem errorLine_verbatim_iff (hprintable : ∀ c ∈ message, Text.isPrintable c)
    (hfits : Text.wrap c.width ("Error: ".toText ++ message) = ["Error: ".toText ++ message]) :
    errorLine c message = .ok ("Error: ".toText ++ message ++ (['\n'] : Text)) ↔ Verbatim message := by
  have hge : ∀ c ∈ message, 0x20 ≤ c.toNat := fun c hc => Text.isPrintable_ge (hprintable c hc)
  have hlabel : ∀ c ∈ "Error: ".toText, Text.isPrintableAscii c := List.all_eq_true.1 (by decide)
  have hfeed : ('\n' : CodePoint) ∉ "Error: ".toText ++ message := by
    intro hm
    obtain hm | hm := List.mem_append.1 hm
    · exact absurd (hlabel _ hm) (by decide)
    · exact absurd (hge _ hm) (by decide)
  rw [errorLine_eq,laid_label hfits]
  constructor
  · intro h
    have hone := printed_eq_line hfeed (Except.ok.inj h)
    have hsigns := Text.countP_wrap (p := isSign) (by decide) (by decide) hone
    cases hend : endsWithBackslash message with
    | false =>
      refine (spelled_cases hend).resolve_right fun hlt => ?_
      have h1 : signs ("Error: ".toText ++ message) ≤
          signs ("Error: ".toText ++ (spelled message).filter fun c => !isControl c) := hsigns
      rw [signs_append,signs_append,signs_filter] at h1
      omega
    | true =>
      -- the report would end with two backslashes
      obtain ⟨u,hu⟩ := spelled_doubled hend
      have hpair : (['\\','\\'] : Text).filter (fun c => !isControl c) =
          (['\\'] : Text) ++ (['\\'] : Text) := by
        decide
      rw [hu,List.filter_append,hpair,← List.append_assoc] at hone
      obtain ⟨v,hv⟩ := Text.wrap_end (u := ['\\']) (by decide) (by decide) (by decide) hone
      obtain rfl | ⟨x,c,rfl⟩ := message.eq_nil_or_concat'
      · cases hend
      · rw [endsWithBackslash_concat,Bool.and_eq_true,beq_iff_eq,bne_iff_ne] at hend
        rw [← List.append_assoc,← List.append_assoc] at hv
        have hlast := congrArg List.getLast? (List.append_inj' hv rfl).1
        have hblank : "Error: ".toText.getLast? = some (' ' : CodePoint) := by decide
        rw [List.getLast?_append,List.getLast?_concat,hblank] at hlast
        cases hx : x.getLast? with
        | none => rw [hx] at hlast; cases hlast
        | some d => exact absurd (hx ▸ hlast) hend.2
  · intro h
    have hfilter : message.filter (fun c => !isControl c) = message := by
      refine List.filter_eq_self.2 fun c hc => ?_
      rw [Bool.not_eq_true',Bool.eq_false_iff]
      exact fun h => absurd (isControl_lt h) (Nat.not_lt.2 (hge c hc))
    rw [h.spelled_eq,hfilter,hfits]
    simp [printed]

end

/-- What stands on the error output after a request fails. -/
lemma Request.Fails.errors_eq {w : World} {access : Access} {r : Request} {reason : Reason}
    (h : r.Fails w access reason) (hd : reason.isDepth = false) :
    errorLine w.shown reason.message = .ok (r.run w access).errors := by
  obtain ⟨ns,line,hline,he,-⟩ := h.reported hd
  rw [hline,he]
  simp [Outcome.errors]

/-- A run whose request fails ends with 1, and on the error output stands what is shown of the escaped message
in the width of the output, unless the failure escapes. If the message is one line of printable characters
that is not wrapped there, the line is the message as it is just if no emoji stands for a code in it, no
backslash in it stands before an opening bracket but for a tag, and it does not end with exactly one
backslash. -/
theorem failure_reported_verbatim {w : World} {access : Access} {args : List Text} {r : Request}
    {reason : Reason} (hread : Request.read w.files args = .ok r) (hfails : r.Fails w access reason)
    (hprintable : ∀ c ∈ reason.message, Text.isPrintable c)
    (hfits : Text.wrap w.shown.width ("Error: ".toText ++ reason.message) =
      ["Error: ".toText ++ reason.message]) :
    let o := runWith w access args
    o.exit = 1 ∧
    (reason.isDepth = false → o.errors = printed (Text.wrap w.shown.width
      ("Error: ".toText ++ (spelled reason.message).filter fun c => !isControl c))) ∧
    (o.errors = "Error: ".toText ++ reason.message ++ (['\n'] : Text) ↔
      reason.isDepth = false ∧ Verbatim reason.message) := by
  intro o
  have ho : o = r.run w access := by simp only [o,runWith,hread]
  rw [ho]
  refine ⟨hfails.exit_eq,fun hd => ?_,?_⟩
  · rw [← laid_label hfits]
    exact (Except.ok.inj ((errorLine_eq _ _).symm.trans (hfails.errors_eq hd))).symm
  · cases hd : reason.isDepth with
    | true =>
      have hrun := hfails.run_eq
      rw [if_pos hd] at hrun
      rw [hrun]
      simp [Outcome.errors,Outcome.crashed]
    | false =>
      rw [← errorLine_verbatim_iff hprintable hfits,hfails.errors_eq hd,Except.ok.injEq]
      exact (and_iff_right rfl).symm

/-- A message with a tag and a backslash in it, which are kept. -/
theorem tag_reported :
    let w : World := { bare with files := FileTree.empty.look }
    let args := ["--vars-file".toText,"[b]a\\b".toText,"x".toText]
    let reason : Reason := .properties (.notFound "[b]a\\b".toText)
    (∀ c ∈ reason.message, Text.isPrintable c) ∧
    Text.wrap w.shown.width ("Error: ".toText ++ reason.message) = ["Error: ".toText ++ reason.message] ∧
    (run w .usual args).exit = 1 ∧
    (run w .usual args).errors = "Error: Variables file not found: [b]a\\b\n".toText := by
  intro w args reason
  have hprintable : ∀ c ∈ reason.message, Text.isPrintable c := List.all_eq_true.1 (by decide)
  have hascii : ∀ c ∈ "Error: ".toText ++ reason.message, Text.isPrintableAscii c :=
    List.all_eq_true.1 (by decide)
  have hlength : ("Error: ".toText ++ reason.message).length ≤ 80 := by decide
  have hfits := Text.wrap_of_fits 80 (by decide) (by decide) hlength
    ((Text.cells_ascii hascii).le.trans hlength)
  have hfails : Request.Fails w (Lookups.usual.access w)
      { template := some ['x'], varsFile := some "[b]a\\b".toText } reason := .properties rfl rfl
  have hread : Request.read w.files args = .ok _ := rfl
  obtain ⟨hexit,-,hiff⟩ := failure_reported_verbatim hread hfails hprintable hfits
  have hmark : nextMark? reason.message =
      some (⟨"Variables file not found: ".toText,0,['b']⟩,"a\\b".toText) := by decide
  have hstretches : stretches reason.message =
      ["Variables file not found: ".toText,"[b]".toText,"a\\b".toText] := by
    rw [stretches,marks_of_some hmark,marks_of_none (by decide)]
    decide
  have hverbatim : Verbatim reason.message := by
    refine ⟨fun u hu => ⟨fun code hcode => ?_,?_⟩,by decide⟩
    · have hcolon : ∀ u ∈ stretches reason.message, u.count (':' : CodePoint) ≤ 1 := by
        rw [hstretches]
        decide
      rw [Emoji.codes_of_oneColon (hcolon u hu)] at hcode
      cases hcode
    · rw [hstretches] at hu
      revert u
      decide
  refine ⟨hprintable,hfits,hexit,(hiff.2 ⟨rfl,hverbatim⟩).trans ?_⟩
  decide

/-- A path with a backslash before a bracket that begins no tag: the backslash is lost. -/
theorem backslash_lost :
    let w : World := { bare with files := FileTree.empty.look }
    let o := run w .usual ["--vars-file".toText,"\\[1]".toText,"x".toText]
    o.exit = 1 ∧ o.errors = "Error: Variables file not found: [1]\n".toText := by
  intro w o
  let reason : Reason := .properties (.notFound "\\[1]".toText)
  have hfails : Request.Fails w (Lookups.usual.access w)
      { template := some ['x'], varsFile := some "\\[1]".toText } reason := .properties rfl rfl
  have ho : o = Request.run w (Lookups.usual.access w)
    { template := some ['x'], varsFile := some "\\[1]".toText } := rfl
  have hmarks : marks reason.message = ([],reason.message) := marks_of_none (by decide)
  have hspelled : spelled reason.message = "Variables file not found: [1]".toText := by
    have hend : endsWithBackslash reason.message = false := by decide
    have hdrop : dropEscapes reason.message = "Variables file not found: [1]".toText := by decide
    simp only [spelled,hmarks,hend,List.flatMap_nil,List.nil_append,List.append_nil,
      Bool.false_eq_true,if_false,plainShown,hdrop]
    refine Emoji.replace_of_unknown fun code hcode => ?_
    rw [Emoji.codes_of_oneColon (by decide)] at hcode
    cases hcode
  have hascii : ∀ c ∈ "Error: Variables file not found: [1]".toText, Text.isPrintableAscii c :=
    List.all_eq_true.1 (by decide)
  have hfits : "Error: Variables file not found: [1]".toText.length ≤ 80 := by decide
  have hshown : "Error: ".toText ++ (spelled reason.message).filter (fun c => !isControl c) =
      "Error: Variables file not found: [1]".toText := by
    rw [hspelled]
    decide
  have hwrap : Text.wrap w.shown.width "Error: Variables file not found: [1]".toText =
      ["Error: Variables file not found: [1]".toText] :=
    Text.wrap_of_fits 80 (by decide) (by decide) hfits ((Text.cells_ascii hascii).le.trans hfits)
  have herror := hfails.errors_eq rfl
  rw [errorLine_eq,hshown,hwrap] at herror
  exact ⟨ho ▸ hfails.exit_eq,ho ▸ (Except.ok.inj herror).symm⟩

end Command
end ShellTemplate
