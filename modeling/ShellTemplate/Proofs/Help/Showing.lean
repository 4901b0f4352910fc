import ShellTemplate.Help.Panel
import ShellTemplate.Proofs.Markup.Stray
import ShellTemplate.Proofs.Text.Newlines

/-! Help that is shown, and help that is not. A help text whose tags cannot be shown is reported, and the
report quotes a tag that closes nothing, which then closes nothing in the report as well. -/
namespace ShellTemplate

/-- The same fault in another place. -/
def Markup.Fault.placed (position : Nat) : Fault → Fault
  | .unmatched tag _ => .unmatched tag position
  | .nothingToClose _ => .nothingToClose position
  | f => f

namespace Help
open Markup

variable {c : Console} {k : Text.Codec} {help : Option Text}

lemma report_eq (message : Text) :
    report message = tagged "bold red".toText "Help rendering error:".toText ++ (' ' :: message : Text) := by
  have hlabel : "[bold red]Help rendering error:[/bold red] ".toText =
      tagged "bold red".toText "Help rendering error:".toText ++ ([' '] : Text) := by decide +kernel
  rw [report,hlabel,List.append_assoc,List.singleton_append]

/-- A message without an opening bracket can be reported anywhere. -/
lemma exists_line_report (c : Console) {message : Text} (h : ('[' : CodePoint) ∉ message) :
    ∃ t, line c (report message) = .ok t := by
  have hmarks : marks (' ' :: message : Text) = ([],(' ' :: message : Text)) :=
    marks_of_bracketless fun hm => (List.mem_cons.1 hm).elim (by decide) h
  have hlabel : untagged "Help rendering error:".toText := by decide
  have hmessage : Shows (' ' :: message) := fun _ _ _ => ⟨[],by rw [hmarks]; rfl⟩
  have hshows : Shows (report message) := by
    rw [report_eq]
    exact shows_tagged isStyle_red _ hlabel hmessage
  have htags : ∀ m ∈ (marks (report message)).1, isPlainStyle m.tag := by
    rw [report_eq,tagged_append,isStyle_red.marks_around hlabel,hmarks]
    have hstyle : isPlainStyle "bold red".toText ∧ isPlainStyle ('/' :: "bold red".toText) := by
      decide +kernel
    simpa using hstyle
  obtain ⟨s,hs⟩ := hshows.render c.evaluate
  obtain ⟨t,ht⟩ := c.draw_plain (report message) (c.laid (Text.wrap c.width s)) htags
  refine ⟨t,?_⟩
  simp only [line,Console.drawn,hs,ht]
  rfl

/-- Where the tag stands that the report of a fault quotes. -/
def quotedAt : Nat := 56

lemma message_unmatched (tag : Text) (position : Nat) : (Fault.unmatched tag position).message =
    "closing tag '".toText ++ ('[' :: (tag ++ (']' :: ("' at position ".toText ++
      (Text.ofNat position ++ " doesn't match any open tag".toText)) : Text)) : Text) := by
  have hquote : "closing tag '[".toText = "closing tag '".toText ++ (['['] : Text) := by decide
  have hend : "]' at position ".toText = (']' :: "' at position ".toText : Text) := by decide
  simp [Fault.message,hquote,hend]

lemma message_nothingToClose (position : Nat) : (Fault.nothingToClose position).message =
    "closing tag '".toText ++ ('[' :: ((['/'] : Text) ++ (']' :: ("' at position ".toText ++
      (Text.ofNat position ++ " has nothing to close".toText)) : Text)) : Text) := by
  have hquote : "closing tag '[/]' at position ".toText =
      "closing tag '".toText ++ (['[','/',']'] : Text) ++ "' at position ".toText := by decide
  simp [Fault.message,hquote]

/-- A quoted tag that closes nothing where no style is open closes nothing in a report. -/
lemma line_report_quoted {message tag : Text} {g : Fault}
    (hread : ∀ rest, readTag? (tag ++ (']' :: rest : Text)) = some (tag,rest))
    (hmessage : ∃ rest, message = "closing tag '".toText ++ ('[' :: (tag ++ (']' :: rest : Text)) : Text))
    (hs : Strays [] quotedAt tag g) : line c (report message) = .error (.tags g) := by
  obtain ⟨rest,rfl⟩ := hmessage
  have hlabel : untagged "Help rendering error:".toText := by decide
  have hspace : (' ' :: ("closing tag '".toText ++ ('[' :: (tag ++ (']' :: rest : Text)) : Text)) : Text) =
      " closing tag '".toText ++ ('[' :: (tag ++ (']' :: rest : Text)) : Text) := by
    have hquote : " closing tag '".toText = (' ' :: "closing tag '".toText : Text) := by decide
    rw [hquote,List.cons_append]
  have hmark := readMark?_backslashes (hread rest) 0
  rw [List.replicate_zero,List.nil_append] at hmark
  have hmarks : (marks (" closing tag '".toText ++ ('[' :: (tag ++ (']' :: rest : Text)) : Text))).1 =
      ⟨" closing tag '".toText,0,tag⟩ :: (marks rest).1 := by
    rw [marks_untagged (by decide),marks_mark hmark]
    simp [putBefore]
  have hshown := isStyle_red.marksShown_around c.evaluate hlabel
    (" closing tag '".toText ++ ('[' :: (tag ++ (']' :: rest : Text)) : Text)) 0 []
  rw [hmarks,StraysIn.marksShown_eq (.mk (List.nil_append _).symm .nil rfl hs)] at hshown
  rw [line,Console.drawn,report_eq,hspace,tagged_append,render_error hshown]

/-- A tag that closes nothing closes nothing in the report either. -/
lemma line_report_stray {t : Text} {f : Fault} (h : Stray c.evaluate t f) :
    line c (report f.message) = .error (.tags (f.placed quotedAt)) := by
  obtain @⟨_,m,_,_,_,hms,-,-,hs⟩ := h
  have hread := readTag?_of_mem (m := m) (show m ∈ (marks t).1 by rw [hms]; simp)
  cases hs with
  | unmatched htag hblank hname hno =>
    exact line_report_quoted hread ⟨_,message_unmatched ..⟩ (.unmatched htag hblank hname nofun)
  | nothingToClose htag hblank hopened =>
    have hslash : Strays [] quotedAt ['/'] (.nothingToClose quotedAt) := .nothingToClose rfl rfl rfl
    exact line_report_quoted (fun _ => rfl) ⟨_,message_nothingToClose _⟩ hslash

lemma drawn_stray {t : Text} {f : Fault} (h : Stray c.evaluate t f) (layout : Text → List Text) :
    c.drawn t layout = .error (.tags f) := by
  rw [Console.drawn,h.render_eq]

/-- A text is drawn, or a tag of it closes nothing, or something else is wrong, which has no tag in its
message. -/
lemma drawn_cases (c : Console) (t : Text) (layout : Text → List Text) :
    (∃ out, c.drawn t layout = .ok out) ∨ (∃ f, Stray c.evaluate t f) ∨
    ∃ f, c.drawn t layout = .error f ∧ ('[' : CodePoint) ∉ f.message := by
  rw [Console.drawn]
  obtain ⟨s,h⟩ | ⟨f,-,hf⟩ | ⟨f,h,hf⟩ := render_cases c.evaluate_bracket t
  · rw [h]
    simp only
    cases hd : c.draw t (c.laid (layout s)) with
    | ok out => exact .inl ⟨out,rfl⟩
    | error message => exact .inr (.inr ⟨.style message,rfl,c.draw_bracket _ _ _ hd⟩)
  · exact .inr (.inl ⟨f,hf⟩)
  · rw [h]
    exact .inr (.inr ⟨.tags f,rfl,hf⟩)

/-- What there is to write where help is shown, behind what is logged: the panel of the help, or the report of
what keeps it from having one. -/
inductive Composes (c : Console) (help : Text) : List Notice → Text → Prop
  | panel {t} : panel c help = .ok t → Composes c help [] t
  | report {f t} : Help.panel c help = .error f → line c (Help.report f.message) = .ok t →
      Composes c help [.notShown f.message] t

/-- A help text has a tag that closes nothing, in the part of it that is read. -/
def HasStray (c : Console) (help : Text) (f : Fault) : Prop := Stray c.evaluate (c.content help) f

/-- There is something to write unless a tag closes nothing. -/
lemma composes_or_stray (c : Console) (help : Text) :
    (∃ ns t, Composes c help ns t) ∨ ∃ f, HasStray c help f := by
  obtain ⟨t,h⟩ | h | ⟨f,h,hf⟩ := drawn_cases c (c.content help)
    (panelLines (if c.ascii then .ascii else .round) (min c.width (panelWidth help)))
  · exact .inl ⟨_,t,.panel h⟩
  · exact .inr h
  · obtain ⟨t,ht⟩ := exists_line_report c hf
    exact .inl ⟨_,t,.report h ht⟩

lemma Composes.not_stray {help : Text} {ns : List Notice} {t : Text} (h : Composes c help ns t) {f : Fault} :
    ¬ HasStray c help f := by
  intro hf
  have hpanel : Help.panel c help = .error (.tags f) := drawn_stray hf _
  cases h with
  | panel h => cases h.symm.trans hpanel
  | report h ht =>
    cases h.symm.trans hpanel
    cases ht.symm.trans (line_report_stray hf)

lemma written_eq_ok {held t s : Text} : written k held t = .ok s ↔
    k.fault? (held ++ t) = none ∧ s = held ++ t := by
  rw [written]
  cases k.fault? (held ++ t) with
  | none => simp [eq_comm]
  | some u => simp

/-- What has been composed is shown if there are bytes for it, and else nothing is. -/
lemma Composes.shown_iff {ns : List Notice} {t : Text} (h : Composes c (given help) ns t) (s : Text) :
    (shown c k help).result = .ok s ↔ k.fault? t = none ∧ s = t := by
  cases h with
  | panel h =>
    cases hk : k.fault? t with
    | none => simp [shown,h,Except.bind,written,hk,eq_comm]
    | some u =>
      -- the panel is still to be written where the report is
      have hheld : ∀ l, written k t l ≠ .ok s := by
        intro l hl
        have hall := Text.Codec.fault?_eq_none_iff.1 (written_eq_ok.1 hl).1
        have hnone := Text.Codec.fault?_eq_none_iff.2 fun d hd => hall d (List.mem_append_left l hd)
        cases hk.symm.trans hnone
      simp only [shown,h,Except.bind,written,List.nil_append,hk,reduceCtorEq,false_and,iff_false]
      intro hs
      split at hs
      · cases hs
      · exact hheld _ hs
  | report h ht => simp [shown,h,Except.bind,ht,Except.toOption,written_eq_ok]

lemma Composes.notices_eq {ns : List Notice} {t s : Text} (h : Composes c (given help) ns t)
    (hs : (shown c k help).result = .ok s) : (shown c k help).notices = ns := by
  obtain ⟨hk,-⟩ := (h.shown_iff s).1 hs
  cases h with
  | panel h => simp [shown,h,Except.bind,written,hk]
  | report h ht => simp [shown,h,Except.bind]

/-- The fault of a tag that closes nothing comes out of the report. -/
lemma shown_stray {f : Fault} (h : HasStray c (given help) f) :
    shown c k help = ⟨[.notShown f.message],.error (.tags (f.placed quotedAt))⟩ := by
  have hpanel : Help.panel c (given help) = .error (.tags f) := drawn_stray h _
  simp only [shown,hpanel,Except.bind,PrintFault.message,line_report_stray h]

lemma given_ne_nil (help : Option Text) : given help ≠ [] := by
  rw [given]
  split
  · decide
  · rename_i h
    rwa [List.isEmpty_iff] at h

/-- For every help text, or none, and wherever it is shown, there is a line to measure the panel by. The help
is shown just if no tag in it closes nothing and there are bytes for what there is to write; then it is the
panel that is written, and nothing logged, or the report of what else is wrong with the tags, which is logged
too. But the report of a tag that closes nothing quotes the tag and fails on it in turn, and that fault comes
out. -/
theorem shown_unless_stray (c : Console) (k : Text.Codec) (help : Option Text) :
    let s := shown c k help
    Text.lines (given help) ≠ [] ∧
    ((∃ t, s.result = .ok t) ↔
      (¬ ∃ f, HasStray c (given help) f) ∧ ∀ ns t, Composes c (given help) ns t → k.fault? t = none) ∧
    ((¬ ∃ f, HasStray c (given help) f) → ∃ ns t, Composes c (given help) ns t) ∧
    (∀ t, s.result = .ok t → Composes c (given help) s.notices t) ∧
    ∀ f, HasStray c (given help) f → s = ⟨[.notShown f.message],.error (.tags (f.placed quotedAt))⟩ := by
  intro s
  have hcases := composes_or_stray c (given help)
  refine ⟨Text.lines_ne_nil (given_ne_nil help),⟨?_,?_⟩,fun hno => hcases.resolve_right hno,?_,
    fun f hf => shown_stray hf⟩
  · rintro ⟨t,ht⟩
    obtain ⟨ns,t',h⟩ | ⟨f,hf⟩ := hcases
    · exact ⟨fun ⟨f,hf⟩ => h.not_stray hf,fun ns' t'' h' => ((h'.shown_iff t).1 ht).1⟩
    · rw [show s = _ from shown_stray hf] at ht
      cases ht
  · rintro ⟨hno,hbytes⟩
    obtain ⟨ns,t,h⟩ := hcases.resolve_right hno
    exact ⟨t,(h.shown_iff t).2 ⟨hbytes ns t h,rfl⟩⟩
  · intro t ht
    obtain ⟨ns,t',h⟩ | ⟨f,hf⟩ := hcases
    · obtain ⟨-,rfl⟩ := (h.shown_iff t).1 ht
      rwa [h.notices_eq ht]
    · rw [show s = _ from shown_stray hf] at ht
      cases ht

/-- The fault of a tag comes out where the report quotes it, so that some help is not shown. -/
theorem stray_tag_comes_out :
    shown (.plain 80) .utf8 (some "[/b]".toText) =
      ⟨[.notShown "closing tag '[/b]' at position 0 doesn't match any open tag".toText],
        .error (.tags (.unmatched "/b".toText 56))⟩ ∧
    ¬ ∀ help, ∃ t, (shown (.plain 80) .utf8 help).result = .ok t := by
  have hmark : readMark? "[/b]".toText = some (⟨[],0,"/b".toText⟩,[]) := by decide
  have hcontent : (Console.plain 80).content (given (some "[/b]".toText)) = "[/b]".toText := by decide +kernel
  have hmarks : (marks ((Console.plain 80).content (given (some "[/b]".toText)))).1 =
      [] ++ ⟨[],0,"/b".toText⟩ :: [] := by
    rw [hcontent,marks_mark hmark,marks_nil,List.nil_append]
  have hname : nameIn (Text.trim ['b']) = .ok "bold".toText := by decide +kernel
  have hs : Strays [] 0 "/b".toText (.unmatched "/b".toText 0) := .unmatched rfl (by decide) hname nofun
  have h := shown_stray (k := .utf8) (.mk hmarks .nil rfl hs)
  have hmessage : (Fault.unmatched "/b".toText 0).message =
      "closing tag '[/b]' at position 0 doesn't match any open tag".toText := by decide +kernel
  rw [hmessage] at h
  refine ⟨h,fun hall => ?_⟩
  obtain ⟨t,ht⟩ := hall (some "[/b]".toText)
  rw [h] at ht
  cases ht

end Help
end ShellTemplate
