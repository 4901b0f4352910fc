import Mathlib.Data.Bool.AllAny
import Mathlib.Data.List.TakeWhile
import ShellTemplate.Help.Panel
import ShellTemplate.Help.Basic
import ShellTemplate.Proofs.Markup.Marks
import ShellTemplate.Proofs.Text.Lower

/-! Texts that are shown without a fault. An escaped text is, whatever it was, and so is a text in tags
that open and close it. -/
namespace ShellTemplate

namespace Text

lemma mem_splitOnP {p : CodePoint → Bool} {t w : Text} (hw : w ∈ t.splitOnP p) {c : CodePoint} (hc : c ∈ w) :
    c ∈ t := by
  induction t generalizing w with
  | nil => simp_all
  | cons d t ih =>
    rw [List.splitOnP_cons_eq_if_modifyHead] at hw
    split at hw
    · obtain rfl | hw := List.mem_cons.1 hw
      · cases hc
      · exact List.mem_cons_of_mem _ (ih hw hc)
    · cases hs : t.splitOnP p with
      | nil => simp [hs] at hw
      | cons x xs =>
        rw [hs,List.modifyHead_cons] at hw
        obtain rfl | hw := List.mem_cons.1 hw
        · obtain rfl | hc := List.mem_cons.1 hc
          · simp
          · exact List.mem_cons_of_mem _ (ih (by simp [hs]) hc)
        · exact List.mem_cons_of_mem _ (ih (by simp [hs,hw]) hc)

lemma mem_words {t w : Text} (hw : w ∈ words t) {c : CodePoint} (hc : c ∈ w) : c ∈ t :=
  mem_splitOnP (List.mem_filter.1 hw).1 hc

lemma toLower_eq_parenthesis {c : CodePoint} (h : c.toLower = '(') : c = '(' := by
  have hascii : ∀ n < 128, (CodePoint.ofNat n).toLower = '(' → CodePoint.ofNat n = '(' := by
    decide +kernel
  by_cases hc : c.toNat < 128
  · have hlow := hascii c.toNat hc
    rw [CodePoint.ofNat_toNat] at hlow
    exact hlow h
  · rwa [Text.toLower_of_beyond (by omega)] at h

end Text

namespace Markup

lemma parenthesis_not_mem_lower {word : Text} (h : ('(' : CodePoint) ∉ word) :
    ('(' : CodePoint) ∉ Text.lower word := by
  rw [Text.mem_lower (by decide)]
  rintro ⟨c,hc,hd⟩
  exact h (Text.toLower_eq_parenthesis hd ▸ hc)

/-- Only `rgb(…)` can have a component that is no number. -/
lemma read_ne_flawed {word : Text} (h : ('(' : CodePoint) ∉ word) (f : ComponentFlaw) :
    ColorWord.read word ≠ .flawed f := by
  have hb : bracketed? "rgb(".toText word = none := by
    cases ha : Text.after? "rgb(".toText word with
    | none => rw [bracketed?,ha]; rfl
    | some r =>
      rw [Text.after?_eq_some.1 ha] at h
      exact absurd (List.mem_append_left _ (by decide)) h
  intro he
  rw [ColorWord.read,hb] at he
  split at he
  · cases he
  · split at he
    · split at he <;> cases he
    · split at he
      · split at he <;> cases he
      · cases he

lemma color?_ne {word : Text} (h : ('(' : CodePoint) ∉ word) (f : ComponentFlaw) :
    Look.color? word ≠ .error (.flawed f) := by
  have hr := read_ne_flawed (parenthesis_not_mem_lower h)
  simp only [Look.color?]
  generalize ColorWord.read (Text.lower word) = x at hr ⊢
  cases x with
  | color => nofun
  | other => nofun
  | flawed g => exact absurd rfl (hr g)

lemma read_ne {l : Look} {words : List Text} (h : ∀ w ∈ words, ('(' : CodePoint) ∉ w) (f : ComponentFlaw) :
    l.read words ≠ .error (.flawed f) := by
  -- a color that is read goes into the style, and the words behind it are read on
  have hcolor : ∀ (w : Text) (k : Text → Look) (ws : List Text), ('(' : CodePoint) ∉ w →
      (∀ c, (k c).read ws ≠ .error (.flawed f)) →
      ((Look.color? w).bind fun c => (k c).read ws) ≠ .error (.flawed f) := by
    intro w k ws hw hk
    have hc := color?_ne hw f
    generalize Look.color? w = x at hc ⊢
    cases x with
    | error e => simpa [Except.bind] using hc
    | ok c => exact hk c
  fun_induction Look.read l words with
  | case1 => nofun
  | case2 => nofun
  | case3 l w _ _ c ws ih =>
    exact hcolor c _ ws (h c (by simp)) fun x => ih x fun v hv => h v (by simp [hv])
  | case4 => nofun
  | case5 l w _ _ _ c ws a _ ih => exact ih fun v hv => h v (by simp [hv])
  | case6 => nofun
  | case7 => nofun
  | case8 l w _ _ _ _ c ws ih => exact ih fun v hv => h v (by simp [hv])
  | case9 l w ws _ _ _ _ a _ ih => exact ih fun v hv => h v (by simp [hv])
  | case10 l w ws word _ _ _ _ ih =>
    exact hcolor word _ ws (parenthesis_not_mem_lower (h w (by simp)))
      fun x => ih x fun v hv => h v (by simp [hv])

/-- A name without a parenthesis has its one form. -/
theorem exists_nameIn {t : Text} (h : ('(' : CodePoint) ∉ t) : ∃ name, nameIn t = .ok name := by
  have hr : ∀ f, Look.plain.read (Text.words t) ≠ .error (.flawed f) :=
    read_ne fun w hw hp => h (Text.mem_words hw hp)
  unfold nameIn styleName
  split
  · exact ⟨_,rfl⟩
  · generalize Look.plain.read (Text.words t) = x at hr ⊢
    cases x with
    | ok l => exact ⟨_,rfl⟩
    | error e =>
      cases e with
      | unknown => exact ⟨_,rfl⟩
      | flawed f => exact absurd rfl (hr f)

/-- The tags of a text are without a fault wherever the text stands and whatever is open there. -/
def Shows (t : Text) : Prop :=
  ∀ evaluate start opened, ∃ s, marksShown evaluate start opened (marks t).1 = .ok s

lemma Shows.render {t : Text} (h : Shows t) (evaluate : Evaluator) : ∃ s, render evaluate t = .ok s := by
  obtain ⟨s,hs⟩ := h evaluate 0 []
  refine ⟨(s ++ plainShown (marks t).2).filter fun c => !isControl c,?_⟩
  unfold Markup.render
  simp only [hs]
  rfl

/-- What is shown of tags that are plain text. -/
lemma marksShown_escaped (evaluate : Evaluator) (ms : List Mark) (start : Nat) (opened : List Opened) :
    marksShown evaluate start opened (ms.map Mark.escaped) = .ok (ms.flatMap fun m =>
      plainShown m.before ++ (List.replicate m.backslashes '\\' : Text) ++ plainShown m.bracketed) := by
  induction ms generalizing start with
  | nil => rfl
  | cons m ms ih =>
    have hodd : (2 * m.backslashes + 1) % 2 = 1 := by omega
    have hhalf : (2 * m.backslashes + 1) / 2 = m.backslashes := by omega
    simp only [List.map_cons,marksShown,Mark.escaped,hodd,hhalf,if_true,List.flatMap_cons]
    rw [ih]
    rfl

theorem shows_escape (t : Text) : Shows (escape t) := by
  intro evaluate start opened
  rw [marks_escape]
  exact ⟨_,marksShown_escaped _ _ _ _⟩

/-- Whether a text has no tag and would be no part of one that came after it. -/
def untagged : Text → Bool
  | [] => true
  | c :: t => c != '\\' && (c != '[' || t.head?.any fun d => !isTagStart d) && untagged t

lemma readMark?_untagged {c : CodePoint} {t : Text} (h : untagged (c :: t)) (u : Text) :
    readMark? (c :: (t ++ u)) = none := by
  simp only [untagged,Bool.and_eq_true,Bool.or_eq_true,bne_iff_ne,ne_eq] at h
  obtain ⟨⟨hb,ho⟩,-⟩ := h
  rw [readMark?,if_neg hb]
  split
  · rename_i hc
    obtain ho | ho := ho
    · exact absurd hc ho
    · cases t with
      | nil => cases ho
      | cons d t =>
        have hd : isTagStart d = false := by simpa using ho
        rw [List.cons_append,readTag?,hd]
        rfl
  · rfl

lemma marks_untagged {t : Text} (h : untagged t) (u : Text) :
    marks (t ++ u) = putBefore t (marks u) := by
  induction t with
  | nil => simp
  | cons c t ih =>
    have ht : untagged t := by
      simp only [untagged,Bool.and_eq_true] at h
      exact h.2
    rw [List.cons_append,marks_cons (readMark?_untagged h u),ih ht,putBefore_putBefore]
    rfl

/-- What stands before the first tag does not matter. -/
lemma marksShown_before {evaluate : Evaluator} {m : Mark} {ms : List Mark} {start : Nat}
    {opened : List Opened} {s : Text} (t : Text)
    (h : marksShown evaluate (start + t.length) opened (m :: ms) = .ok s) :
    ∃ s', marksShown evaluate start opened ({ m with before := t ++ m.before } :: ms) = .ok s' := by
  have hlen : start + ({ m with before := t ++ m.before } : Mark).source.length =
      start + t.length + m.source.length := by
    simp only [Mark.source,Mark.bracketed,List.length_append]
    omega
  have hpos : start + (t ++ m.before).length = start + t.length + m.before.length := by
    rw [List.length_append]
    omega
  simp only [marksShown,hlen,hpos] at h ⊢
  split at h
  · rename_i hodd
    rw [if_pos hodd]
    cases ha : marksShown evaluate (start + t.length + m.source.length) opened ms with
    | error f => rw [ha] at h; cases h
    | ok after => exact ⟨_,rfl⟩
  · rename_i hodd
    rw [if_neg hodd]
    cases ho : afterTag evaluate opened (start + t.length + m.before.length + 2 * (m.backslashes / 2))
        m.tag with
    | error f => rw [ho] at h; cases h
    | ok opened' =>
      rw [ho] at h
      cases ha : marksShown evaluate (start + t.length + m.source.length) opened' ms with
      | error f => simp only [bind,Except.bind,ha] at h; cases h
      | ok after => simp only [bind,Except.bind,ha]; exact ⟨_,rfl⟩

lemma Shows.untagged {t u : Text} (ht : Markup.untagged t) (h : Shows u) : Shows (t ++ u) := by
  intro evaluate start opened
  rw [marks_untagged ht]
  obtain ⟨s,hs⟩ := h evaluate (start + t.length) opened
  generalize marks u = x at hs ⊢
  obtain ⟨_ | ⟨m,ms⟩,tail⟩ := x
  · exact ⟨[],rfl⟩
  · exact marksShown_before t hs

/-- A word that a tag may hold to open a style, and to close it after a slash. -/
structure IsStyle (tag : Text) : Prop where
  start : ∃ c t, tag = c :: t ∧ isTagStart c ∧ c ≠ '/'
  plain : ∀ c ∈ tag, c ≠ '[' ∧ c ≠ ']' ∧ c ≠ '=' ∧ c ≠ '('
  trimmed : Text.trim tag = tag

namespace IsStyle
variable {tag : Text} (h : IsStyle tag)
include h

lemma readTag?_eq (u : Text) : readTag? (tag ++ (']' :: u : Text)) = some (tag,u) := by
  obtain ⟨c,t,rfl,hc,-⟩ := h.start
  have hcut : Text.cutAt? ']' (t ++ (']' :: u : Text)) = some (t,u) :=
    Text.cutAt?_eq_some.2 ⟨rfl,fun hm => (h.plain ']' (by simp [hm])).2.1 rfl⟩
  have ho : ('[' : CodePoint) ∉ t := fun hm => (h.plain '[' (by simp [hm])).1 rfl
  rw [List.cons_append,readTag?,if_pos hc,hcut]
  simp [ho]

lemma readTag?_closing (u : Text) :
    readTag? ('/' :: (tag ++ (']' :: u : Text)) : Text) = some (('/' :: tag : Text),u) := by
  have hcut : Text.cutAt? ']' (tag ++ (']' :: u : Text)) = some (tag,u) :=
    Text.cutAt?_eq_some.2 ⟨rfl,fun hm => (h.plain ']' hm).2.1 rfl⟩
  have ho : ('[' : CodePoint) ∉ tag := fun hm => (h.plain '[' hm).1 rfl
  rw [readTag?,if_pos (by decide),hcut]
  simp [ho]

lemma tagName_eq : tagName tag = tag :=
  List.takeWhile_eq_self_iff.2 fun c hc => by simp [(h.plain c hc).2.2.1]

lemma tagParameters?_eq : tagParameters? tag = none := by
  have hdrop : tag.dropWhile (fun c => c ≠ ('=' : CodePoint)) = [] :=
    List.dropWhile_eq_nil_iff.2 fun c hc => by simp [(h.plain c hc).2.2.1]
  rw [tagParameters?,hdrop]

/-- A style that is opened and closed leaves what is open as it was. -/
lemma afterTag_eq (evaluate : Evaluator) (opened : List Opened) : ∃ o, ∀ position,
    afterTag evaluate opened position tag = .ok (o :: opened) ∧
    afterTag evaluate (o :: opened) position ('/' :: tag) = .ok opened := by
  obtain ⟨name,hname⟩ := exists_nameIn fun hm => (h.plain '(' hm).2.2.2 rfl
  obtain ⟨c,t,hct,-,hslash⟩ := h.start
  refine ⟨⟨name,none⟩,fun position => ⟨?_,?_⟩⟩
  · unfold afterTag
    rw [h.tagName_eq,h.tagParameters?_eq]
    split
    · exact absurd (List.cons.inj hct).1.symm hslash
    · rw [hname]
      rfl
  · have htag : tagName ('/' :: tag) = ('/' :: tag : Text) := by
      rw [tagName,List.takeWhile_cons_of_pos (by decide)]
      exact congrArg _ h.tagName_eq
    have hne : Text.trim tag ≠ [] := by
      rw [h.trimmed,hct]
      simp
    simp only [afterTag,htag,if_neg hne]
    rw [h.trimmed,hname]
    simp [bind,Except.bind,closed,Opened.fault?]

/-- A style around a text: one tag that opens, and one that closes behind the text. -/
lemma marks_around {label : Text} (hl : untagged label) (u : Text) :
    marks ('[' :: (tag ++ (']' :: (label ++ ('[' :: '/' :: (tag ++ (']' :: u : Text)) : Text)) : Text))) =
      (⟨[],0,tag⟩ :: ⟨label,0,'/' :: tag⟩ :: (marks u).1,(marks u).2) := by
  have hopen := readMark?_backslashes
    (h.readTag?_eq (label ++ ('[' :: '/' :: (tag ++ (']' :: u : Text)) : Text))) 0
  have hclose := readMark?_backslashes (h.readTag?_closing u) 0
  simp only [List.replicate_zero,List.nil_append] at hopen hclose
  rw [marks_mark hopen,marks_untagged hl,marks_mark hclose]
  simp [putBefore]

lemma marksShown_around (evaluate : Evaluator) {label : Text} (hl : untagged label) (u : Text) (start : Nat)
    (opened : List Opened) :
    marksShown evaluate start opened
        (marks ('[' :: (tag ++
          (']' :: (label ++ ('[' :: '/' :: (tag ++ (']' :: u : Text)) : Text)) : Text)))).1 =
      (marksShown evaluate (start + (2 * tag.length + label.length + 5)) opened (marks u).1).map
        (plainShown label ++ ·) := by
  obtain ⟨o,htag⟩ := h.afterTag_eq evaluate opened
  have hnil : plainShown [] = [] := by simp [plainShown,dropEscapes,Emoji.replace]
  have hlength : start + (⟨[],0,tag⟩ : Mark).source.length +
      (⟨label,0,'/' :: tag⟩ : Mark).source.length =
        start + (2 * tag.length + label.length + 5) := by
    simp [Mark.source,Mark.bracketed]
    omega
  rw [h.marks_around hl,← hlength]
  simp only [marksShown,Nat.zero_mod,Nat.zero_div,(htag _).1,(htag _).2,bind,Except.bind,hnil,
    List.replicate_zero,List.append_nil,List.nil_append,Nat.zero_ne_one,if_false]
  cases marksShown evaluate _ opened (marks u).1 <;> rfl

end IsStyle

lemma Shows.around {tag : Text} (h : IsStyle tag) {label : Text} (hl : Markup.untagged label)
    {u : Text} (hu : Shows u) :
    Shows ('[' :: (tag ++ (']' :: (label ++ ('[' :: '/' :: (tag ++ (']' :: u : Text)) : Text)) : Text))) := by
  intro evaluate start opened
  obtain ⟨s,hs⟩ := hu evaluate (start + (2 * tag.length + label.length + 5)) opened
  rw [h.marksShown_around evaluate hl,hs]
  exact ⟨_,rfl⟩

end Markup

namespace Help
open Markup

lemma tagged_append (style label u : Text) : tagged style label ++ u =
    ('[' :: (style ++
      (']' :: (label ++ ('[' :: '/' :: (style ++ (']' :: u : Text)) : Text)) : Text)) : Text) := by
  simp [tagged]

lemma shows_tagged {style : Text} (hs : IsStyle style) (label : Text) {u : Text}
    (hl : untagged label) (hu : Shows u) : Shows (tagged style label ++ u) := by
  rw [tagged_append]
  exact .around hs hl hu

lemma isStyle_red : IsStyle "bold red".toText :=
  ⟨⟨'b',_,rfl,by decide,by decide⟩,List.all_iff_forall_prop.1 (by decide),rfl⟩

end Help
end ShellTemplate
