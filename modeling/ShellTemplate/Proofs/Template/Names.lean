import ShellTemplate.Proofs.Template.Asking
import ShellTemplate.Proofs.Template.Units
import ShellTemplate.Proofs.Text.Trim

/-! Which keys a template can ask for. What a pass gathers of a name keeps away from closing braces and
from separators with a backslash, and trimming can only cut the character off that a last backslash stood
before. Every key of that kind can be written, with a backslash before each separator in it. -/
namespace ShellTemplate.Template

/-- The units that no name between braces holds, and those that no default holds. -/
def nameBarred : List Atom := [.brace,.pair ':']
def defaultBarred : List Atom := [.pair '{',.pair '}']

/-- A key of an expression between braces: no blank at its ends, no unpaired `}` and no backslash that
takes a separator. A last backslash may be left unpaired. -/
structure IsKey (k : Text) : Prop where
  trimmed : Text.trim k = k
  free : ∀ a ∈ units k, a ∉ nameBarred

instance (k : Text) : Decidable (IsKey k) :=
  decidable_of_iff (Text.trim k = k ∧ ∀ a ∈ units k, a ∉ nameBarred)
    ⟨fun h => ⟨h.1,h.2⟩,fun h => ⟨h.1,h.2⟩⟩

/-- A default: no last unpaired backslash, and no backslash that takes a brace. -/
abbrev IsDefault (d : Text) : Prop := Clear defaultBarred d

/-- What a pass has gathered of a name and of a default. -/
def Gathered : Reading → Prop
  | .percent name => ∀ c ∈ name, Text.isAlphanumeric c
  | .braced name _ => Clear nameBarred name
  | .fallback name value _ _ => Clear nameBarred name ∧ IsDefault value
  | _ => True

lemma gathered_opens {sw : Switches} {c : CodePoint} {r : Reading} {t : Text} (h : Opens sw c r t) :
    Gathered r := by
  cases h <;> simp [Gathered]

/-- One more unit of a name, whose backslash is taken off before a separator. -/
lemma Clear.push_name {name : Text} (h : Clear nameBarred name) (c : CodePoint) :
    Clear nameBarred (name ++ (if c = ':' then [':'] else ['\\',c] : Text)) := by
  by_cases hc : c = ':'
  · simp only [hc,if_true]
    exact h.push_plain (by decide) (by decide)
  · simp only [hc,if_false]
    exact h.push_pair (by simp [nameBarred,Atom.brace,hc])

/-- One more unit of a default, whose backslash is taken off before a brace. -/
lemma Clear.push_default {value : Text} (h : IsDefault value) (c : CodePoint) :
    IsDefault (value ++ if c = '{' ∨ c = '}' then [c] else ['\\',c]) := by
  by_cases hc : c = '{' ∨ c = '}'
  · have hne : c ≠ '\\' := by
      rintro rfl
      simp at hc
    simp only [hc,if_true]
    exact h.push_plain hne (by simp [defaultBarred])
  · simp only [hc,if_false]
    exact h.push_pair (by simpa [defaultBarred] using hc)

/-- One more character keeps to it. -/
theorem gathered_moves {sw : Switches} {r r' : Reading} {c : CodePoint} {t : Text} (h : Gathered r)
    (hm : Moves sw r c r' t) : Gathered r' := by
  cases hm with
  | opened ho => exact gathered_opens ho
  | escaped => trivial
  | twoPercents => trivial
  | letter _ ha =>
    intro d hd
    obtain hd | rfl := by simpa using hd
    · exact h d hd
    · exact ha
  | stopped _ _ ho => exact gathered_opens ho
  | opener => exact clear_nil nameBarred
  | noOpener => trivial
  | nameEscape => exact h
  | nameEscaped => exact Clear.push_name h c
  | separator => exact ⟨h,clear_nil defaultBarred⟩
  | nameChar hb _ he => exact Clear.push_plain h he (by simp [nameBarred,Atom.brace,hb])
  | defaultEscape => exact h
  | defaultEscaped => exact ⟨h.1,Clear.push_default h.2 c⟩
  | defaultChar _ he => exact ⟨h.1,Clear.push_plain h.2 he (by simp [defaultBarred])⟩

lemma gathered_step {sw : Switches} {ask : Lookup} {u v : Reading × Progress} {c : CodePoint}
    (h : Gathered u.1) (hs : step sw ask u c = .ok v) : Gathered v.1 := by
  obtain ⟨t,hm,-⟩ | ⟨s,-,hr⟩ := step_cases hs
  · exact gathered_moves h hm
  · rw [hr]
    trivial

/-- A slot between two `%` or in braces, as its style has it. -/
def Proper (s : Slot) : Prop :=
  match s.style with
  | .dos => s.key ≠ [] ∧ ∀ c ∈ s.key, Text.isAlphanumeric c
  | .sh => IsKey s.key ∧ ∀ d ∈ s.fallback, IsDefault d

/-- Trimming takes no unit apart but the last, and that one it may leave as a backslash. -/
lemma mem_units_of_trim {t : Text} {a : Atom} (h : a ∈ units (Text.trim t)) : a ∈ units t := by
  obtain ⟨u,v,ht,hu,-⟩ := Text.exists_trim t
  -- no backslash is a blank, so only whole units are cut off in front
  have hb : ('\\' : CodePoint) ∉ u := by
    intro hm
    exact absurd (hu _ hm) (by decide)
  rw [ht]
  exact (units_ending hb _).subset ((units_beginning _ v).subset h)

lemma Clear.isKey_trim {name : Text} (h : Clear nameBarred name) : IsKey (Text.trim name) :=
  ⟨Text.trim_trim name,fun a ha => h.free a (mem_units_of_trim ha)⟩

lemma proper_completed {r : Reading} {c : CodePoint} {s : Slot} (h : Gathered r)
    (hc : completed r c = some s) : Proper s := by
  cases r with
  | percent name =>
    obtain ⟨⟨-,hn⟩,rfl⟩ := by simpa [completed] using hc
    exact ⟨hn,h⟩
  | braced name escaped =>
    cases escaped with
    | true => cases hc
    | false =>
      obtain ⟨-,rfl⟩ := by simpa [completed] using hc
      exact ⟨Clear.isKey_trim h,by simp⟩
  | fallback name value source escaped =>
    cases escaped with
    | true => cases hc
    | false =>
      obtain ⟨-,rfl⟩ := by simpa [completed] using hc
      exact ⟨Clear.isKey_trim h.1,by simpa using h.2⟩
  | _ => cases hc

/-- Whatever a pass asks for is proper. -/
theorem Asks.proper {sw : Switches} {ask : Lookup} {u : Reading × Progress} {t : Text} {s : Slot}
    (h : Asks sw ask u t s) (hu : Gathered u.1) : Proper s := by
  induction h with
  | now h => exact proper_completed hu h
  | later h _ ih => exact ih (gathered_step hu h)

/-- A key as it is written in an expression: with a backslash before each separator that has none, and
with a blank behind a last backslash. -/
def encodeName (k : Text) : Text := guarded nameMarks k ++ (if loose k = [] then [] else [' '] : Text)

/-- So written, it holds nothing that ends a name, and it is read as what it was. -/
theorem IsKey.spelling {k : Text} (h : IsKey k) :
    ∃ n, encodeName k = spelled n ∧ Atom.brace ∉ n ∧ Atom.colon ∉ n ∧
      Text.trim (unescaped nameMarks n) = k := by
  have hb : Atom.brace ∉ (units k).map (Atom.guard nameMarks) := by
    intro hm
    exact h.free Atom.brace (plain_mem_of_guard hm) (by simp [nameBarred])
  have hc : Atom.colon ∉ (units k).map (Atom.guard nameMarks) :=
    plain_not_mem_guard (by simp [nameMarks]) _ _
  have hu : unescaped nameMarks ((units k).map (Atom.guard nameMarks)) = spelled (units k) := by
    apply unescaped_guard fun c hc => hc
    intro c hm hp
    obtain rfl : c = ':' := by simpa [nameMarks] using hm
    exact h.free _ hp (by simp [nameBarred])
  have hk := spelled_units k
  obtain hl | hl := dangling_loose k
  · rw [hl,List.append_nil] at hk
    refine ⟨_,by simp [encodeName,guarded,hl],hb,hc,?_⟩
    rw [hu,hk,h.trimmed]
  · rw [hl] at hk
    refine ⟨(units k).map (Atom.guard nameMarks) ++ [.pair ' '],?_,?_,?_,?_⟩
    · simp [encodeName,guarded,hl,Atom.text]
    · simpa [Atom.brace] using hb
    · simpa [Atom.colon] using hc
    · -- the blank goes to the last backslash, which takes it into the name, and is trimmed off
      have hp : Atom.shed nameMarks (.pair ' ') = (['\\',' '] : Text) := rfl
      have hs : unescaped nameMarks ((units k).map (Atom.guard nameMarks) ++ [.pair ' ']) =
          spelled (units k) ++ (['\\'] : Text) ++ ([' '] : Text) := by
        simp [hu,hp]
      rw [hs,hk,Text.trim_append_blank k (by decide),h.trimmed]

/-- Some template asks for the key in an expression of this style. -/
def Askable (sw : Switches) (style : Style) (k : Text) : Prop :=
  ∃ t ask f, Asks sw ask (.outside,{}) t ⟨style,k,f⟩

lemma asks_percent {sw : Switches} (h : sw.dos = true) (ask : Lookup) {k : Text} (hk : k ≠ [])
    (ha : ∀ c ∈ k, Text.isAlphanumeric c) :
    Asks sw ask (.outside,{}) ('%' :: (k ++ (['%'] : Text))) ⟨.dos,k,none⟩ := by
  have hs : step sw ask (.outside,{}) '%' = .ok (.percent [],{}) := by
    simp [step,readOutside,h]
  have hp := pass_percent sw ask ha [] {}
  exact .later hs (.after_pass hp (.now (by simp [completed,hk])))

/-- Where a key stands so encoded between braces, it is asked for, and it alone. -/
lemma IsKey.written {sw : Switches} (h : sw.sh = true) {k : Text} (hk : IsKey k) (ask : Lookup) :
    let t : Text := '$' :: '{' :: (encodeName k ++ (['}'] : Text))
    let e := expandWith sw ask t
    Asks sw ask (.outside,{}) t ⟨.sh,k,none⟩ ∧ e.asked = [k] ∧
    (∀ v, ask [] k = .value v → e.outcome = .ok v.shown) ∧
    (ask [] k = .absent → e.outcome = .ok ('$' :: '{' :: (k ++ (['}'] : Text)))) := by
  obtain ⟨n,hn,hb,hc,ht⟩ := hk.spelling
  have hp := pass_name sw ask h hb (fun _ => hc) {}
  have hend : completed (.braced (unescaped nameMarks n) false) '}' = some ⟨.sh,k,none⟩ := by
    simp [completed,ht]
  rw [hn]
  exact ⟨.after_pass hp (.now hend),expandWith_completed sw ask hp hend⟩

/-- The keys that expressions in braces can ask for are the trimmed ones without a closing brace and
without a backslash before a separator, and each is asked for where it stands so encoded; between two `%`
they are the non-empty ones of letters and numbers. -/
theorem askable_iff (sw : Switches) (k : Text) :
    (sw.sh = true →
      (Askable sw .sh k ↔ IsKey k) ∧
      (IsKey k → ∀ ask,
        let t : Text := '$' :: '{' :: (encodeName k ++ (['}'] : Text))
        let e := expandWith sw ask t
        Asks sw ask (.outside,{}) t ⟨.sh,k,none⟩ ∧ e.asked = [k] ∧
        (∀ v, ask [] k = .value v → e.outcome = .ok v.shown) ∧
        (ask [] k = .absent → e.outcome = .ok ('$' :: '{' :: (k ++ (['}'] : Text)))))) ∧
    (sw.dos = true → (Askable sw .dos k ↔ k ≠ [] ∧ ∀ c ∈ k, Text.isAlphanumeric c)) := by
  have hproper : ∀ style, Askable sw style k → ∃ f, Proper ⟨style,k,f⟩ := by
    rintro style ⟨t,ask,f,h⟩
    exact ⟨f,h.proper trivial⟩
  constructor
  · intro hsh
    refine ⟨⟨?_,?_⟩,fun hk ask => hk.written hsh ask⟩
    · intro h
      obtain ⟨f,hf⟩ := hproper .sh h
      exact hf.1
    · intro hk
      exact ⟨_,.steady blank,none,(hk.written hsh _).1⟩
  · intro hdos
    constructor
    · intro h
      obtain ⟨f,hf⟩ := hproper .dos h
      exact hf
    · rintro ⟨hk,ha⟩
      exact ⟨_,.steady blank,none,asks_percent hdos _ hk ha⟩

/-- A key with a separator and a backslash at its end. -/
theorem separator_and_last_backslash :
    let k : Text := ['a',':','\\']
    let ask : Lookup := .steady fun _ => .absent
    let t : Text := ['$','{','a','\\',':','\\',' ','}']
    IsKey k ∧ Askable {} .sh k ∧ (expandWith {} ask t).asked = [k] ∧
    (expandWith {} ask t).outcome = .ok ['$','{','a',':','\\','}'] ∧
    Askable {} .dos ['a','1'] := by
  intro k ask t
  have hk : IsKey k := by decide
  obtain ⟨hiff,hwritten⟩ := (askable_iff {} k).1 rfl
  obtain ⟨-,hasked,-,habsent⟩ := hwritten hk ask
  have ha : Text.isAlphanumeric 'a' := by decide
  have h1 : Text.isAlphanumeric '1' := by decide
  have hd : (['a','1'] : Text) ≠ [] ∧ ∀ c ∈ (['a','1'] : Text), Text.isAlphanumeric c := by simp [ha,h1]
  exact ⟨hk,hiff.2 hk,hasked,habsent rfl,((askable_iff {} _).2 rfl).2 hd⟩

end ShellTemplate.Template
