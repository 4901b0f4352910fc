import ShellTemplate.Proofs.Template.Names

/-! Which defaults a template can hold. A default keeps its backslashes except before braces, so that none
is ever left over at its end and none stands before a brace. Every default of that kind can be written, and
where its key has no value it comes out as it is. -/
namespace ShellTemplate.Template

/-- A default as it is written in an expression, with a backslash before each closing brace that has
none. -/
def encodeDefault (d : Text) : Text := guarded ['}'] d

/-- So written, it holds nothing that ends it, and it is read as what it was. -/
lemma IsDefault.spelling {d : Text} (h : IsDefault d) :
    ∃ f, encodeDefault d = spelled f ∧ Atom.brace ∉ f ∧ unescaped defaultMarks f = d := by
  refine ⟨(units d).map (Atom.guard ['}']),?_,?_,?_⟩
  · rw [encodeDefault,guarded,h.whole,List.append_nil]
  · exact plain_not_mem_guard (by simp) _ _
  · have hs : ∀ c ∈ (['}'] : Text), c ∈ defaultMarks := by simp [defaultMarks]
    have hu : ∀ c ∈ defaultMarks, Atom.pair c ∉ units d := by
      intro c hc hp
      refine h.free _ hp ?_
      simpa [defaultMarks,defaultBarred] using hc
    rw [unescaped_guard hs hu,spelled_units_of_loose h.whole]

/-- A key and a default, both so encoded. -/
lemma IsKey.written_default {sw : Switches} (hsh : sw.sh = true) (hdef : sw.defaults = true)
    {k d : Text} (hk : IsKey k) (hd : IsDefault d) (ask : Lookup) :
    let t : Text := '$' :: '{' :: (encodeName k ++ (':' :: (encodeDefault d ++ (['}'] : Text)) : Text))
    let e := expandWith sw ask t
    Asks sw ask (.outside,{}) t ⟨.sh,k,some d⟩ ∧ e.asked = [k] ∧
    (∀ v, ask [] k = .value v → e.outcome = .ok v.shown) ∧
    (ask [] k = .absent → e.outcome = .ok d) := by
  obtain ⟨n,hn,hb,hc,ht⟩ := hk.spelling
  obtain ⟨f,hf,hbf,hv⟩ := IsDefault.spelling hd
  have hp := pass_default sw ask hsh hdef hb hc hbf {}
  have hend : completed (.fallback (unescaped nameMarks n) (unescaped defaultMarks f)
      (':' :: spelled f) false) '}' = some ⟨.sh,k,some d⟩ := by
    simp [completed,ht,hv]
  have hsplit : ('$' :: '{' :: (spelled n ++ (':' :: (spelled f ++ (['}'] : Text)) : Text)) : Text) =
      ('$' :: '{' :: (spelled n ++ (':' :: spelled f : Text)) : Text) ++ (['}'] : Text) := by simp
  rw [hn,hf,hsplit]
  exact ⟨.after_pass hp (.now hend),expandWith_completed sw ask hp hend⟩

/-- The defaults of complete expressions are the texts without a last unpaired backslash and without a
backslash before a brace. Behind any key that can be asked for, each of them stands for that key where it
has no value, character for character, and where it has one the value does, were it the empty text. -/
theorem substituted_iff (sw : Switches) (hsh : sw.sh = true) (hdef : sw.defaults = true)
    (d : Text) :
    ((∃ t ask k, Asks sw ask (.outside,{}) t ⟨.sh,k,some d⟩) ↔ IsDefault d) ∧
    (IsDefault d → ∀ k, Askable sw .sh k → ∀ ask,
      let t : Text := '$' :: '{' :: (encodeName k ++ (':' :: (encodeDefault d ++ (['}'] : Text)) : Text))
      let e := expandWith sw ask t
      Asks sw ask (.outside,{}) t ⟨.sh,k,some d⟩ ∧ e.asked = [k] ∧
      (∀ v, ask [] k = .value v → e.outcome = .ok v.shown) ∧
      (ask [] k = .absent → e.outcome = .ok d)) := by
  refine ⟨⟨?_,?_⟩,?_⟩
  · rintro ⟨t,ask,k,h⟩
    have hp : Proper ⟨.sh,k,some d⟩ := h.proper trivial
    exact hp.2 d rfl
  · intro hd
    have hk : IsKey [] := by decide
    exact ⟨_,.steady blank,[],(hk.written_default hsh hdef hd _).1⟩
  · intro hd k hk ask
    obtain ⟨t,ask',f,h⟩ := hk
    have hp : Proper ⟨.sh,k,f⟩ := h.proper trivial
    exact hp.1.written_default hsh hdef hd ask

/-- A default that looks like expressions, with blanks and a separator and a brace of its own. -/
theorem default_of_braces :
    let d : Text := [' ','$','{','b','}',':','%','c','%','\\','d',' ']
    let ask : Lookup := .steady fun _ => .absent
    let t : Text := ['$','{','a',':',' ','$','{','b','\\','}',':','%','c','%','\\','d',' ','}']
    IsDefault d ∧ Askable {} .sh ['a'] ∧ (expandWith {} ask t).asked = [(['a'] : Text)] ∧
    (expandWith {} ask t).outcome = .ok d := by
  intro d ask t
  have hd : IsDefault d := ⟨by decide,by decide⟩
  have ha : Askable {} .sh ['a'] := ⟨_,ask,none,(IsKey.written rfl (by decide) ask).1⟩
  obtain ⟨-,hasked,-,habsent⟩ := (substituted_iff {} rfl rfl d).2 hd ['a'] ha ask
  exact ⟨hd,ha,hasked,habsent rfl⟩

end ShellTemplate.Template
