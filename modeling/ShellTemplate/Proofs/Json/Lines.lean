import ShellTemplate.Proofs.Json.Grammar
import ShellTemplate.Proofs.Text.Newlines

/-! Line ends in a JSON text. No symbol holds any, so a text is the same value when its line ends are brought
to their normal form. -/
namespace ShellTemplate.Json

/-- A text that holds no control character. -/
def NoControl (t : Text) : Prop := ∀ c ∈ t, 0x20 ≤ c.toNat

@[simp] lemma noControl_nil : NoControl [] := nofun

@[simp] lemma noControl_cons {c : CodePoint} {t : Text} : NoControl (c :: t) ↔ 0x20 ≤ c.toNat ∧ NoControl t :=
  List.forall_mem_cons

@[simp] lemma noControl_append {s t : Text} : NoControl (s ++ t) ↔ NoControl s ∧ NoControl t :=
  List.forall_mem_append

lemma Digits.noControl {ds : Text} (h : Digits ds) : NoControl ds := by
  intro c hc
  have hle : 48 ≤ c.toNat := of_decide_eq_true (Bool.and_eq_true_iff.1 (h.2 c hc)).1
  omega

lemma Whole.noControl {ds : Text} (h : Whole ds) : NoControl ds := by
  obtain rfl | ⟨h,-⟩ := h
  · simp
  · exact h.noControl

lemma Fraction.noControl {t : Text} (h : Fraction t) : NoControl t := by
  obtain rfl | ⟨ds,rfl,h⟩ := h
  · simp
  · simp [h.noControl]

lemma Exponent.noControl {t : Text} (h : Exponent t) : NoControl t := by
  obtain rfl | ⟨e,sign,ds,rfl,he,hsign,h⟩ := h
  · simp
  · obtain rfl | rfl := he <;> obtain rfl | rfl | rfl := hsign <;> simp [h.noControl]

lemma SpelledNumber.noControl {s : Symbol} {t : Text} (h : SpelledNumber s t) : NoControl t := by
  have hsign : ∀ negative, NoControl (signOf negative) := by
    intro negative
    cases negative <;> simp [signOf]
  cases h with
  | int hw => simp [hsign,hw.noControl]
  | float hw hp hs h => simp [hsign,hw.noControl,hp.noControl,hs.noControl]

lemma SpelledUnit.noControl {n : Nat} {ds : Text} (h : SpelledUnit n ds) : NoControl ds := by
  intro c hc
  obtain ⟨i,j,k,l,hi,hj,hk,hl,-,hds⟩ := h
  have hlower : c.toLower ∈ [i,j,k,l].map fun n => CodePoint.scalar n.digitChar :=
    hds ▸ List.mem_map_of_mem hc
  obtain ⟨m,hm,heq⟩ := List.mem_map.1 hlower
  have hlt : m < 16 := by
    simp only [List.mem_cons,List.not_mem_nil,or_false] at hm
    omega
  have hbounds := hexDigit?_bounds (hexDigit?_eq_some_iff.2 ⟨hlt,heq.symm⟩)
  omega

lemma SpelledText.noControl {s t : Text} (h : SpelledText s t) : NoControl t := by
  have hletters : ∀ x ∈ shortForms, 0x20 ≤ x.1.toNat := by decide
  induction h with
  | nil => simp
  | raw hc hq hb h ih => simp [hc,ih]
  | short hd h ih => simp [hletters _ hd,ih]
  | unit hn hlow h ih => simp [hn.noControl,ih]
  | pair hm hn hhigh hlow h ih => simp [hm.noControl,hn.noControl,ih]

lemma Symbol.Spelled.noControl {s : Symbol} {t : Text} (h : s.Spelled t) : NoControl t := by
  cases h with
  | number h => exact h.noControl
  | text h => simp [h.noControl]
  | _ => simp [String.toText]

lemma NoControl.normalizeNewlines {t : Text} (h : NoControl t) : Text.normalizeNewlines t = t :=
  Text.normalizeNewlines_of_noReturn fun hmem => absurd (h _ hmem) (by decide)

lemma Space.normalizeNewlines {a : Text} (h : Space a) : Space (Text.normalizeNewlines a) := by
  have hfeed : isSpace '\n' := by decide
  fun_induction Text.normalizeNewlines a with
  | case1 => exact List.forall_mem_nil _
  | case2 a ih =>
    obtain ⟨-,hrest⟩ := List.forall_mem_cons.1 h
    exact List.forall_mem_cons.2 ⟨hfeed,ih (List.forall_mem_cons.1 hrest).2⟩
  | case3 c a hc ih =>
    obtain ⟨hspace,hrest⟩ := List.forall_mem_cons.1 h
    refine List.forall_mem_cons.2 ⟨?_,ih hrest⟩
    split
    · exact hfeed
    · exact hspace

lemma Symbol.Spelled.ne_nil {s : Symbol} {t : Text} (h : s.Spelled t) : t ≠ [] := by
  cases h with
  | number h => obtain ⟨c,u,-,rfl | rfl⟩ := h.begins <;> nofun
  | _ => nofun

/-- Where a value meets the space around it no line end can arise. -/
lemma value_edges {n : Nat} {v : Json} {t : Text} (h : Spelled n (.value v) t) :
    t ≠ [] ∧ t.head? ≠ some ('\n' : CodePoint) ∧ t.getLast? ≠ some ('\r' : CodePoint) := by
  cases h with
  | scalar hs hv =>
    exact ⟨hs.ne_nil,fun h => absurd (hs.noControl _ (List.mem_of_head? h)) (by decide),
      fun h => absurd (hs.noControl _ (List.mem_of_getLast? h)) (by decide)⟩
  | emptyArray | emptyObject | array | object => simp [List.getLast?_cons]

lemma SpelledName.normalizeNewlines {k t : Text} (h : SpelledName k t) :
    SpelledName k (Text.normalizeNewlines t) := by
  obtain ⟨a,u,b,rfl,ha,hb,hu⟩ := h
  refine ⟨Text.normalizeNewlines a,u,Text.normalizeNewlines b,?_,ha.normalizeNewlines,
    hb.normalizeNewlines,hu⟩
  rw [Text.normalizeNewlines_between (by decide) (by decide),
    Text.normalizeNewlines_between (by decide) (by decide),hu.noControl.normalizeNewlines]

/-- A text stays the phrase that it is when its line ends are brought to their normal form. -/
theorem Spelled.normalizeNewlines {n : Nat} {p : Phrase} {t : Text} (h : Spelled n p t) :
    Spelled n p (Text.normalizeNewlines t) := by
  have hmark : ∀ {c : CodePoint}, c ≠ '\n' → c ≠ '\r' → ∀ t,
      Text.normalizeNewlines (c :: t) = c :: Text.normalizeNewlines t :=
    fun hn hr t => Text.normalizeNewlines_between hn hr [] t
  induction h with
  | scalar hs hv =>
    rw [hs.noControl.normalizeNewlines]
    exact .scalar hs hv
  | emptyArray ha =>
    rw [hmark (by decide) (by decide),Text.normalizeNewlines_between (by decide) (by decide)]
    exact .emptyArray ha.normalizeNewlines
  | array h ih =>
    rw [hmark (by decide) (by decide),Text.normalizeNewlines_between (by decide) (by decide)]
    exact .array ih
  | emptyObject ha =>
    rw [hmark (by decide) (by decide),Text.normalizeNewlines_between (by decide) (by decide)]
    exact .emptyObject ha.normalizeNewlines
  | object h ih =>
    rw [hmark (by decide) (by decide),Text.normalizeNewlines_between (by decide) (by decide)]
    exact .object ih
  | @spaced n v a t b ha hb h ih =>
    obtain ⟨hne,hhead,hlast⟩ := value_edges h
    have hmeet : a.getLast? = some ('\r' : CodePoint) → (t ++ b).head? ≠ some ('\n' : CodePoint) := by
      obtain ⟨c,u,rfl⟩ := List.exists_cons_of_ne_nil hne
      exact fun _ => hhead
    rw [Text.normalizeNewlines_append hmeet,Text.normalizeNewlines_append fun h => absurd h hlast]
    exact .spaced ha.normalizeNewlines hb.normalizeNewlines ih
  | lastItem hv ih => exact .lastItem ih
  | item hv h ihv ih =>
    rw [Text.normalizeNewlines_between (by decide) (by decide)]
    exact .item ihv ih
  | lastMember hk hv ih =>
    rw [Text.normalizeNewlines_between (by decide) (by decide)]
    exact .lastMember hk.normalizeNewlines ih
  | member hk hv h ihv ih =>
    rw [Text.normalizeNewlines_between (by decide) (by decide),
      Text.normalizeNewlines_between (by decide) (by decide)]
    exact .member hk.normalizeNewlines ihv ih

end ShellTemplate.Json
