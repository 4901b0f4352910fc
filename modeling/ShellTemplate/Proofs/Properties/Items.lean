import ShellTemplate.Proofs.Properties.Values

/-! Items that assign to variables. Reading items accepts exactly what writing pairs of a name and a value
produces, and otherwise refuses them for the first that is malformed. -/
namespace ShellTemplate.Properties

/-- The item that assigns a value to a name. -/
def written (e : Text × Text) : Text := e.1 ++ ('=' :: e.2 : Text)

/-- A name that an item can assign to. -/
def IsName (k : Text) : Prop := k ≠ [] ∧ ('=' : CodePoint) ∉ k

/-- An item that assigns to no name: it has no `=`, or it begins with one. -/
def Malformed (item : Text) : Prop := ('=' : CodePoint) ∉ item ∨ item.head? = some ('=' : CodePoint)

lemma cutAt?_written {e : Text × Text} (h : ('=' : CodePoint) ∉ e.1) : Text.cutAt? '=' (written e) = some e :=
  Text.cutAt?_eq_some.2 ⟨rfl,h⟩

lemma written_injective {d e : Text × Text} (hd : ('=' : CodePoint) ∉ d.1) (he : ('=' : CodePoint) ∉ e.1)
    (h : written d = written e) : d = e :=
  Option.some.inj ((cutAt?_written hd).symm.trans ((congrArg _ h).trans (cutAt?_written he)))

lemma ofItem_ok {item : Text} {e : Text × Text} (h : ofItem item = .ok e) :
    Text.cutAt? '=' item = some e := by
  rw [ofItem] at h
  split at h
  · cases h
    assumption
  · cases h

/-- An item is read as a pair just if it is the pair written. -/
lemma ofItem_ok_iff {item : Text} {e : Text × Text} :
    ofItem item = .ok e ↔ IsName e.1 ∧ item = written e := by
  obtain ⟨k,v⟩ := e
  constructor
  · intro h
    obtain ⟨hitem,hname⟩ := Text.cutAt?_eq_some.1 (ofItem_ok h)
    refine ⟨⟨?_,hname⟩,hitem⟩
    rintro rfl
    rw [ofItem,ofItem_ok h] at h
    cases h
  · rintro ⟨⟨hne,hname⟩,rfl⟩
    obtain ⟨c,cs,rfl⟩ := List.exists_cons_of_ne_nil hne
    rw [ofItem,cutAt?_written hname]

lemma not_malformed_written {e : Text × Text} (h : IsName e.1) : ¬ Malformed (written e) := by
  obtain ⟨k,v⟩ := e
  obtain ⟨hne,hname⟩ := h
  obtain ⟨c,cs,rfl⟩ := List.exists_cons_of_ne_nil hne
  rintro (hno | hhead)
  · exact hno (by simp [written])
  · obtain rfl : c = '=' := Option.some.inj hhead
    exact hname List.mem_cons_self

lemma ofItem_error_iff {item : Text} {b : BadItem} :
    ofItem item = .error b ↔ b.item = item ∧ Malformed item := by
  constructor
  · intro h
    rw [ofItem] at h
    split at h
    · cases h
    · rename_i hcut
      cases h
      refine ⟨rfl,?_⟩
      cases hc : Text.cutAt? '=' item with
      | none => exact .inl (Text.cutAt?_eq_none.1 hc)
      | some x =>
        obtain ⟨_ | ⟨k,ks⟩,value⟩ := x
        · obtain ⟨rfl,-⟩ := Text.cutAt?_eq_some.1 hc
          exact .inr rfl
        · exact absurd hc (hcut k ks value)
  · rintro ⟨rfl,hb⟩
    cases h : ofItem b.item with
    | error c =>
      rw [ofItem] at h
      split at h <;> cases h
      rfl
    | ok e =>
      obtain ⟨hname,hitem⟩ := ofItem_ok_iff.1 h
      exact absurd (hitem ▸ hb) (not_malformed_written hname)

/-- Items are read as pairs just if they are the pairs written. -/
lemma mapM_ofItem_ok_iff {items : List Text} {es : List (Text × Text)} :
    items.mapM ofItem = .ok es ↔ (∀ e ∈ es, IsName e.1) ∧ items = es.map written := by
  induction items generalizing es with
  | nil => cases es <;> simp [pure,Except.pure]
  | cons item items ih =>
    rw [List.mapM_cons]
    constructor
    · intro h
      cases hi : ofItem item with
      | error b => rw [hi] at h; cases h
      | ok e =>
        cases hr : items.mapM ofItem with
        | error b => rw [hi,hr] at h; cases h
        | ok es' =>
          rw [hi,hr] at h
          cases h
          obtain ⟨hname,rfl⟩ := ofItem_ok_iff.1 hi
          obtain ⟨hnames,rfl⟩ := ih.1 hr
          exact ⟨List.forall_mem_cons.2 ⟨hname,hnames⟩,rfl⟩
    · rintro ⟨hnames,h⟩
      cases es with
      | nil => cases h
      | cons e es =>
        obtain ⟨rfl,hitems⟩ := List.cons.inj h
        obtain ⟨hname,hnames⟩ := List.forall_mem_cons.1 hnames
        rw [ofItem_ok_iff.2 ⟨hname,rfl⟩,ih.2 ⟨hnames,hitems⟩]
        rfl

/-- Items are refused for the first among them that is malformed. -/
lemma mapM_ofItem_error_iff {items : List Text} {b : BadItem} : items.mapM ofItem = .error b ↔
    ∃ xs ys, items = xs ++ b.item :: ys ∧ Malformed b.item ∧ ∀ x ∈ xs, ¬ Malformed x := by
  induction items with
  | nil => simp [pure,Except.pure]
  | cons item items ih =>
    rw [List.mapM_cons]
    cases hi : ofItem item with
    | error c =>
      obtain ⟨rfl,hc⟩ := ofItem_error_iff.1 hi
      constructor
      · rintro ⟨⟩
        exact ⟨[],items,rfl,hc,nofun⟩
      · rintro ⟨_ | ⟨x,xs⟩,ys,h,-,hxs⟩
        · obtain ⟨hitem,-⟩ := List.cons.inj h
          cases b
          cases c
          cases hitem
          rfl
        · obtain ⟨rfl,-⟩ := List.cons.inj h
          exact absurd hc (hxs _ List.mem_cons_self)
    | ok e =>
      obtain ⟨hname,rfl⟩ := ofItem_ok_iff.1 hi
      have hgood := not_malformed_written hname
      have htail : ((do return e :: (← items.mapM ofItem)) : Except BadItem _) = .error b ↔
          items.mapM ofItem = .error b := by
        cases items.mapM ofItem <;> simp [bind,Except.bind,pure,Except.pure]
      refine (htail.trans ih).trans ⟨?_,?_⟩
      · rintro ⟨xs,ys,rfl,hb,hxs⟩
        exact ⟨written e :: xs,ys,rfl,hb,List.forall_mem_cons.2 ⟨hgood,hxs⟩⟩
      · rintro ⟨_ | ⟨x,xs⟩,ys,h,hb,hxs⟩
        · exact absurd ((List.cons.inj h).1 ▸ hb) hgood
        · obtain ⟨rfl,rfl⟩ := List.cons.inj h
          exact ⟨xs,ys,rfl,hb,fun x hx => hxs x (List.mem_cons_of_mem _ hx)⟩

lemma ofItems_ok_iff {items : List Text} {m : Bindings Text} : ofItems items = .ok m ↔
    ∃ es, (∀ e ∈ es, IsName e.1) ∧ items = es.map written ∧ m = .ofList es := by
  rw [ofItems]
  constructor
  · intro h
    cases hm : items.mapM ofItem with
    | error b => rw [hm] at h; cases h
    | ok es =>
      rw [hm] at h
      cases h
      obtain ⟨hnames,hitems⟩ := mapM_ofItem_ok_iff.1 hm
      exact ⟨es,hnames,hitems,rfl⟩
  · rintro ⟨es,hnames,hitems,rfl⟩
    rw [mapM_ofItem_ok_iff.2 ⟨hnames,hitems⟩]
    rfl

lemma ofItems_error_iff {items : List Text} {b : BadItem} : ofItems items = .error b ↔
    ∃ xs ys, items = xs ++ b.item :: ys ∧ Malformed b.item ∧ ∀ x ∈ xs, ¬ Malformed x := by
  rw [← mapM_ofItem_error_iff,ofItems]
  cases items.mapM ofItem <;> simp [Except.map]

end ShellTemplate.Properties
