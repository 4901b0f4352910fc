import ShellTemplate.Proofs.Properties.Items

/-! Variables that are assigned. Of several assignments to a name the last one stands, and it stands against
whatever a file of variables holds. A file that cannot be loaded is not made up for by assignments. -/
namespace ShellTemplate.Properties

/-- The last item that assigns to a name gives its value. -/
lemma get?_ofItems_eq_some_iff {items : List Text} {m : Bindings Text} (h : ofItems items = .ok m)
    {k v : Text} : m.get? k = some v ↔ ∃ xs ys, items = xs ++ written (k,v) :: ys ∧ ('=' : CodePoint) ∉ k ∧
      ∀ y ∈ ys, ∀ w, y ≠ written (k,w) := by
  obtain ⟨es,hnames,rfl,rfl⟩ := ofItems_ok_iff.1 h
  rw [Bindings.get?_ofList_eq_some_iff]
  constructor
  · rintro ⟨as,bs,rfl,hbs⟩
    have hk : IsName k := hnames (k,v) (by simp)
    refine ⟨as.map written,bs.map written,by simp,hk.2,List.forall_mem_map.2 fun b hb w hw => ?_⟩
    have hb' : IsName b.1 := hnames b (by simp [hb])
    exact hbs b hb (congrArg Prod.fst (written_injective hb'.2 hk.2 hw))
  · rintro ⟨xs,ys,hitems,hk,hys⟩
    obtain ⟨as,_,rfl,rfl,hrest⟩ := List.map_eq_append_iff.1 hitems
    obtain ⟨e,bs,rfl,he,rfl⟩ := List.map_eq_cons_iff.1 hrest
    have hname : IsName e.1 := hnames e (by simp)
    obtain rfl := written_injective hname.2 hk he
    refine ⟨as,bs,rfl,fun b hb hbk => ?_⟩
    exact hys _ (List.mem_map_of_mem hb) b.2 (by rw [← hbk])

lemma mem_keys_ofItems_iff {items : List Text} {m : Bindings Text} (h : ofItems items = .ok m)
    {k : Text} : k ∈ m.keys ↔ ('=' : CodePoint) ∉ k ∧ ∃ v, written (k,v) ∈ items := by
  obtain ⟨es,hnames,rfl,rfl⟩ := ofItems_ok_iff.1 h
  rw [Bindings.mem_keys_ofList]
  constructor
  · intro hk
    obtain ⟨e,he,rfl⟩ := List.mem_map.1 hk
    exact ⟨(hnames e he).2,e.2,List.mem_map_of_mem he⟩
  · rintro ⟨hname,v,hv⟩
    obtain ⟨e,he,hwritten⟩ := List.mem_map.1 hv
    obtain rfl := written_injective (hnames e he).2 hname hwritten
    exact List.mem_map_of_mem he

/-- What is loaded for the file that is chosen, or else for the usual one, which alone may be missing. -/
def loaded (depth : Nat) (files : Files) (usual : Text) :
    Option Text → Except LoadFault (Bindings Text × List Notice)
  | some path => load depth files path false
  | none => load depth files usual true

lemma collect_eq (depth : Nat) (files : Files) (usual : Text) (chosen : Option Text)
    (assigned : List (Text × Text)) : collect depth files usual chosen assigned =
      (loaded depth files usual chosen).map fun x => (x.1.putAll assigned,x.2) := by
  cases chosen <;> rfl

/-- Items are refused just if one of them is malformed, for the first that is. Else they bind the names in
front of the first `=` of any of them, each to what follows that `=` in the last item for it; so pairs that
are written as items are read as what they bind. A file that is loaded gives its values to the names that
are not assigned, and a file that is not fails whatever is assigned; one that is absent is loaded as empty
if it is the usual one, and otherwise not. -/
theorem last_assigned_wins (depth : Nat) (items : List Text) (files : Files) (usual : Text) :
    (∀ b, ofItems items = .error b ↔
      ∃ xs ys, items = xs ++ b.item :: ys ∧ Malformed b.item ∧ ∀ x ∈ xs, ¬ Malformed x) ∧
    ((∃ m, ofItems items = .ok m) ↔ ∀ item ∈ items, ¬ Malformed item) ∧
    (∀ m, ofItems items = .ok m → ∀ k,
      (k ∈ m.keys ↔ ('=' : CodePoint) ∉ k ∧ ∃ v, written (k,v) ∈ items) ∧
      ∀ v, m.get? k = some v ↔ ∃ xs ys, items = xs ++ written (k,v) :: ys ∧ ('=' : CodePoint) ∉ k ∧
        ∀ y ∈ ys, ∀ w, y ≠ written (k,w)) ∧
    (∀ es : List (Text × Text), (∀ e ∈ es, IsName e.1) → ofItems (es.map written) = .ok (.ofList es)) ∧
    ∀ assigned : Bindings Text,
      let collected := fun chosen => collect depth files usual chosen assigned.entries
      (∀ chosen f, loaded depth files usual chosen = .error f → collected chosen = .error f) ∧
      (∀ chosen inFile ns, loaded depth files usual chosen = .ok (inFile,ns) →
        ∃ m, collected chosen = .ok (m,ns) ∧ (∀ k, k ∈ m.keys ↔ k ∈ assigned.keys ∨ k ∈ inFile.keys) ∧
          ∀ k, m.get? k = (assigned.get? k).or (inFile.get? k)) ∧
      (∀ path, Absent (files path) → collected (some path) = .error (.notFound path)) ∧
      (Absent (files usual) → ∃ m, collected none = .ok (m,[]) ∧ ∀ k, m.get? k = assigned.get? k) := by
  refine ⟨fun b => ofItems_error_iff,⟨?_,?_⟩,fun m h k => ?_,?_,fun assigned => ?_⟩
  · rintro ⟨m,h⟩
    obtain ⟨es,hnames,rfl,-⟩ := ofItems_ok_iff.1 h
    exact List.forall_mem_map.2 fun e he => not_malformed_written (hnames e he)
  · intro hgood
    cases h : ofItems items with
    | ok m => exact ⟨m,rfl⟩
    | error b =>
      obtain ⟨xs,ys,rfl,hb,-⟩ := ofItems_error_iff.1 h
      exact absurd hb (hgood _ (by simp))
  · exact ⟨mem_keys_ofItems_iff h,fun v => get?_ofItems_eq_some_iff h⟩
  · exact fun es hnames => ofItems_ok_iff.2 ⟨es,hnames,rfl,rfl⟩
  · intro collected
    have hcollected : ∀ chosen, collected chosen =
        (loaded depth files usual chosen).map fun x => (x.1.putAll assigned.entries,x.2) :=
      fun chosen => collect_eq depth files usual chosen assigned.entries
    refine ⟨fun chosen f h => ?_,fun chosen inFile ns h => ?_,fun path h => ?_,fun h => ?_⟩
    · rw [hcollected,h]
      rfl
    · refine ⟨inFile.putAll assigned.entries,?_,fun k => Bindings.mem_keys_putAll_entries,
        fun k => Bindings.get?_putAll_entries ..⟩
      rw [hcollected,h]
      rfl
    · rw [hcollected,loaded,load_absent h]
      rfl
    · refine ⟨Bindings.empty.putAll assigned.entries,?_,fun k => ?_⟩
      · rw [hcollected,loaded,load_absent h]
        rfl
      · rw [Bindings.get?_putAll_entries,Bindings.get?_empty,Option.or_none]

/-- A name assigned twice, with an `=` in its first value and nothing in its last, and no file where one
may be missing. -/
theorem assigned_twice :
    let items : List Text := [['a','=','1','=','2'],['b','=','='],['a','=']]
    let nothing : Files := fun _ => .missing
    let assigned : Bindings Text := .ofList [(['a'],[]),(['b'],['='])]
    ofItems items = .ok assigned ∧ assigned.get? ['a'] = some [] ∧ Absent (nothing ['f']) ∧
    (∃ m, collect 0 nothing ['f'] none assigned.entries = .ok (m,[]) ∧ m.get? ['b'] = some (['='] : Text)) ∧
    collect 0 nothing ['f'] (some ['g']) assigned.entries = .error (.notFound ['g']) := by
  intro items nothing assigned
  have hitems : ofItems items = .ok assigned := rfl
  have habsent : ∀ path, Absent (nothing path) := fun _ => .inl rfl
  obtain ⟨-,-,hvalues,-,hcollect⟩ := last_assigned_wins 0 items nothing ['f']
  obtain ⟨-,-,hnamed,husual⟩ := hcollect assigned
  obtain ⟨m,hm,hget⟩ := husual (habsent ['f'])
  refine ⟨hitems,?_,habsent ['f'],⟨m,hm,(hget ['b']).trans rfl⟩,hnamed ['g'] (habsent ['g'])⟩
  exact ((hvalues assigned hitems ['a']).2 []).2
    ⟨[['a','=','1','=','2'],['b','=','=']],[],rfl,by decide,nofun⟩

end ShellTemplate.Properties
