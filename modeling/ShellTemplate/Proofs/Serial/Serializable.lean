import ShellTemplate.Proofs.Serial.Walking

/-! Which values can be written, and what is said of the others. A container is open while its parts are
written, and one that is met while it is open ends the writing. -/
namespace ShellTemplate.Objects
variable {o : Objects} {opened entered e : List (Fin o.size)} {c d : Fin o.size} {p q r : Part o.size}
  {spot s t : List Nat} {f g : Offence} {v : Object o.size} {i : Nat}

lemma tripsAt_nil : o.TripsAt opened p [] f ↔ o.Trips opened p f := by
  constructor
  · rintro ⟨_,_,⟨⟩,ht⟩
    exact ht
  · exact fun ht => ⟨[],p,.here,ht⟩

lemma tripsAt_cons : o.TripsAt opened p (i :: spot) f ↔ ∃ c q, p = .value (.held c) ∧
    (o.contents c).parts[i]? = some q ∧ o.TripsAt (c :: opened) q spot f := by
  constructor
  · rintro ⟨_,r,h,ht⟩
    cases h with
    | into hq h =>
      rw [List.append_assoc,List.singleton_append] at ht
      exact ⟨_,_,rfl,hq,_,r,h,ht⟩
  · rintro ⟨c,q,rfl,hq,entered,r,h,ht⟩
    refine ⟨entered ++ [c],r,.into hq h,?_⟩
    rwa [List.append_assoc,List.singleton_append]

lemma not_trips_held (h : c ∉ opened) : ¬ o.Trips opened (.value (.held c)) f := by
  intro ht
  cases ht with
  | offends hf =>
    cases hf with
    | circular _ hc => exact h hc
  | again hc => exact h hc

/-- What is wrong with a part is found. -/
lemma Trips.found (h : o.Trips opened p f) : o.found opened p = some f := by
  cases h with
  | offends hf =>
    cases hf with
    | circular _ hc => exact found_open hc
    | _ => simp [Objects.found,Part.offence?,datum,Datum.offence?,Key.datum,Datum.keyOffence?]
  | again hc => exact found_open hc

/-- What is found wrong with a part that is not entered is wrong with it. -/
lemma trips_of_found (hp : ∀ c, p = .value (.held c) → c ∈ opened) (h : o.found opened p = some f) :
    o.Trips opened p f := by
  have settled : ∀ g, o.Trips opened p g → o.Trips opened p f := fun g ht => by
    obtain rfl : f = g := Option.some.inj (h.symm.trans ht.found)
    exact ht
  cases p with
  | key k =>
    cases k with
    | bytes => exact settled _ (.offends .bytesKey)
    | complex => exact settled _ (.offends .complexKey)
    | tuple => exact settled _ (.offends .tupleKey)
    | _ => cases h
  | value v =>
    cases v with
    | held c => exact settled _ (.again (hp c rfl))
    | bytes => exact settled _ (.offends .bytes)
    | complex => exact settled _ (.offends .complex)
    | set => exact settled _ (.offends .set)
    | _ => simp [found,Part.offence?,datum,Datum.offence?] at h

/-- Where nothing is found, no walk trips. -/
lemma not_tripsAt (h : o.found opened p = none) : ¬ o.TripsAt opened p spot f := by
  induction spot generalizing opened p with
  | nil =>
    intro ht
    have hf := (tripsAt_nil.1 ht).found
    rw [h] at hf
    cases hf
  | cons i spot ih =>
    rw [tripsAt_cons]
    rintro ⟨c,q,rfl,hq,ht⟩
    have hc : c ∉ opened := fun hc => by simp [found_open hc] at h
    rw [found_held hc,List.findSome?_eq_none_iff] at h
    exact ih (h q (List.mem_of_getElem? hq)) ht

/-- What is found is where the first of the walks trips. -/
lemma exists_tripsAt (h : o.found opened p = some f) :
    ∃ spot, o.TripsAt opened p spot f ∧ ∀ spot' g, o.TripsAt opened p spot' g → ¬ spot' < spot := by
  induction hn : o.closed opened using Nat.strong_induction_on generalizing opened p with
  | _ n ih =>
    by_cases hp : ∃ c, p = .value (.held c) ∧ c ∉ opened
    · obtain ⟨c,rfl,hc⟩ := hp
      rw [found_held hc,List.findSome?_eq_some_iff] at h
      obtain ⟨before,q,after,hparts,hf,hbefore⟩ := h
      obtain ⟨spot,hspot,hfirst⟩ := ih _ (hn ▸ closed_cons_lt hc) hf rfl
      refine ⟨before.length :: spot,tripsAt_cons.2 ⟨c,q,rfl,by simp [hparts],hspot⟩,?_⟩
      rintro (_ | ⟨j,spot'⟩) g hg
      · exact absurd (tripsAt_nil.1 hg) (not_trips_held hc)
      · obtain ⟨c',q',hc',hq',hg⟩ := tripsAt_cons.1 hg
        cases hc'
        rw [List.cons_lt_cons_iff]
        rintro (hj | ⟨rfl,hlt⟩)
        · rw [hparts,List.getElem?_append_left hj] at hq'
          exact not_tripsAt (hbefore q' (List.mem_of_getElem? hq')) hg
        · rw [hparts,List.getElem?_append_right le_rfl,Nat.sub_self] at hq'
          cases hq'
          exact hfirst spot' g hg hlt
    · push Not at hp
      exact ⟨[],tripsAt_nil.2 (trips_of_found hp h),fun spot' g _ => List.not_lt_nil spot'⟩

lemma tripsAt_iff : o.TripsAt [] p spot f ↔ ∃ entered q, o.Walk p spot entered q ∧ o.Trips entered q f := by
  simp only [TripsAt,List.append_nil]

lemma OffendsAt.tripsAt (h : o.OffendsAt v spot f) : o.TripsAt [] (.value v) spot f := by
  obtain ⟨entered,q,hw,hf⟩ := h
  exact tripsAt_iff.2 ⟨entered,q,hw,.offends hf⟩

/-- Nothing but a container in itself depends on what has been entered. -/
lemma Offends.elsewhere (h : o.Offends entered p f) (hf : f ≠ .circular) (e : List (Fin o.size)) :
    o.Offends e p f := by
  cases h with
  | circular => exact absurd rfl hf
  | _ => constructor

/-- A tuple can be in itself only through a list or a dictionary, which then is in itself as well. If a walk
meets a tuple in itself before it trips over anything else, the list or dictionary that it meets next in
itself is the first offence. -/
lemma firstOffence_again (hw : o.Walk (.value v) s e (.value (.held c))) (hc : c ∈ e)
    (hfirst : ∀ t g, o.TripsAt [] (.value v) t g → ¬ t < s) : o.FirstOffence v .circular := by
  -- the walk met the tuple at `s₁` and again at `s = s₁ ++ s₂`, and `s₂` goes to the list by `t₁`
  obtain ⟨s₁,s₂,e₁,e₂,hs₂,rfl,hw₁,hw₂,rfl⟩ := hw.entered_split hc
  obtain ⟨d,t₁,t₂,a₁,a₂,ht₂,rfl,hd,htuples,hd₁,hd₂,rfl⟩ := hw₂.exists_first (hw₂.not_all_tuples hs₂)
  refine ⟨s₁ ++ (t₁ ++ t₂) ++ t₁,⟨_,_,hw.append hd₁,.circular hd ?_⟩,?_⟩
  · have hmem := hd₂.begin_mem ht₂
    simp [hmem]
  · intro t g ht hlt
    obtain ⟨u,rfl,hu⟩ := goes_on_between (hfirst t g ht.tripsAt) hlt
    obtain ⟨_,q,hq,hoff⟩ := ht
    obtain ⟨b,hb,rfl⟩ := hq.rest hw
    -- the same way from where the tuple was met first trips over nothing
    have hearly := hw₁.append hb
    have hsmooth : ∀ g, ¬ o.Trips (b ++ e₁) q g := fun g hg =>
      hfirst _ g (tripsAt_iff.2 ⟨_,_,hearly,hg⟩) (List.append_left_lt (lt_append_of_lt hu t₂))
    obtain rfl | hg := eq_or_ne g .circular
    · cases hoff with | @circular d' hd' hmem =>
      -- so it leads into what the tuple was met through, and from there to the tuple again
      have hon : d' ∈ a₂ ++ a₁ := by
        have hb' : d' ∉ b := fun h => hsmooth _ (.again (by simp [h]))
        have he' : d' ∉ e₁ := fun h => hsmooth _ (.again (by simp [h]))
        simpa [hb',he'] using hmem
      obtain ⟨_,x₂,_,_,-,-,-,hback,-⟩ := hw₂.entered_split hon
      obtain ⟨w,hw',rfl⟩ | hall := begins_or_before hu
      · obtain ⟨b',hb',rfl⟩ := hd₁.rest hb
        have htuple := htuples d' (List.mem_append_left b (hb'.begin_mem hw'))
        rw [hd'] at htuple
        cases htuple
      · have hne : u ≠ [] := by
          rintro rfl
          exact List.lt_irrefl t₁ (by simpa using hall t₁ [])
        refine hfirst _ _ (tripsAt_iff.2 ⟨_,_,hearly.append hback,.again ?_⟩) ?_
        · simp [hb.begin_mem hne]
        · rw [List.append_assoc]
          exact List.append_left_lt (hall x₂ t₂)
    · exact hsmooth g (.offends (hoff.elsewhere hg _))

/-- What the walks meet is right, or somewhere something is wrong. -/
lemma writable_iff : o.Writable v ↔ ∀ spot f, ¬ o.OffendsAt v spot f := by
  constructor
  · rintro ⟨hvalue,hkey,hapart⟩ spot f ⟨entered,q,hw,hf⟩
    cases hf with
    | circular hc hmem => exact hapart _ _ _ hw hc hmem
    | bytes | complex | set => cases hvalue _ _ _ hw
    | bytesKey | complexKey | tupleKey => cases hkey _ _ _ hw
  · intro h
    refine ⟨fun spot entered x hw => ?_,fun spot entered k hw => ?_,fun spot entered c hw hc hmem =>
      h spot _ ⟨_,_,hw,.circular hc hmem⟩⟩
    · cases x with
      | bytes => exact absurd ⟨_,_,hw,.bytes⟩ (h spot _)
      | complex => exact absurd ⟨_,_,hw,.complex⟩ (h spot _)
      | set => exact absurd ⟨_,_,hw,.set⟩ (h spot _)
      | _ => rfl
    · cases k with
      | bytes => exact absurd ⟨_,_,hw,.bytesKey⟩ (h spot _)
      | complex => exact absurd ⟨_,_,hw,.complexKey⟩ (h spot _)
      | tuple => exact absurd ⟨_,_,hw,.tupleKey⟩ (h spot _)
      | _ => rfl

/-- What is found is the first offence. -/
lemma firstOffence_of_found (h : o.found [] (.value v) = some f) : o.FirstOffence v f := by
  obtain ⟨spot,hspot,hfirst⟩ := exists_tripsAt h
  obtain ⟨entered,q,hw,ht⟩ := tripsAt_iff.1 hspot
  cases ht with
  | offends hf => exact ⟨spot,⟨entered,q,hw,hf⟩,fun spot' g hg => hfirst spot' g hg.tripsAt⟩
  | again hc => exact firstOffence_again hw hc hfirst

lemma OffendsAt.unique (hf : o.OffendsAt v spot f) (hg : o.OffendsAt v spot g) : f = g := by
  obtain ⟨entered,q,hw,hf⟩ := hf
  obtain ⟨entered',q',hw',hg⟩ := hg
  obtain ⟨rfl,rfl⟩ := hw.unique hw'
  cases hf <;> cases hg <;> rfl

lemma FirstOffence.unique (hf : o.FirstOffence v f) (hg : o.FirstOffence v g) : f = g := by
  obtain ⟨s,hs,hfirst⟩ := hf
  obtain ⟨t,ht,hfirst'⟩ := hg
  obtain rfl : s = t := List.le_antisymm (hfirst t g ht) (hfirst' s f hs)
  exact hs.unique ht

/-- However objects hold one another, a value can be written just if no walk from it through lists, tuples and
the values of dictionaries meets a value without a written form, a key that is neither a text nor a number nor
a truth value nor null, or a list or a dictionary in itself. There is an answer in any case; nothing is logged
if it can be written, and otherwise one entry that says what is wrong where the first of the walks that meet
something wrong meets it. -/
theorem serializable_by_walks (o : Objects) (v : Object o.size) :
    let answer := (o.datum [] v).isSerializable
    (answer.1 = true ↔ o.Writable v) ∧
    (answer.1 = true → answer.2 = []) ∧
    (answer.1 = false → ∃ f, o.FirstOffence v f ∧ (∀ g, o.FirstOffence v g → g = f) ∧
      answer.2.map Notice.text = ["Invalid JSON data: ".toText ++ f.message]) := by
  intro answer
  have hfound : (o.datum [] v).offence? = o.found [] (.value v) := rfl
  have hanswer : answer = (o.datum [] v).isSerializable := rfl
  rw [Datum.isSerializable,hfound] at hanswer
  cases hf : o.found [] (.value v) with
  | none =>
    rw [hf] at hanswer
    have hw : o.Writable v := writable_iff.2 fun spot f h => not_tripsAt hf h.tripsAt
    rw [hanswer]
    exact ⟨iff_of_true rfl hw,fun _ => rfl,nofun⟩
  | some f =>
    rw [hf] at hanswer
    have hfirst := firstOffence_of_found hf
    have hw : ¬ o.Writable v := by
      obtain ⟨spot,hspot,-⟩ := hfirst
      exact fun h => writable_iff.1 h spot f hspot
    rw [hanswer]
    exact ⟨iff_of_false (by simp) hw,nofun,fun _ => ⟨f,hfirst,fun g hg => hg.unique hfirst,rfl⟩⟩

/-- A list that is in itself through a tuple. -/
abbrev circle : Objects where
  size := 2
  contents c := if c = 0 then .list [.held 1] else .tuple [.held 0]
  older := by
    intro c d htuple hmem
    match c with
    | 0 => cases htuple
    | 1 =>
      obtain rfl : d = 0 := by simpa [Container.parts] using hmem
      decide

lemma found_circle : circle.found [] (.value (.held (0 : Fin 2))) = some .circular := by
  have hlist : (circle.contents (0 : Fin 2)).parts = [.value (.held (1 : Fin 2))] := rfl
  have htuple : (circle.contents (1 : Fin 2)).parts = [.value (.held (0 : Fin 2))] := rfl
  rw [found_held List.not_mem_nil,hlist,List.findSome?_cons,found_held (by decide),htuple,
    List.findSome?_cons,found_open (by decide)]

/-- It cannot be written, since the walk through the tuple meets it in itself. -/
theorem circle_not_serializable :
    let answer := (circle.datum [] (.held (0 : Fin 2))).isSerializable
    answer.1 = false ∧ ¬ circle.Writable (.held (0 : Fin 2)) ∧
    circle.FirstOffence (.held (0 : Fin 2)) .circular ∧
    answer.2.map Notice.text = ["Invalid JSON data: Circular reference detected".toText] := by
  intro answer
  obtain ⟨hwritable,-,hrefused⟩ := serializable_by_walks circle (.held (0 : Fin 2))
  have hoffence : (circle.datum [] (.held (0 : Fin 2))).offence? = some .circular := found_circle
  have hanswer : answer.1 = false := by
    rw [show answer = Datum.isSerializable _ from rfl,Datum.isSerializable,hoffence]
  obtain ⟨f,hf,hunique,hnotice⟩ := hrefused hanswer
  obtain rfl := hunique _ (firstOffence_of_found found_circle)
  exact ⟨hanswer,fun h => absurd (hwritable.2 h) (ne_true_of_eq_false hanswer),hf,hnotice.trans rfl⟩

end ShellTemplate.Objects
