import ShellTemplate.Proofs.Serial.Objects

/-! What is found wrong with a value, where a walk from it meets it. Of the spots where something is wrong the
first counts, in the order in which the walks go depth first. -/
namespace ShellTemplate

section
variable {s t u v w : List Nat}

/-- A list that is before another begins it, or is before it whatever follows the two. -/
lemma begins_or_before (h : u < v) : (∃ w, w ≠ [] ∧ v = u ++ w) ∨ ∀ x y, u ++ x < v ++ y := by
  induction u generalizing v with
  | nil => exact .inl ⟨v,by rintro rfl; exact List.lt_irrefl _ h,rfl⟩
  | cons a u ih =>
    cases v with
    | nil => exact absurd h (List.not_lt_nil _)
    | cons b v =>
      obtain hab | ⟨rfl,huv⟩ := List.cons_lt_cons_iff.1 h
      · exact .inr fun x y => List.cons_lt_cons_iff.2 (.inl hab)
      · obtain ⟨w,hw,rfl⟩ | hall := ih huv
        · exact .inl ⟨w,hw,rfl⟩
        · exact .inr fun x y => List.cons_lt_cons_iff.2 (.inr ⟨rfl,hall x y⟩)

lemma lt_append_of_lt (h : u < v) (y : List Nat) : u < v ++ y := by
  obtain ⟨w,hw,rfl⟩ | hall := begins_or_before h
  · obtain ⟨a,w,rfl⟩ := List.exists_cons_of_ne_nil hw
    have h : u ++ [] < u ++ a :: (w ++ y) := List.append_left_lt (List.nil_lt_cons a (w ++ y))
    simpa using h
  · simpa using hall [] y

/-- What is between a list and a longer one goes on from it. -/
lemma goes_on_between (hs : ¬ t < s) (ht : t < s ++ w) : ∃ u, t = s ++ u ∧ u < w := by
  induction s generalizing t with
  | nil => exact ⟨t,rfl,ht⟩
  | cons a s ih =>
    cases t with
    | nil => exact absurd (List.nil_lt_cons a s) hs
    | cons b t =>
      rw [List.cons_lt_cons_iff,not_or,not_and] at hs
      obtain hba | ⟨rfl,hlt⟩ := List.cons_lt_cons_iff.1 ht
      · exact absurd hba hs.1
      · obtain ⟨u,rfl,hu⟩ := ih (hs.2 rfl) hlt
        exact ⟨u,rfl,hu⟩

end

/-- Whether a key can be written. -/
def Key.isPlain : Key → Bool
  | .null | .bool _ | .int _ | .float _ | .text _ => true
  | .bytes _ | .complex _ _ | .tuple _ => false

/-- Whether a value has no written form. -/
def Object.isForeign {n : Nat} : Object n → Bool
  | .bytes _ | .complex _ _ | .set _ => true
  | _ => false

namespace Objects
variable (o : Objects)

/-- A walk from a part to a part, by the place in each container on the way, and the containers it has
entered, the last one first. -/
inductive Walk : Part o.size → List Nat → List (Fin o.size) → Part o.size → Prop
  | here {p} : Walk p [] [] p
  | into {c i p spot entered q} : (o.contents c).parts[i]? = some p → Walk p spot entered q →
      Walk (.value (.held c)) (i :: spot) (entered ++ [c]) q

/-- What is wrong with a part that is met in some containers. -/
inductive Offends (entered : List (Fin o.size)) : Part o.size → Offence → Prop
  | bytes {bs} : Offends entered (.value (.bytes bs)) (.value .bytes)
  | complex {re im} : Offends entered (.value (.complex re im)) (.value .complex)
  | set {items} : Offends entered (.value (.set items)) (.value .set)
  | bytesKey {bs} : Offends entered (.key (.bytes bs)) (.key .bytes)
  | complexKey {re im} : Offends entered (.key (.complex re im)) (.key .complex)
  | tupleKey {items} : Offends entered (.key (.tuple items)) (.key .tuple)
  | circular {c} : (o.contents c).isTuple = false → c ∈ entered →
      Offends entered (.value (.held c)) .circular

/-- No walk from the value meets a value without a written form, or a key that cannot be written, or a list
or a dictionary in itself. -/
structure Writable (v : Object o.size) : Prop where
  value : ∀ spot entered x, o.Walk (.value v) spot entered (.value x) → x.isForeign = false
  key : ∀ spot entered k, o.Walk (.value v) spot entered (.key k) → k.isPlain
  apart : ∀ spot entered c, o.Walk (.value v) spot entered (.value (.held c)) →
    (o.contents c).isTuple = false → c ∉ entered

/-- The walk to a spot meets an offence there. -/
def OffendsAt (v : Object o.size) (spot : List Nat) (f : Offence) : Prop :=
  ∃ entered q, o.Walk (.value v) spot entered q ∧ o.Offends entered q f

/-- The offence at the first of the spots where there is one. -/
def FirstOffence (v : Object o.size) (f : Offence) : Prop :=
  ∃ spot, o.OffendsAt v spot f ∧ ∀ spot' g, o.OffendsAt v spot' g → ¬ spot' < spot

/-- An offence, or a container of any kind in itself. -/
inductive Trips (entered : List (Fin o.size)) : Part o.size → Offence → Prop
  | offends {p f} : o.Offends entered p f → Trips entered p f
  | again {c} : c ∈ entered → Trips entered (.value (.held c)) .circular

/-- The same at a spot, within containers that are open already. -/
def TripsAt (opened : List (Fin o.size)) (p : Part o.size) (spot : List Nat) (f : Offence) : Prop :=
  ∃ entered q, o.Walk p spot entered q ∧ o.Trips (entered ++ opened) q f

variable {o} {opened entered e : List (Fin o.size)} {c d : Fin o.size} {p q r : Part o.size}
  {spot s t : List Nat} {f g : Offence} {v : Object o.size} {i : Nat}

namespace Walk

lemma unique {q' : Part o.size} {e' : List (Fin o.size)} (h : o.Walk p s e q) (h' : o.Walk p s e' q') :
    e = e' ∧ q = q' := by
  induction h generalizing e' q' with
  | here =>
    cases h'
    exact ⟨rfl,rfl⟩
  | into hp _ ih =>
    cases h' with
    | into hp' h' =>
      cases hp.symm.trans hp'
      obtain ⟨rfl,rfl⟩ := ih h'
      exact ⟨rfl,rfl⟩

/-- One walk and then another. -/
lemma append {e' : List (Fin o.size)} (h : o.Walk p s e q) (h' : o.Walk q t e' r) :
    o.Walk p (s ++ t) (e' ++ e) r := by
  induction h with
  | here => simpa using h'
  | into hp _ ih => simpa using Walk.into hp (ih h')

lemma split (h : o.Walk p (s ++ t) e r) :
    ∃ e₁ e₂ q, o.Walk p s e₁ q ∧ o.Walk q t e₂ r ∧ e = e₂ ++ e₁ := by
  induction s generalizing p e with
  | nil => exact ⟨[],e,p,.here,h,(List.append_nil e).symm⟩
  | cons i s ih =>
    cases h with
    | into hp h =>
      obtain ⟨e₁,e₂,q,h₁,h₂,rfl⟩ := ih h
      exact ⟨_,e₂,q,.into hp h₁,h₂,List.append_assoc ..⟩

/-- The rest of a walk. -/
lemma rest (h : o.Walk p (s ++ t) e r) (hs : o.Walk p s entered q) :
    ∃ e₂, o.Walk q t e₂ r ∧ e = e₂ ++ entered := by
  obtain ⟨e₁,e₂,q',h₁,h₂,rfl⟩ := h.split
  obtain ⟨rfl,rfl⟩ := hs.unique h₁
  exact ⟨e₂,h₂,rfl⟩

/-- A walk that has entered a container has met it before. -/
lemma entered_split (h : o.Walk p s e q) (hc : c ∈ e) :
    ∃ s₁ s₂ e₁ e₂, s₂ ≠ [] ∧ s = s₁ ++ s₂ ∧ o.Walk p s₁ e₁ (.value (.held c)) ∧
      o.Walk (.value (.held c)) s₂ e₂ q ∧ e = e₂ ++ e₁ := by
  induction h with
  | here => cases hc
  | @into d i p spot entered q hp h ih =>
    obtain hc | hc := List.mem_append.1 hc
    · obtain ⟨s₁,s₂,e₁,e₂,hne,rfl,h₁,h₂,rfl⟩ := ih hc
      exact ⟨i :: s₁,s₂,_,e₂,hne,rfl,.into hp h₁,h₂,List.append_assoc ..⟩
    · obtain rfl := List.mem_singleton.1 hc
      exact ⟨[],i :: spot,[],_,List.cons_ne_nil _ _,rfl,.here,.into hp h,(List.append_nil _).symm⟩

/-- The container in which a walk begins is entered by it. -/
lemma begin_mem (h : o.Walk (.value (.held c)) s e q) (hs : s ≠ []) : c ∈ e := by
  cases h with
  | here => exact absurd rfl hs
  | into => simp

/-- A walk through tuples goes to what was there before. -/
lemma falls (h : o.Walk (.value (.held c)) s e (.value (.held d))) (hs : s ≠ [])
    (htuples : ∀ x ∈ e, (o.contents x).isTuple) : d < c := by
  induction s generalizing c e with
  | nil => exact absurd rfl hs
  | cons i s ih =>
    cases h with
    | @into _ _ p _ entered _ hpart h =>
      have hc : (o.contents c).isTuple := htuples c (by simp)
      have hmem := List.mem_of_getElem? hpart
      cases s with
      | nil =>
        cases h
        exact o.older c d hc hmem
      | cons j s =>
        cases h with
        | @into c' _ _ _ _ _ hpart' h =>
          have hfall := ih (.into hpart' h) (List.cons_ne_nil j s) fun x hx =>
            htuples x (List.mem_append_left [c] hx)
          exact hfall.trans (o.older c c' hc hmem)

/-- A walk through a list or a dictionary has a first one of these. -/
lemma exists_first (h : o.Walk p s e q) (hmutable : ¬ ∀ x ∈ e, (o.contents x).isTuple) :
    ∃ d s₁ s₂ e₁ e₂, s₂ ≠ [] ∧ s = s₁ ++ s₂ ∧ (o.contents d).isTuple = false ∧
      (∀ x ∈ e₁, (o.contents x).isTuple) ∧ o.Walk p s₁ e₁ (.value (.held d)) ∧
      o.Walk (.value (.held d)) s₂ e₂ q ∧ e = e₂ ++ e₁ := by
  induction h with
  | here => simp at hmutable
  | @into c i p spot entered q hp h ih =>
    cases hc : (o.contents c).isTuple with
    | false =>
      exact ⟨c,[],i :: spot,[],_,List.cons_ne_nil _ _,rfl,hc,nofun,.here,.into hp h,
        (List.append_nil _).symm⟩
    | true =>
      obtain ⟨d,s₁,s₂,e₁,e₂,hne,rfl,hd,htuples,h₁,h₂,rfl⟩ :=
        ih fun hall => hmutable fun x hx => by
          obtain hx | hx := List.mem_append.1 hx
          · exact hall x hx
          · rwa [List.mem_singleton.1 hx]
      refine ⟨d,i :: s₁,s₂,e₁ ++ [c],e₂,hne,rfl,hd,fun x hx => ?_,.into hp h₁,h₂,
        List.append_assoc ..⟩
      obtain hx | hx := List.mem_append.1 hx
      · exact htuples x hx
      · rwa [List.mem_singleton.1 hx]

end Walk

/-- A container that is in itself is so through a list or a dictionary. -/
lemma Walk.not_all_tuples (h : o.Walk (.value (.held c)) s e (.value (.held c))) (hs : s ≠ []) :
    ¬ ∀ x ∈ e, (o.contents x).isTuple :=
  fun htuples => lt_irrefl c (h.falls hs htuples)

end Objects
end ShellTemplate
