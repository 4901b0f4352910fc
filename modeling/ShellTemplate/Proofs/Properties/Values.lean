import Mathlib.Logic.Basic
import Mathlib.Tactic.Lemma
import ShellTemplate.Properties

/-! The values of variables. A name has the value that a list gives it last; so it is with the object in a
file of variables, and a file that holds anything but texts gives none at all. -/
namespace ShellTemplate

namespace Bindings
variable {α : Type}

lemma valueOf?_eq_none {k : Text} {es : List (Text × α)} :
    valueOf? k es = none ↔ k ∉ es.map Prod.fst := by
  induction es with
  | nil => simp [valueOf?]
  | cons e es ih =>
    rw [valueOf?,List.map_cons,List.mem_cons,not_or]
    by_cases he : e.1 = k
    · simp [he]
    · simp only [if_neg he,ih,iff_and_self]
      exact fun _ => Ne.symm he

lemma mem_of_valueOf? {k : Text} {v : α} {es : List (Text × α)} (h : valueOf? k es = some v) :
    (k,v) ∈ es := by
  induction es with
  | nil => cases h
  | cons e es ih =>
    rw [valueOf?] at h
    split at h
    · cases h
      subst k
      exact List.mem_cons_self
    · exact List.mem_cons_of_mem _ (ih h)

/-- Where no name comes twice, the first pair with a name is the last. -/
lemma valueOf?_reverse {es : List (Text × α)} (h : (es.map Prod.fst).Nodup) (k : Text) :
    valueOf? k es.reverse = valueOf? k es := by
  induction es with
  | nil => rfl
  | cons e es ih =>
    obtain ⟨hnot,hes⟩ := List.nodup_cons.1 h
    rw [List.reverse_cons,valueOf?_append,ih hes]
    by_cases he : e.1 = k
    · subst k
      simp [valueOf?,valueOf?_eq_none.2 hnot]
    · simp [valueOf?,he]

lemma get?_putAll_entries (b c : Bindings α) (k : Text) :
    (b.putAll c.entries).get? k = (c.get? k).or (b.get? k) := by
  rw [get?_putAll,valueOf?_reverse c.nodup]
  rfl

lemma get?_ofList (es : List (Text × α)) (k : Text) : (ofList es).get? k = valueOf? k es.reverse := by
  rw [ofList,get?_putAll,get?_empty,Option.or_none]

lemma mem_keys_iff {b : Bindings α} {k : Text} : k ∈ b.keys ↔ ∃ v, b.get? k = some v := by
  rw [← not_iff_not,not_exists]
  exact valueOf?_eq_none.symm.trans Option.eq_none_iff_forall_ne_some

/-- The first pair with a name gives its value. -/
lemma valueOf?_eq_some_iff {k : Text} {v : α} {es : List (Text × α)} :
    valueOf? k es = some v ↔ ∃ as bs, es = as ++ (k,v) :: bs ∧ ∀ a ∈ as, a.1 ≠ k := by
  induction es with
  | nil => simp [valueOf?]
  | cons e es ih =>
    rw [valueOf?]
    constructor
    · intro h
      split at h
      · rename_i he
        obtain rfl := Option.some.inj h
        exact ⟨[],es,by rw [← he]; rfl,List.forall_mem_nil _⟩
      · rename_i he
        obtain ⟨as,bs,rfl,has⟩ := ih.1 h
        exact ⟨e :: as,bs,rfl,List.forall_mem_cons.2 ⟨he,has⟩⟩
    · rintro ⟨_ | ⟨a,as⟩,bs,h,has⟩
      · obtain ⟨rfl,rfl⟩ := List.cons.inj h
        exact if_pos rfl
      · obtain ⟨rfl,rfl⟩ := List.cons.inj h
        obtain ⟨ha,has⟩ := List.forall_mem_cons.1 has
        rw [if_neg ha]
        exact ih.2 ⟨as,bs,rfl,has⟩

/-- Of the pairs with a name, the last gives the value that a list binds to it. -/
lemma get?_ofList_eq_some_iff {k : Text} {v : α} {es : List (Text × α)} :
    (ofList es).get? k = some v ↔ ∃ as bs, es = as ++ (k,v) :: bs ∧ ∀ b ∈ bs, b.1 ≠ k := by
  rw [get?_ofList,valueOf?_eq_some_iff]
  constructor
  · rintro ⟨bs,as,h,hbs⟩
    refine ⟨as.reverse,bs.reverse,?_,fun b hb => hbs b (List.mem_reverse.1 hb)⟩
    simpa using congrArg List.reverse h
  · rintro ⟨as,bs,rfl,hbs⟩
    exact ⟨bs.reverse,as.reverse,by simp,fun b hb => hbs b (List.mem_reverse.1 hb)⟩

lemma mem_keys_ofList {k : Text} {es : List (Text × α)} :
    k ∈ (ofList es).keys ↔ k ∈ es.map Prod.fst := by
  rw [← not_iff_not]
  calc k ∉ (ofList es).keys
      ↔ valueOf? k es.reverse = none := by rw [← get?_ofList]; exact valueOf?_eq_none.symm
    _ ↔ k ∉ es.map Prod.fst := by rw [valueOf?_eq_none,List.map_reverse,List.mem_reverse]

lemma mem_keys_putAll_entries {b c : Bindings α} {k : Text} :
    k ∈ (b.putAll c.entries).keys ↔ k ∈ c.keys ∨ k ∈ b.keys := by
  simp only [mem_keys_iff,get?_putAll_entries]
  cases c.get? k <;> simp

end Bindings

namespace Properties

/-- A file holds variables: it is text with one JSON object in it, and the last member of each name is
the text that the name has for a value. -/
def Holds (depth : Nat) (files : Files) (path : Text) (loaded : Bindings Text) : Prop :=
  ∃ bytes raw members, files path = .file bytes ∧ Text.Utf8.decode bytes = .ok raw ∧
    Json.read depth (Text.normalizeNewlines raw) = .ok (.object members) ∧
    ∀ k, (Json.object members).member? k = (loaded.get? k).map .text

lemma member?_object (members : List (Text × Json)) (k : Text) :
    (Json.object members).member? k = (Bindings.ofList members).get? k := by
  have h : ∀ es : List (Text × Json), (es.find? fun m => m.1 = k).map Prod.snd =
      Bindings.valueOf? k es := by
    intro es
    induction es with
    | nil => rfl
    | cons e es ih => by_cases he : e.1 = k <;> simp [Bindings.valueOf?,he,ih]
  rw [Bindings.get?_ofList,Json.member?,h]

lemma asText?_eq_some {v : Json} {t : Text} : asText? v = some t ↔ v = .text t := by
  cases v <;> simp [asText?]

lemma ofMembers_ok {path : Text} {members : List (Text × Json)} {loaded : Bindings Text}
    (h : ofMembers path members = .ok loaded) (k : Text) :
    (Json.object members).member? k = (loaded.get? k).map .text := by
  rw [ofMembers] at h
  split at h
  · rename_i htexts
    cases h
    rw [member?_object,Bindings.get?_mapValues]
    cases hv : (Bindings.ofList members).get? k with
    | none => rfl
    | some v =>
      have hv : asText? v ≠ none := fun hn =>
        List.filter_eq_nil_iff.1 htexts _ (Bindings.mem_of_valueOf? hv) (by simp [hn])
      obtain ⟨t,ht⟩ := Option.ne_none_iff_exists'.1 hv
      obtain rfl := asText?_eq_some.1 ht
      rfl
  · cases h

lemma ofBytes_ok {depth : Nat} {path : Text} {bytes : List UInt8} {loaded : Bindings Text} {files : Files}
    (hf : files path = .file bytes) (h : ofBytes depth path bytes = .ok loaded) :
    Holds depth files path loaded := by
  rw [ofBytes] at h
  split at h
  · cases h
  · rename_i raw hd
    simp only at h
    split at h
    · cases h
    · exact ⟨bytes,raw,_,hf,hd,‹_›,ofMembers_ok h⟩
    · cases h

lemma load_error {depth : Nat} {files : Files} {path : Text} {bytes : List UInt8} {f : LoadFault}
    (hfile : files path = .file bytes) (h : ofBytes depth path bytes = .error f) (missingOk : Bool) :
    load depth files path missingOk = .error f := by
  rw [load,hfile]
  simp only [h]

/-- Nothing is found at a path. -/
def Absent (found : Found) : Prop :=
  found = .missing ∨ found = .notDirectory ∨ found = .looped ∨ found = .malformed

lemma load_absent {files : Files} {path : Text} (h : Absent (files path)) (depth : Nat) (missingOk : Bool) :
    load depth files path missingOk = if missingOk then .ok (.empty,[]) else .error (.notFound path) := by
  rw [load]
  obtain h | h | h | h := h <;> rw [h]

/-- Variables are loaded from a file that holds them, or there are none where a file may be missing and
is. -/
lemma load_ok {depth : Nat} {files : Files} {path : Text} {missingOk : Bool} {loaded : Bindings Text}
    {ns : List Notice} (h : load depth files path missingOk = .ok (loaded,ns)) :
    Holds depth files path loaded ∨ (missingOk = true ∧ loaded = .empty ∧ Absent (files path)) := by
  rw [load] at h
  split at h
  · rename_i hf
    split at h
    · cases h
      exact .inl (ofBytes_ok hf ‹_›)
    · cases h
  all_goals
    first
    | cases h
    | split at h <;> cases h
      rename_i hf hok
      exact .inr ⟨hok,rfl,by simp [Absent,hf]⟩

end Properties
end ShellTemplate
