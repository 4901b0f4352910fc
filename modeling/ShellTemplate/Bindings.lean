import ShellTemplate.Text.Basic

/-! Names bound to values, in the order in which the names first came. Binding a name again keeps its
place and takes the later value. -/
namespace ShellTemplate

structure Bindings (α : Type) where
  entries : List (Text × α)
  nodup : (entries.map Prod.fst).Nodup

namespace Bindings

section Lists
variable {α : Type}

/-- The value of the first pair with this name. -/
def valueOf? (k : Text) : List (Text × α) → Option α
  | [] => none
  | e :: es => if e.1 = k then some e.2 else valueOf? k es

/-- The pair put in the place of its name, or at the end. -/
def insertPair (k : Text) (v : α) : List (Text × α) → List (Text × α)
  | [] => [(k, v)]
  | e :: es => if e.1 = k then (k, v) :: es else e :: insertPair k v es

theorem map_fst_insertPair (k : Text) (v : α) (es : List (Text × α)) :
    (insertPair k v es).map Prod.fst =
      if k ∈ es.map Prod.fst then es.map Prod.fst else es.map Prod.fst ++ [k] := by
  induction es with
  | nil => simp [insertPair]
  | cons e es ih =>
    simp only [insertPair]
    by_cases h : e.1 = k
    · simp [h]
    · have hk : k ≠ e.1 := fun x => h x.symm
      simp only [h, if_false, List.map_cons, ih, List.mem_cons, hk, false_or]
      split <;> simp

theorem valueOf?_insertPair (k k' : Text) (v : α) (es : List (Text × α)) :
    valueOf? k' (insertPair k v es) = if k = k' then some v else valueOf? k' es := by
  induction es with
  | nil => simp [insertPair, valueOf?]
  | cons e es ih =>
    by_cases h : e.1 = k <;> by_cases h' : k = k' <;> grind [insertPair, valueOf?]

theorem valueOf?_append (k : Text) (es fs : List (Text × α)) :
    valueOf? k (es ++ fs) = (valueOf? k es).or (valueOf? k fs) := by
  induction es with
  | nil => simp [valueOf?]
  | cons e es ih => by_cases h : e.1 = k <;> simp [valueOf?, h, ih]

theorem valueOf?_filter_ne (k k' : Text) (es : List (Text × α)) :
    valueOf? k' (es.filter fun e => e.1 ≠ k) = if k = k' then none else valueOf? k' es := by
  induction es with
  | nil => simp [valueOf?]
  | cons e es ih => by_cases h : e.1 = k <;> by_cases h' : k = k' <;> grind [valueOf?]

end Lists

variable {α : Type}

def empty : Bindings α := ⟨[], by simp⟩

def put (b : Bindings α) (k : Text) (v : α) : Bindings α where
  entries := insertPair k v b.entries
  nodup := by
    rw [map_fst_insertPair]
    split
    · exact b.nodup
    · rename_i h
      refine List.nodup_append.2 ⟨b.nodup, by simp, ?_⟩
      rintro x hx y hy rfl
      exact h (List.mem_singleton.1 hy ▸ hx)

def erase (b : Bindings α) (k : Text) : Bindings α where
  entries := b.entries.filter fun e => e.1 ≠ k
  nodup := (List.Sublist.map Prod.fst List.filter_sublist).nodup b.nodup

def get? (b : Bindings α) (k : Text) : Option α := valueOf? k b.entries

def keys (b : Bindings α) : List Text := b.entries.map Prod.fst

def size (b : Bindings α) : Nat := b.entries.length

/-- The bindings of `b`, then those of a list, one after the other. -/
def putAll (b : Bindings α) (es : List (Text × α)) : Bindings α :=
  es.foldl (fun b e => b.put e.1 e.2) b

def ofList (es : List (Text × α)) : Bindings α := empty.putAll es

def mapValues {β : Type} (f : α → β) (b : Bindings α) : Bindings β where
  entries := b.entries.map fun e => (e.1, f e.2)
  nodup := by simpa [List.map_map, Function.comp_def] using b.nodup

@[ext] theorem ext {b c : Bindings α} (h : b.entries = c.entries) : b = c := by
  cases b; cases c; cases h; rfl

@[simp] theorem get?_empty (k : Text) : (empty : Bindings α).get? k = none := rfl

@[simp] theorem get?_put (b : Bindings α) (k k' : Text) (v : α) :
    (b.put k v).get? k' = if k = k' then some v else b.get? k' :=
  valueOf?_insertPair k k' v b.entries

@[simp] theorem get?_erase (b : Bindings α) (k k' : Text) :
    (b.erase k).get? k' = if k = k' then none else b.get? k' :=
  valueOf?_filter_ne k k' b.entries

@[simp] theorem get?_mapValues {β : Type} (f : α → β) (b : Bindings α) (k : Text) :
    (b.mapValues f).get? k = (b.get? k).map f := by
  have h (es : List (Text × α)) :
      valueOf? k (es.map fun e => (e.1, f e.2)) = (valueOf? k es).map f := by
    induction es with
    | nil => rfl
    | cons e es ih => by_cases h : e.1 = k <;> simp [valueOf?, h, ih]
  exact h b.entries

/-- The value given last for a name, or else the value that it had before. -/
theorem get?_putAll (b : Bindings α) (es : List (Text × α)) (k : Text) :
    (b.putAll es).get? k = (valueOf? k es.reverse).or (b.get? k) := by
  induction es generalizing b with
  | nil => simp [putAll, valueOf?]
  | cons e es ih =>
    have := ih (b.put e.1 e.2)
    simp only [putAll, List.foldl_cons, List.reverse_cons] at this ⊢
    rw [this, valueOf?_append, get?_put]
    cases valueOf? k es.reverse <;> simp [valueOf?]
    split <;> simp

end Bindings

end ShellTemplate
