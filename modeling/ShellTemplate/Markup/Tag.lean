import ShellTemplate.Text.Basic

/-! Tags in a text, and the escape that keeps a text from having any. A tag stands in brackets, begins
with a small letter, `#`, `/` or `@` and holds no opening bracket. Backslashes directly before it are
taken in pairs, each pair for one backslash; one that is left over makes the tag plain text. -/
namespace ShellTemplate.Markup

def isTagStart (c : CodePoint) : Bool :=
  ('a' ≤ c && c ≤ 'z') || c == '#' || c == '/' || c == '@'

/-- A tag with the text between it and the one before, and how many backslashes stand directly before
its bracket. -/
structure Mark where
  before : Text
  backslashes : Nat
  tag : Text
  deriving Repr, DecidableEq

namespace Mark

/-- The tag in its brackets. -/
def bracketed (m : Mark) : Text := '[' :: (m.tag ++ ([']'] : Text))

def source (m : Mark) : Text := m.before ++ (List.replicate m.backslashes '\\' : Text) ++ m.bracketed

end Mark

/-- The tag that follows an opening bracket, and what follows it. -/
def readTag? : Text → Option (Text × Text)
  | [] => none
  | c :: t =>
    if isTagStart c then
      match Text.cutAt? ']' t with
      | some (body, r) => if body.contains '[' then none else some (c :: body, r)
      | none => none
    else none

/-- The tag that the text begins with, but for backslashes, and what follows it. -/
def readMark? : Text → Option (Mark × Text)
  | [] => none
  | c :: t =>
    if c = '\\' then
      (readMark? t).map fun (m, r) => ({ m with backslashes := m.backslashes + 1 }, r)
    else if c = '[' then (readTag? t).map fun (tag, r) => (⟨[], 0, tag⟩, r)
    else none

/-- The first tag of the text, and what follows it. -/
def nextMark? : Text → Option (Mark × Text)
  | [] => none
  | c :: t =>
    match readMark? (c :: t) with
    | some found => some found
    | none => (nextMark? t).map fun (m, r) => ({ m with before := c :: m.before }, r)

theorem readTag?_append {t tag r : Text} (h : readTag? t = some (tag, r)) :
    t = tag ++ (']' :: r : Text) := by
  cases t with
  | nil => simp [readTag?] at h
  | cons c t =>
    simp only [readTag?] at h
    split at h
    · cases hc : Text.cutAt? ']' t with
      | none => simp [hc] at h
      | some x =>
        obtain ⟨body, r'⟩ := x
        simp only [hc] at h
        split at h
        · cases h
        · cases h
          simp [(Text.cutAt?_eq_some.1 hc).1]
    · cases h

theorem readMark?_append {t r : Text} {m : Mark} (h : readMark? t = some (m, r)) :
    m.before = [] ∧ t = m.source ++ r := by
  induction t generalizing m with
  | nil => simp [readMark?] at h
  | cons c t ih =>
    simp only [readMark?] at h
    split at h
    · rename_i hc
      simp only [Option.map_eq_some_iff, Prod.exists, Prod.mk.injEq] at h
      obtain ⟨m', r', hm, rfl, rfl⟩ := h
      obtain ⟨hb, ht⟩ := ih hm
      refine ⟨hb, ?_⟩
      rw [ht, hc]
      simp [Mark.source, Mark.bracketed, hb, List.replicate_succ]
    split at h
    · rename_i hc
      simp only [Option.map_eq_some_iff, Prod.exists, Prod.mk.injEq] at h
      obtain ⟨tag, r', ht, rfl, rfl⟩ := h
      simp [Mark.source, Mark.bracketed, hc, readTag?_append ht]
    · cases h

theorem nextMark?_append {t r : Text} {m : Mark} (h : nextMark? t = some (m, r)) :
    t = m.source ++ r := by
  induction t generalizing m with
  | nil => simp [nextMark?] at h
  | cons c t ih =>
    simp only [nextMark?] at h
    cases hm : readMark? (c :: t) with
    | some x => rw [hm] at h; cases h; exact (readMark?_append hm).2
    | none =>
      rw [hm] at h
      simp only [Option.map_eq_some_iff, Prod.exists, Prod.mk.injEq] at h
      obtain ⟨m', r', hn, rfl, rfl⟩ := h
      rw [ih hn]
      simp [Mark.source, Mark.bracketed]

theorem Mark.source_length (m : Mark) : 0 < m.source.length := by
  simp only [Mark.source, Mark.bracketed, List.length_append, List.length_cons]
  omega

theorem nextMark?_length {t r : Text} {m : Mark} (h : nextMark? t = some (m, r)) :
    r.length < t.length := by
  have := m.source_length
  rw [nextMark?_append h, List.length_append]
  omega

/-- The tags of a text in order, and what follows the last one. -/
def marks (t : Text) : List Mark × Text :=
  match _h : nextMark? t with
  | none => ([], t)
  | some (m, r) =>
    let (ms, tail) := marks r
    (m :: ms, tail)
termination_by t.length
decreasing_by exact nextMark?_length _h

/-- The tags and what stands around them are the text, with nothing lost. -/
theorem marks_source (t : Text) : (marks t).1.flatMap Mark.source ++ (marks t).2 = t := by
  fun_induction marks t with
  | case1 => simp
  | case2 t m r h ms tail hms ih =>
    rw [hms] at ih
    simp only [List.flatMap_cons, List.append_assoc]
    rw [ih, ← nextMark?_append h]

/-- The mark with its tag made plain text and its backslashes kept. -/
def Mark.escaped (m : Mark) : Mark := { m with backslashes := 2 * m.backslashes + 1 }

/-- Whether the text ends with exactly one backslash. -/
def endsWithBackslash (t : Text) : Bool :=
  match t.reverse with
  | ['\\'] => true
  | '\\' :: c :: _ => c != '\\'
  | _ => false

/-- The text written so that it has no tags. A single backslash at the end is doubled, so that it does
not fall on a tag that might follow. -/
def escape (t : Text) : Text :=
  let (ms, tail) := marks t
  let written := ms.flatMap (fun m => m.escaped.source) ++ tail
  if endsWithBackslash written then written ++ (['\\'] : Text) else written

end ShellTemplate.Markup
