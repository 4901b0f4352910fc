import ShellTemplate.Proofs.Properties.Loading
import ShellTemplate.Proofs.Version.Assignment

/-! The version of a file. The search goes from one line start to the next and takes the first assignment,
so nothing that is tried in vain hides a later one. -/
namespace ShellTemplate.VersionLine
open Properties (Absent Contains)

/-- A position begins a line: it stands behind a line feed, or it is the first one and `first` says so. -/
def Begins (first : Bool) (t : Text) : Nat → Prop
  | 0 => first
  | p + 1 => t[p]? = some ('\n' : CodePoint)

instance (first : Bool) (t : Text) (p : Nat) : Decidable (Begins first t p) :=
  match p with
  | 0 => inferInstanceAs (Decidable (first = true))
  | p + 1 => inferInstanceAs (Decidable (t[p]? = some ('\n' : CodePoint)))

/-- At this position a line begins, and with it the assignment of a version. -/
def AssignedAt (first : Bool) (t : Text) (p : Nat) (v : Text) : Prop :=
  Begins first t p ∧ Assigns (t.drop p) v

/-- No assignment stands before this one. -/
def FirstAt (first : Bool) (t : Text) (p : Nat) (v : Text) : Prop :=
  AssignedAt first t p v ∧ ∀ p' v', AssignedAt first t p' v' → p ≤ p'

/-- What is assigned at a position is settled. -/
lemma AssignedAt.unique {first : Bool} {t v v' : Text} {p : Nat} (h : AssignedAt first t p v)
    (h' : AssignedAt first t p v') : v = v' :=
  Option.some.inj ((atStart?_eq_some_iff.2 h.2).symm.trans (atStart?_eq_some_iff.2 h'.2))

lemma FirstAt.unique {first : Bool} {t v v' : Text} {p p' : Nat} (h : FirstAt first t p v)
    (h' : FirstAt first t p' v') : v = v' := by
  obtain rfl : p = p' := Nat.le_antisymm (h.2 p' v' h'.1) (h'.2 p v h.1)
  exact h.1.unique h'.1

lemma not_assigns_nil (v : Text) : ¬ Assigns [] v := by
  intro h
  exact absurd (atStart?_eq_some_iff.2 h) nofun

lemma begins_cons_succ {first : Bool} {c : CodePoint} {t : Text} {p : Nat} :
    Begins first (c :: t) (p + 1) ↔ Begins (c = '\n') t p := by
  cases p <;> simp [Begins]

lemma assignedAt_cons_zero {first : Bool} {c : CodePoint} {t v : Text} :
    AssignedAt first (c :: t) 0 v ↔ (if first then atStart? (c :: t) else none) = some v := by
  cases first <;> simp [AssignedAt,Begins,atStart?_eq_some_iff]

lemma assignedAt_cons_succ {first : Bool} {c : CodePoint} {t v : Text} {p : Nat} :
    AssignedAt first (c :: t) (p + 1) v ↔ AssignedAt (c = '\n') t p v := by
  rw [AssignedAt,begins_cons_succ,List.drop_succ_cons,AssignedAt]

lemma find?_eq_none_iff {first : Bool} {t : Text} :
    find? first t = none ↔ ∀ p v, ¬ AssignedAt first t p v := by
  induction t generalizing first with
  | nil => simp [find?,AssignedAt,not_assigns_nil]
  | cons c t ih =>
    rw [find?]
    cases hc : if first then atStart? (c :: t) else none with
    | some v =>
      simp only [reduceCtorEq,false_iff]
      exact fun h => h 0 v (assignedAt_cons_zero.2 hc)
    | none =>
      simp only [ih]
      constructor
      · intro h p v
        cases p with
        | zero => simp [assignedAt_cons_zero,hc]
        | succ p => exact fun hp => h p v (assignedAt_cons_succ.1 hp)
      · intro h p v hp
        exact h (p + 1) v (assignedAt_cons_succ.2 hp)

/-- The search finds the first assignment. -/
theorem firstAt_of_find? {first : Bool} {t v : Text} (h : find? first t = some v) :
    ∃ p, FirstAt first t p v := by
  induction t generalizing first with
  | nil => cases h
  | cons c t ih =>
    rw [find?] at h
    cases hc : if first then atStart? (c :: t) else none with
    | some w =>
      rw [hc] at h
      obtain rfl := Option.some.inj h
      exact ⟨0,assignedAt_cons_zero.2 hc,fun p' v' _ => Nat.zero_le p'⟩
    | none =>
      rw [hc] at h
      obtain ⟨p,hp,hleast⟩ := ih h
      refine ⟨p + 1,assignedAt_cons_succ.2 hp,fun p' v' h' => ?_⟩
      cases p' with
      | zero =>
        rw [assignedAt_cons_zero,hc] at h'
        cases h'
      | succ p' =>
        have := hleast p' v' (assignedAt_cons_succ.1 h')
        omega

theorem find?_eq_some_iff {first : Bool} {t v : Text} :
    find? first t = some v ↔ ∃ p, FirstAt first t p v := by
  constructor
  · exact firstAt_of_find?
  · rintro ⟨p,hp⟩
    cases h : find? first t with
    | none => exact absurd hp.1 (find?_eq_none_iff.1 h p v)
    | some w =>
      obtain ⟨q,hq⟩ := firstAt_of_find? h
      rw [hq.unique hp]

/-- A text with a character that another has not is no beginning of that one. -/
lemma beginning_of_append {w a b : Text} (h : w <+: a ++ b) {c : CodePoint} (hc : c ∈ a) (hw : c ∉ w) :
    w <+: a := by
  have ha : a <+: a ++ b := ⟨b,rfl⟩
  obtain h | h := List.prefix_or_prefix_of_prefix h ha
  · exact h
  · exact absurd (h.subset hc) hw

/-- Behind lines none of which begins with the name, an assignment is the first. -/
lemma firstAt_behind {a t v : Text} (ha : a = [] ∨ a.getLast? = some ('\n' : CodePoint))
    (hno : ∀ p, Begins true a p → ¬ "__version__".toText <+: a.drop p) (ht : Assigns t v) :
    FirstAt true (a ++ t) a.length v := by
  have hbegins : Begins true (a ++ t) a.length := by
    obtain rfl | hlast := ha
    · rfl
    · obtain ⟨b,rfl⟩ := List.getLast?_eq_some_iff.1 hlast
      simp [Begins]
  refine ⟨⟨hbegins,by rwa [List.drop_left]⟩,fun p w h => ?_⟩
  by_contra hlt
  have hp : p < a.length := Nat.lt_of_not_le hlt
  have hbefore : Begins true a p := by
    cases p with
    | zero => rfl
    | succ p =>
      have hp' : p < a.length := by omega
      exact (List.getElem?_append_left hp').symm.trans h.1
  have hname : "__version__".toText <+: a.drop p ++ t := by
    obtain ⟨-,h⟩ := h
    rw [List.drop_append_of_le_length hp.le] at h
    generalize a.drop p ++ t = u at h
    cases h
    exact List.prefix_append ..
  -- the line is complete in front of the assignment, and the name holds no line feed
  have hfeed : ('\n' : CodePoint) ∈ a.drop p := by
    obtain rfl | hlast := ha
    · exact absurd hp (Nat.not_lt_zero p)
    · apply List.mem_of_getLast?
      rw [List.getLast?_drop,if_neg (by omega),hlast]
  exact hno p hbefore (beginning_of_append hname hfeed (by decide))

/-- The line of an assignment as it is usually written. -/
lemma assigns_line {note v : Text} (hnote : Note note) (hne : v ≠ []) (hv : ∀ x ∈ v, ¬ isQuote x)
    (rest : Text) :
    Assigns ("__version__".toText ++ (note ++ (" = \"".toText ++ (v ++ ('"' :: rest : Text))))) v := by
  have hblank : ∀ x ∈ ([' '] : Text), Text.isBlank x := List.forall_mem_singleton.2 (by decide)
  exact .intro (a := []) nofun hnote hblank hblank (by decide) hne hv (by decide)

/-- Bytes have one content at most. -/
lemma contains_unique {bytes : List UInt8} {content content' : Text} (h : Contains bytes content)
    (h' : Contains bytes content') : content = content' := by
  obtain ⟨raw,hraw,rfl⟩ := h
  obtain ⟨raw',hraw',rfl⟩ := h'
  rw [← Text.Utf8.decode_eq_ok_iff] at hraw hraw'
  rw [Except.ok.inj (hraw.symm.trans hraw')]

/-- What comes of a path, by what is found at it. -/
inductive Gives (found : Found) (path : Text) : Except Fault Text → Prop
  | absent (h : Absent found) : Gives found path (.error (.notFound path))
  | directory (h : found = .directory) : Gives found path (.error (.directory path))
  | tooLong (h : found = .tooLong) : Gives found path (.error (.tooLong path))
  | denied (h : found = .unreadable ∨ found = .barred) : Gives found path (.error (.denied path))
  | undecodable {bytes f} (h : found = .file bytes) (hno : ∀ content, ¬ Contains bytes content) :
      Gives found path (.error (.undecodable f))
  | noVersion {bytes content} (h : found = .file bytes) (hc : Contains bytes content)
      (hno : ∀ p v, ¬ AssignedAt true content p v) : Gives found path (.error (.noVersion path))
  | version {bytes content p v} (h : found = .file bytes) (hc : Contains bytes content)
      (hp : FirstAt true content p v) : Gives found path (.ok v)

lemma gives_ofFile (files : Files) (path : Text) :
    Gives (files (Path.plain path)) path (ofFile files path) := by
  rw [ofFile]
  cases files (Path.plain path) with
  | missing => exact .absent (.inl rfl)
  | notDirectory => exact .absent (.inr (.inl rfl))
  | looped => exact .absent (.inr (.inr (.inl rfl)))
  | malformed => exact .absent (.inr (.inr (.inr rfl)))
  | directory => exact .directory rfl
  | tooLong => exact .tooLong rfl
  | unreadable => exact .denied (.inl rfl)
  | barred => exact .denied (.inr rfl)
  | file bytes =>
    cases hdecode : Text.Utf8.decode bytes with
    | error f =>
      simp only [hdecode]
      refine .undecodable rfl ?_
      rintro content ⟨raw,hraw,-⟩
      rw [Text.Utf8.decode_eq_ok_iff.2 hraw] at hdecode
      cases hdecode
    | ok raw =>
      have hc : Contains bytes (Text.normalizeNewlines raw) :=
        ⟨raw,Text.Utf8.decode_eq_ok_iff.1 hdecode,rfl⟩
      simp only [hdecode]
      split
      · obtain ⟨p,hp⟩ := find?_eq_some_iff.1 ‹_›
        exact .version rfl hc hp
      · exact .noVersion rfl hc (find?_eq_none_iff.1 ‹_›)

section
variable {path content v : Text} {bytes : List UInt8} {found : Found} {result : Except Fault Text}

/-- A file of text gives its first version, or says that it has none. -/
lemma Gives.of_contains (h : Gives (.file bytes) path result) (hc : Contains bytes content) :
    (∃ p v, FirstAt true content p v ∧ result = .ok v) ∨
      ((∀ p v, ¬ AssignedAt true content p v) ∧ result = .error (.noVersion path)) := by
  cases h with
  | absent h => simp [Absent] at h
  | directory h => cases h
  | tooLong h => cases h
  | denied h => simp at h
  | undecodable h hno =>
    cases h
    exact absurd hc (hno content)
  | noVersion h hc' hno =>
    cases h
    rw [contains_unique hc hc']
    exact .inr ⟨hno,rfl⟩
  | version h hc' hp =>
    cases h
    rw [contains_unique hc hc']
    exact .inl ⟨_,_,hp,rfl⟩

lemma Gives.ok_iff (h : Gives (.file bytes) path result) (hc : Contains bytes content) :
    result = .ok v ↔ ∃ p, FirstAt true content p v := by
  obtain ⟨p,w,hp,rfl⟩ | ⟨hno,rfl⟩ := h.of_contains hc
  · constructor
    · intro hv
      obtain rfl := Except.ok.inj hv
      exact ⟨p,hp⟩
    · rintro ⟨q,hq⟩
      rw [hp.unique hq]
  · simp only [reduceCtorEq,false_iff]
    rintro ⟨p,hp⟩
    exact hno p v hp.1

lemma Gives.noVersion_iff (h : Gives found path result) :
    result = .error (.noVersion path) ↔ ∃ bytes content, found = .file bytes ∧
      Contains bytes content ∧ ∀ p v, ¬ AssignedAt true content p v := by
  constructor
  · rintro rfl
    cases h with
    | noVersion h hc hno => exact ⟨_,_,h,hc,hno⟩
  · rintro ⟨bytes,content,rfl,hc,hno⟩
    obtain ⟨p,v,hp,-⟩ | ⟨-,hresult⟩ := h.of_contains hc
    · exact absurd hp.1 (hno p v)
    · exact hresult

lemma Gives.notFound_iff (h : Gives found path result) :
    result = .error (.notFound path) ↔ Absent found := by
  cases h with
  | absent h => simp [h]
  | directory h => simp [h,Absent]
  | tooLong h => simp [h,Absent]
  | denied h => obtain h | h := h <;> simp [h,Absent]
  | undecodable h => simp [h,Absent]
  | noVersion h => simp [h,Absent]
  | version h => simp [h,Absent]

end

/-- What comes of a path is settled by what is found at it (`Gives`). A file of text gives the version that
is assigned at the first position where a line begins with an assignment, and such a position settles the
version. So behind lines none of which begins with the name, a line that assigns a version to it, with an
annotation or without, gives that version. The fault is that nothing was found, or that there is no version,
exactly if nothing is at the path, or a file of text in which no line begins with an assignment. -/
theorem first_assigned_found (files : Files) (path : Text) :
    let found := files (Path.plain path)
    let result := ofFile files path
    Gives found path result ∧
    (∀ bytes content, found = .file bytes → Contains bytes content →
      (∀ v, result = .ok v ↔ ∃ p, FirstAt true content p v) ∧
      (∀ p v v', AssignedAt true content p v → AssignedAt true content p v' → v = v') ∧
      ∀ a note v rest, (a = [] ∨ a.getLast? = some ('\n' : CodePoint)) →
        (∀ p, Begins true a p → ¬ "__version__".toText <+: a.drop p) → Note note → v ≠ [] →
        (∀ x ∈ v, ¬ isQuote x) →
        content = a ++ ("__version__".toText ++ (note ++ (" = \"".toText ++ (v ++ ('"' :: rest : Text))))) →
        result = .ok v) ∧
    (result = .error (.notFound path) ↔ Absent found) ∧
    (result = .error (.noVersion path) ↔ ∃ bytes content, found = .file bytes ∧
      Contains bytes content ∧ ∀ p v, ¬ AssignedAt true content p v) := by
  intro found result
  have hgives : Gives found path result := gives_ofFile files path
  refine ⟨hgives,fun bytes content hfile hc => ?_,hgives.notFound_iff,hgives.noVersion_iff⟩
  rw [hfile] at hgives
  refine ⟨fun v => hgives.ok_iff hc,fun p v v' => AssignedAt.unique,?_⟩
  rintro a note v rest ha hno hnote hne hv rfl
  exact (hgives.ok_iff hc).2 ⟨a.length,firstAt_behind ha hno (assigns_line hnote hne hv rest)⟩

/-- A line of a longer name, and behind it the annotated version. -/
theorem annotated_version_found :
    let a : Text := "my__version__ = \"0\"\n".toText
    let note : Text := ": Final[str]".toText
    let content := a ++ ("__version__".toText ++ (note ++ (" = \"".toText ++ ('1' :: ['"'] : Text))))
    let bytes := (Text.Utf8.encode? content).getD []
    let files : Files := fun path => if path = (['f'] : Text) then .file bytes else .missing
    Contains bytes content ∧ a.getLast? = some ('\n' : CodePoint) ∧
    (∀ p, Begins true a p → ¬ "__version__".toText <+: a.drop p) ∧ Note note ∧
    ofFile files ['f'] = .ok ['1'] := by
  intro a note content bytes files
  have hc : Contains bytes content := ⟨content,rfl,by decide⟩
  have hfile : files (Path.plain ['f']) = .file bytes := rfl
  have hlast : a.getLast? = some ('\n' : CodePoint) := rfl
  have hno : ∀ p, Begins true a p → ¬ "__version__".toText <+: a.drop p := by
    have hshort : ∀ p ≤ 9, Begins true a p → ¬ "__version__".toText <+: a.drop p := by decide
    intro p hp hname
    have hlength : 11 ≤ 20 - p := by
      have hle := hname.length_le
      rwa [List.length_drop] at hle
    exact hshort p (by omega) hp hname
  have hblank : ∀ x ∈ ([' '] : Text), Text.isBlank x := List.forall_mem_singleton.2 (by decide)
  have htype : ∀ x ∈ "Final[str]".toText, isTypeChar x := List.all_eq_true.1 (by decide)
  have hnote : Note note := .type hblank (by decide) htype
  have hquote : ∀ x ∈ (['1'] : Text), ¬ isQuote x := List.forall_mem_singleton.2 (by decide)
  obtain ⟨-,htext,-⟩ := first_assigned_found files ['f']
  obtain ⟨-,-,hline⟩ := htext _ _ hfile hc
  exact ⟨hc,hlast,hno,hnote,
    hline a note ['1'] [] (.inr hlast) hno hnote (by decide) hquote rfl⟩

/-- A name that is longer than names can be is refused, although nothing is found at it. -/
theorem long_name_refused :
    let path : Text := List.replicate 256 'a'
    let found := FileTree.empty.look (Path.plain path)
    let result := ofFile FileTree.empty.look path
    (∀ bytes, found ≠ .file bytes) ∧ found ≠ .directory ∧ result = .error (.tooLong path) ∧
    result ≠ .error (.notFound path) ∧ result ≠ .error (.noVersion path) := by
  intro path found result
  have hfound : found = .tooLong := by decide +kernel
  have hresult : result = .error (.tooLong path) := by
    simp only [result,ofFile,show FileTree.empty.look (Path.plain path) = .tooLong from hfound]
  simp [hfound,hresult]

end ShellTemplate.VersionLine
