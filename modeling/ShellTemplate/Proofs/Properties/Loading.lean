import Mathlib.Data.Char
import Mathlib.Data.List.Dedup
import Mathlib.Data.List.Lex
import ShellTemplate.Proofs.Json.Lines
import ShellTemplate.Proofs.Json.Reading
import ShellTemplate.Proofs.Json.Writing
import ShellTemplate.Proofs.Properties.Values
import ShellTemplate.Proofs.Text.Encoding

/-! Files of variables. A file is loaded just if it is one flat object of texts written in JSON and UTF-8,
where of the members with one name only the last counts; otherwise the first thing that is wrong with it
says why not. -/
namespace ShellTemplate

namespace Text

/-- The numbers of the code points of a text, by which texts are ordered. -/
def numbers (t : Text) : List Nat := t.map CodePoint.toNat

lemma numbers_injective {a b : Text} (h : numbers a = numbers b) : a = b :=
  List.map_injective_iff.2 (fun _ _ => CodePoint.toNat_injective) h

/-- The order is that of code points. -/
lemma notAfter_iff {a b : Text} : notAfter a b ↔ numbers a ≤ numbers b := by
  rw [le_iff_lt_or_eq]
  induction a generalizing b with
  | nil => cases b <;> simp [notAfter,numbers]
  | cons c a ih =>
    cases b with
    | nil => simp [notAfter,numbers]
    | cons d b =>
      have hcd : c = d ↔ c.toNat = d.toNat := ⟨congrArg _,CodePoint.toNat_injective⟩
      simp only [notAfter,Bool.or_eq_true,Bool.and_eq_true,decide_eq_true_eq,beq_iff_eq,ih,numbers,
        List.map_cons,List.cons_lt_cons_iff,List.cons.injEq,hcd]
      tauto

end Text

/-- Names that are sorted come in the order of code points, each once if they came once. -/
lemma pairwise_sortByName {α : Type} {es : List (Text × α)} (h : (es.map Prod.fst).Nodup) :
    ((sortByName es).map Prod.fst).Pairwise fun a b => Text.numbers a < Text.numbers b := by
  have hsorted : (sortByName es).Pairwise fun a b => Text.notAfter a.1 b.1 := by
    refine List.pairwise_mergeSort (fun a b c hab hbc => ?_) (fun a b => ?_) es
    · simp only [Text.notAfter_iff] at hab hbc ⊢
      exact hab.trans hbc
    · simp only [Bool.or_eq_true,Text.notAfter_iff]
      exact le_total _ _
  have hnodup : ((sortByName es).map Prod.fst).Nodup := ((List.mergeSort_perm ..).map _).nodup_iff.2 h
  have hle : ((sortByName es).map Prod.fst).Pairwise fun a b => Text.numbers a ≤ Text.numbers b :=
    List.pairwise_map.2 (hsorted.imp Text.notAfter_iff.1)
  exact (hle.and hnodup).imp fun ⟨hab,hne⟩ =>
    lt_of_le_of_ne hab fun heq => hne (Text.numbers_injective heq)

lemma mem_sortByName {α : Type} {es : List (Text × α)} {e : Text × α} : e ∈ sortByName es ↔ e ∈ es :=
  (List.mergeSort_perm ..).mem_iff

namespace Bindings
variable {α : Type}

lemma mem_entries_iff {b : Bindings α} {k : Text} {v : α} : (k,v) ∈ b.entries ↔ b.get? k = some v := by
  refine ⟨fun h => ?_,mem_of_valueOf?⟩
  obtain ⟨as,bs,heq⟩ := List.append_of_mem h
  refine valueOf?_eq_some_iff.2 ⟨as,bs,heq,fun a ha hak => ?_⟩
  have hnodup := b.nodup
  rw [heq,List.map_append,List.map_cons] at hnodup
  exact (List.nodup_append.1 hnodup).2.2 a.1 (List.mem_map_of_mem ha) k List.mem_cons_self hak

lemma insertPair_of_not_mem {k : Text} {es : List (Text × α)} (h : k ∉ es.map Prod.fst) (v : α) :
    insertPair k v es = es ++ [(k,v)] := by
  induction es with
  | nil => rfl
  | cons e es ih =>
    rw [List.map_cons,List.mem_cons,not_or] at h
    rw [insertPair,if_neg (Ne.symm h.1),ih h.2,List.cons_append]

lemma entries_putAll {b : Bindings α} {es : List (Text × α)} (h : ((b.entries ++ es).map Prod.fst).Nodup) :
    (b.putAll es).entries = b.entries ++ es := by
  induction es generalizing b with
  | nil => exact (List.append_nil _).symm
  | cons e es ih =>
    have hnot : e.1 ∉ b.entries.map Prod.fst := by
      rw [List.map_append,List.map_cons] at h
      exact fun hmem => (List.nodup_append.1 h).2.2 _ hmem _ List.mem_cons_self rfl
    have hput : (b.put e.1 e.2).entries = b.entries ++ [e] := insertPair_of_not_mem hnot e.2
    have hrest := ih (b := b.put e.1 e.2) (by rwa [hput,List.append_assoc])
    rwa [hput,List.append_assoc] at hrest

/-- A list in which no name comes twice is bound as it is. -/
lemma entries_ofList {es : List (Text × α)} (h : (es.map Prod.fst).Nodup) : (ofList es).entries = es :=
  entries_putAll (b := empty) h

lemma size_ofList (es : List (Text × α)) : (ofList es).size = (es.map Prod.fst).dedup.length := by
  have hkeys : (ofList es).keys.length = (ofList es).size := List.length_map ..
  rw [← hkeys]
  exact ((List.perm_ext_iff_of_nodup (ofList es).nodup (List.nodup_dedup _)).2 fun k =>
    mem_keys_ofList.trans List.mem_dedup.symm).length_eq

end Bindings

namespace Properties

variable {depth : Nat}

/-- The bytes are the content, written in UTF-8 and with line ends of any kind. -/
def Contains (bytes : List UInt8) (content : Text) : Prop :=
  ∃ raw, Text.Utf8.encode? raw = some bytes ∧ content = Text.normalizeNewlines raw

/-- The content is the value, written in JSON no deeper than it may be. -/
def Document (depth : Nat) (v : Json) (content : Text) : Prop := Json.Spelled depth (.spaced v) content

/-- Of the members with a name the last has the value. -/
def Survives (members : List (Text × Json)) (k : Text) (v : Json) : Prop :=
  ∃ before after, members = before ++ (k,v) :: after ∧ ∀ m ∈ after, m.1 ≠ k

/-- The value that a name has at last is no text. -/
def Faulty (members : List (Text × Json)) (k : Text) : Prop :=
  ∃ v, Survives members k v ∧ ∀ t, v ≠ .text t

lemma survives_iff {members : List (Text × Json)} {k : Text} {v : Json} :
    Survives members k v ↔ (Bindings.ofList members).get? k = some v :=
  Bindings.get?_ofList_eq_some_iff.symm

/-- The members that a file of variables may not have. -/
lemma mem_faulty_iff (members : List (Text × Json)) (k : Text) :
    k ∈ ((Bindings.ofList members).entries.filter fun e => (asText? e.2).isNone).map Prod.fst ↔
      Faulty members k := by
  have hnone : ∀ v : Json, (asText? v).isNone = true ↔ ∀ t, v ≠ .text t := by
    intro v
    cases v <;> simp [asText?]
  constructor
  · intro h
    obtain ⟨⟨k,v⟩,he,rfl⟩ := List.mem_map.1 h
    obtain ⟨hmem,hv⟩ := List.mem_filter.1 he
    exact ⟨v,survives_iff.2 (Bindings.mem_entries_iff.1 hmem),(hnone v).1 hv⟩
  · rintro ⟨v,hv,hne⟩
    exact List.mem_map.2 ⟨(k,v),List.mem_filter.2
      ⟨Bindings.mem_entries_iff.2 (survives_iff.1 hv),(hnone v).2 hne⟩,rfl⟩

lemma ofMembers_texts {members : List (Text × Json)} (h : ∀ k, ¬ Faulty members k) (path : Text) :
    ofMembers path members = .ok ((Bindings.ofList members).mapValues asText) := by
  have hnil : ((Bindings.ofList members).entries.filter fun e => (asText? e.2).isNone) = [] :=
    List.map_eq_nil_iff.1 (List.eq_nil_iff_forall_not_mem.2 fun k hk => h k ((mem_faulty_iff members k).1 hk))
  rw [ofMembers]
  simp only [hnil]

/-- Values that are no texts are all named at once. -/
lemma ofMembers_faulty {members : List (Text × Json)} (h : ∃ k, Faulty members k) (path : Text) :
    ∃ names, ofMembers path members = .error (.notTexts path names) ∧
      names.Pairwise (fun a b => Text.numbers a < Text.numbers b) ∧
      ∀ k, k ∈ names ↔ Faulty members k := by
  have hnodup : (((Bindings.ofList members).entries.filter fun e => (asText? e.2).isNone).map
      Prod.fst).Nodup := (List.filter_sublist.map Prod.fst).nodup (Bindings.ofList members).nodup
  rw [ofMembers]
  split
  · rename_i hnil
    obtain ⟨k,hk⟩ := h
    have hk := (mem_faulty_iff members k).2 hk
    rw [hnil] at hk
    cases hk
  · refine ⟨_,rfl,pairwise_sortByName hnodup,fun k => ?_⟩
    rw [← mem_faulty_iff,List.mem_map,List.mem_map]
    simp only [mem_sortByName]

lemma ofBytes_of_contains {bytes : List UInt8} {content : Text} (h : Contains bytes content)
    (depth : Nat) (path : Text) : ofBytes depth path bytes = match Json.read depth content with
      | .error r => .error (.unreadable path content r)
      | .ok (.object members) => ofMembers path members
      | .ok _ => .error (.notObject path) := by
  obtain ⟨raw,hraw,rfl⟩ := h
  have hdecode := Text.Utf8.decode_eq_ok_iff.2 hraw
  cases hread : Json.read depth (Text.normalizeNewlines raw) with
  | error r => simp only [ofBytes,hdecode,hread]
  | ok v => cases v <;> simp only [ofBytes,hdecode,hread]

/-- A file that is an object of texts, the last member of each name counted, is loaded. -/
lemma load_texts {files : Files} {path : Text} {bytes : List UInt8} {content : Text}
    {members : List (Text × Json)} (hfile : files path = .file bytes) (hc : Contains bytes content)
    (hd : Document depth (.object members) content) (h : ∀ k, ¬ Faulty members k) (missingOk : Bool) :
    load depth files path missingOk = .ok ((Bindings.ofList members).mapValues asText,
      [.loaded (members.map Prod.fst).dedup.length path]) := by
  have hsize : ((Bindings.ofList members).mapValues asText).size = (Bindings.ofList members).size :=
    List.length_map ..
  rw [load,hfile]
  simp only [ofBytes_of_contains hc,Json.read_eq_ok_iff.2 hd,ofMembers_texts h,hsize,Bindings.size_ofList]

/-- A file that is loaded is such an object. -/
lemma document_of_load {files : Files} {path : Text} {bytes : List UInt8} {missingOk : Bool}
    {m : Bindings Text} {ns : List Notice} (hfile : files path = .file bytes)
    (h : load depth files path missingOk = .ok (m,ns)) : ∃ content members, Contains bytes content ∧
      Document depth (.object members) content ∧ ∀ k, ¬ Faulty members k := by
  obtain ⟨bytes',raw,members,hfile',hdecode,hread,hvalues⟩ | ⟨-,-,habsent⟩ := load_ok h
  · cases hfile.symm.trans hfile'
    refine ⟨_,members,⟨raw,Text.Utf8.decode_eq_ok_iff.1 hdecode,rfl⟩,Json.read_eq_ok_iff.1 hread,?_⟩
    rintro k ⟨v,hv,hne⟩
    have hk := hvalues k
    rw [member?_object,survives_iff.1 hv] at hk
    obtain ⟨t,-,ht⟩ := Option.map_eq_some_iff.1 hk.symm
    exact hne t ht.symm
  · simp [hfile,Absent] at habsent

/-- A file that is an object with other values is refused for all of them. -/
lemma load_faulty {files : Files} {path : Text} {bytes : List UInt8} {content : Text}
    {members : List (Text × Json)} (hfile : files path = .file bytes) (hc : Contains bytes content)
    (hd : Document depth (.object members) content) (h : ∃ k, Faulty members k) (missingOk : Bool) :
    ∃ names, load depth files path missingOk = .error (.notTexts path names) ∧
      names.Pairwise (fun a b => Text.numbers a < Text.numbers b) ∧
      ∀ k, k ∈ names ↔ Faulty members k := by
  obtain ⟨names,hnames,hsorted⟩ := ofMembers_faulty h path
  refine ⟨names,load_error hfile ?_ missingOk,hsorted⟩
  rw [ofBytes_of_contains hc,Json.read_eq_ok_iff.2 hd]
  exact hnames

/-- Of what is loaded each name has its last text. -/
lemma survives_of_load {files : Files} {path : Text} {bytes : List UInt8} {content : Text}
    {members : List (Text × Json)} {missingOk : Bool} {m : Bindings Text} {ns : List Notice}
    (hfile : files path = .file bytes) (hc : Contains bytes content)
    (hd : Document depth (.object members) content) (h : load depth files path missingOk = .ok (m,ns)) :
    (∀ k v, Survives members k v ↔ ∃ t, v = .text t ∧ m.get? k = some t) ∧
      ns = [.loaded (members.map Prod.fst).dedup.length path] := by
  by_cases hfaulty : ∃ k, Faulty members k
  · obtain ⟨names,hnames,-⟩ := load_faulty hfile hc hd hfaulty missingOk
    cases h.symm.trans hnames
  · have htexts : ∀ k, ¬ Faulty members k := not_exists.1 hfaulty
    cases h.symm.trans (load_texts hfile hc hd htexts missingOk)
    refine ⟨fun k v => ?_,rfl⟩
    rw [survives_iff,← member?_object,ofMembers_ok (ofMembers_texts htexts path),Option.map_eq_some_iff]
    constructor
    · rintro ⟨t,hk,hv⟩
      exact ⟨t,hv.symm,hk⟩
    · rintro ⟨t,hv,hk⟩
      exact ⟨t,hk,hv.symm⟩

/-- The texts of some variables as the members of an object. -/
def members (m : Bindings Text) : List (Text × Json) := m.entries.map fun e => (e.1,.text e.2)

lemma not_faulty_members (m : Bindings Text) (k : Text) : ¬ Faulty (members m) k := by
  rintro ⟨v,⟨before,after,heq,-⟩,hne⟩
  have hmem : (k,v) ∈ members m := heq ▸ List.mem_append_right _ List.mem_cons_self
  obtain ⟨e,-,he⟩ := List.mem_map.1 hmem
  exact hne e.2 (congrArg Prod.snd he).symm

lemma names_members (m : Bindings Text) : (members m).map Prod.fst = m.keys := by
  simp [members,Bindings.keys,Function.comp_def]

lemma ofList_members (m : Bindings Text) : (Bindings.ofList (members m)).mapValues asText = m := by
  apply Bindings.ext
  rw [Bindings.mapValues]
  simp only
  rw [Bindings.entries_ofList (names_members m ▸ m.nodup),members,List.map_map]
  exact List.map_id' _

/-- Variables that are written as an object are loaded again. -/
lemma load_members {files : Files} {path text : Text} {bytes : List UInt8} {m : Bindings Text}
    (hd : Document depth (.object (members m)) text) (hbytes : Text.Utf8.encode? text = some bytes)
    (hfile : files path = .file bytes) (missingOk : Bool) :
    load depth files path missingOk = .ok (m,[.loaded m.size path]) := by
  have hload := load_texts hfile ⟨text,hbytes,rfl⟩ hd.normalizeNewlines (not_faulty_members m) missingOk
  have hkeys : m.keys.Nodup := m.nodup
  have hsize : m.keys.length = m.size := List.length_map ..
  rwa [ofList_members,names_members,hkeys.dedup,hsize] at hload

/-- No name or value holds the two halves of a surrogate pair side by side, which JSON can only spell as
the one character that they make. -/
def Expressible (m : Bindings Text) : Prop := ∀ k v, m.get? k = some v → Json.Unpaired k ∧ Json.Unpaired v

lemma document_write {m : Bindings Text} (h : Expressible m) (hdepth : 0 < depth) :
    Document depth (.object (members m)) (Json.write (.object (members m))) := by
  obtain ⟨n,rfl⟩ : ∃ n, depth = n + 1 := ⟨depth - 1,by omega⟩
  exact Json.spelled_write_texts fun e he => h e.1 e.2 (Bindings.mem_entries_iff.1 he)

/-- Variables that are loaded could be written. -/
lemma expressible_of_load {files : Files} {path : Text} {missingOk : Bool} {m : Bindings Text}
    {ns : List Notice} (h : load depth files path missingOk = .ok (m,ns)) : Expressible m := by
  obtain ⟨bytes,raw,ms,hfile,hdecode,hread,-⟩ | ⟨-,rfl,-⟩ := load_ok h
  · have hraw := Text.Utf8.decode_eq_ok_iff.1 hdecode
    have hd : Document depth (.object ms) _ := Json.read_eq_ok_iff.1 hread
    have hall := Json.Spelled.unpaired hd (Text.Utf8.hasBytes_of_encode? hraw).normalizeNewlines
    obtain ⟨hvalues,-⟩ := survives_of_load hfile ⟨raw,hraw,rfl⟩ hd h
    intro k v hv
    obtain ⟨before,after,rfl,-⟩ := (hvalues k (.text v)).2 ⟨v,rfl,hv⟩
    obtain ⟨hk,hv⟩ := hall (k,.text v) (by simp)
    exact ⟨hk,hv v rfl⟩
  · intro k v hv
    cases hv

/-- A file that exists is loaded just if its bytes are UTF-8, its content is an object in JSON and the last
member of every name is a text; of what is loaded each name has that text, and one notice counts the names.
So variables that are written as an object, in whatever spelling, are loaded again, and whatever JSON can
express has a spelling. Else the file is refused for what is wrong with it, values that are no texts all at
once and in the order of their names. A file that is missing is loaded as empty, without notice, if it may
be missing. -/
theorem loaded_exactly (depth : Nat) (files : Files) (path : Text) (missingOk : Bool) :
    let loaded := load depth files path missingOk
    (∀ bytes, files path = .file bytes →
      ((∃ m ns, loaded = .ok (m,ns)) ↔ ∃ content ms, Contains bytes content ∧
        Document depth (.object ms) content ∧ ∀ k, ¬ Faulty ms k) ∧
      ((∀ content, ¬ Contains bytes content) → ∃ f, loaded = .error (.undecodable f)) ∧
      ∀ content, Contains bytes content →
        ((∀ v, ¬ Document depth v content) → ∃ r, loaded = .error (.unreadable path content r)) ∧
        (∀ v, Document depth v content → (∀ ms, v ≠ .object ms) → loaded = .error (.notObject path)) ∧
        ∀ ms, Document depth (.object ms) content →
          (∀ m ns, loaded = .ok (m,ns) →
            (∀ k v, Survives ms k v ↔ ∃ t, v = .text t ∧ m.get? k = some t) ∧
            ns = [.loaded (ms.map Prod.fst).dedup.length path]) ∧
          ((∃ k, Faulty ms k) → ∃ names, loaded = .error (.notTexts path names) ∧
            (LoadFault.notTexts path names).message = "Variables file ".toText ++ path ++
              " has non-string values for: ".toText ++ Text.joined ", ".toText names ∧
            names.Pairwise (fun a b => Text.numbers a < Text.numbers b) ∧
            ∀ k, k ∈ names ↔ Faulty ms k)) ∧
    (∀ m text bytes, Document depth (.object (members m)) text → Text.Utf8.encode? text = some bytes →
      files path = .file bytes → loaded = .ok (m,[.loaded m.size path])) ∧
    (∀ m, Expressible m → 0 < depth →
      Document depth (.object (members m)) (Json.write (.object (members m)))) ∧
    (∀ m ns, loaded = .ok (m,ns) → Expressible m) ∧
    (Absent (files path) → loaded = if missingOk then .ok (.empty,[]) else .error (.notFound path)) ∧
    (files path = .directory → loaded = .error (.directory path)) ∧
    (files path = .tooLong → loaded = .error (.tooLong path)) ∧
    (files path = .unreadable ∨ files path = .barred → loaded = .error (.denied path)) := by
  intro loaded
  refine ⟨fun bytes hfile => ⟨⟨?_,?_⟩,?_,fun content hc => ⟨?_,?_,fun ms hd => ⟨?_,?_⟩⟩⟩,
    fun m text bytes hd hbytes hfile => load_members hd hbytes hfile missingOk,
    fun m hm hdepth => document_write hm hdepth,fun m ns h => expressible_of_load h,
    fun h => load_absent h depth missingOk,fun h => ?_,fun h => ?_,fun h => ?_⟩
  · rintro ⟨m,ns,h⟩
    exact document_of_load hfile h
  · rintro ⟨content,ms,hc,hd,htexts⟩
    exact ⟨_,_,load_texts hfile hc hd htexts missingOk⟩
  · intro hno
    cases hdecode : Text.Utf8.decode bytes with
    | ok raw => exact absurd ⟨raw,Text.Utf8.decode_eq_ok_iff.1 hdecode,rfl⟩ (hno _)
    | error f => exact ⟨f,load_error hfile (by rw [ofBytes,hdecode]) missingOk⟩
  · intro hno
    cases hread : Json.read depth content with
    | ok v => exact absurd (Json.read_eq_ok_iff.1 hread) (hno v)
    | error r => exact ⟨r,load_error hfile (by rw [ofBytes_of_contains hc,hread]) missingOk⟩
  · intro v hd hno
    refine load_error hfile ?_ missingOk
    rw [ofBytes_of_contains hc,Json.read_eq_ok_iff.2 hd]
    cases v with
    | object ms => exact absurd rfl (hno ms)
    | _ => rfl
  · exact fun m ns h => survives_of_load hfile hc hd h
  · intro hfaulty
    obtain ⟨names,hnames,hsorted⟩ := load_faulty hfile hc hd hfaulty missingOk
    exact ⟨names,hnames,rfl,hsorted⟩
  · show load depth files path missingOk = _
    rw [load,h]
  · show load depth files path missingOk = _
    rw [load,h]
  · show load depth files path missingOk = _
    rw [load]
    obtain h | h := h <;> rw [h]

/-- A file with a line end of two characters and two escapes in it, of which one is half of a pair, and
one that is missing. -/
theorem loaded_with_escape :
    let m : Bindings Text := .ofList [(['a'],['A',.ofNat 0xD800])]
    let text := "\r\n\x7b\"a\": \"\\u0041\\ud800\"\x7d".toText
    let files : Files := fun path =>
      if path = (['f'] : Text) then .file ((Text.Utf8.encode? text).getD []) else .missing
    Document 1 (.object (members m)) text ∧ load 1 files ['f'] false = .ok (m,[.loaded 1 ['f']]) ∧
      load 1 files ['g'] false = .error (.notFound ['g']) ∧ load 1 files ['g'] true = .ok (.empty,[]) := by
  intro m text files
  have hunit : Json.SpelledUnit 0x41 ['0','0','4','1'] :=
    ⟨0,0,4,1,by decide,by decide,by decide,by decide,rfl,by decide⟩
  have hhalf : Json.SpelledUnit 0xD800 ['d','8','0','0'] :=
    ⟨13,8,0,0,by decide,by decide,by decide,by decide,rfl,by decide⟩
  have hname : Json.SpelledName ['a'] ['"','a','"'] :=
    ⟨[],['a'],[],rfl,nofun,nofun,.raw (by decide) (by decide) (by decide) .nil⟩
  have hdocument : Document 1 (.object (members m)) text :=
    .spaced (a := ['\r','\n']) (b := []) (by decide) nofun (.object (n := 0) (.lastMember hname
      (.spaced (a := [' ']) (b := []) (by decide) nofun
        (.scalar (.text (.unit hunit nofun (.unit hhalf (fun _ ⟨_,_,_,h,_⟩ => by cases h) .nil)))
          (.text _)))))
  obtain ⟨-,hwritten,-⟩ := loaded_exactly 1 files ['f'] false
  obtain ⟨-,-,-,-,hno,-⟩ := loaded_exactly 1 files ['g'] false
  obtain ⟨-,-,-,-,hyes,-⟩ := loaded_exactly 1 files ['g'] true
  exact ⟨hdocument,hwritten m text _ hdocument rfl rfl,hno (.inl rfl),hyes (.inl rfl)⟩

end Properties
end ShellTemplate
