import ShellTemplate.Template.Expansion

/-! The pass over a template: one character at a time, from left to right. The key of an expression is
asked for at the character that completes it, and what the context gives is written and never read
again. -/
namespace ShellTemplate

/-- What a pass is in the middle of: nothing, the escape `\`, a name after `%`, the character after `$`,
a name after `${`, or a default after a name. In the last two a backslash may have been read whose
effect depends on the next character. -/
inductive Reading
  | outside
  | backslash
  | percent (name : Text)
  | dollar
  | braced (name : Text) (escaped : Bool)
  | fallback (name value source : Text) (escaped : Bool)
  deriving Repr, DecidableEq

/-- What is copied if the template ends here. A default that does not end is copied as it was read. -/
def Reading.cut : Reading → Text
  | .outside => []
  | .backslash => ['\\']
  | .percent name => '%' :: name
  | .dollar => ['$']
  | .braced name escaped => '$' :: '{' :: (name ++ (if escaped then ['\\'] else [] : Text))
  | .fallback name _ source _ => '$' :: '{' :: (name ++ source)

namespace Template

/-- A character that stands in no expression. -/
def readOutside (sw : Switches) (p : Progress) (c : CodePoint) : Reading × Progress :=
  if c = '%' ∧ sw.dos then (.percent [], p)
  else if c = '$' ∧ sw.sh then (.dollar, p)
  else if c = '\\' ∧ sw.sh then (.backslash, p)
  else (.outside, p.write [c])

/-- A complete expression. -/
def close (ask : Lookup) (s : Slot) (p : Progress) : Except Expansion (Reading × Progress) :=
  (p.fill ask s).map (Reading.outside, ·)

/-- The next character. A name after `%` that no `%` ends is copied, and the character that stopped it
is read once more, now outside. -/
def step (sw : Switches) (ask : Lookup) :
    Reading × Progress → CodePoint → Except Expansion (Reading × Progress)
  | (.outside, p), c => .ok (readOutside sw p c)
  | (.backslash, p), c => .ok (.outside, p.write (if c = '$' then ['$'] else ['\\', c]))
  | (.percent name, p), c =>
    if c = '%' then
      if name = [] then .ok (.outside, p.write ['%']) else close ask ⟨.dos, name, none⟩ p
    else if Text.isAlphanumeric c then .ok (.percent (name ++ [c]), p)
    else .ok (readOutside sw (p.write ('%' :: name)) c)
  | (.dollar, p), c =>
    if c = '{' then .ok (.braced [] false, p) else .ok (.outside, p.write ['$', c])
  | (.braced name true, p), c =>
    .ok (.braced (name ++ (if c = ':' then [':'] else ['\\', c] : Text)) false, p)
  | (.braced name false, p), c =>
    if c = '}' then close ask ⟨.sh, Text.trim name, none⟩ p
    else if c = ':' ∧ sw.defaults then .ok (.fallback name [] [':'] false, p)
    else if c = '\\' then .ok (.braced name true, p)
    else .ok (.braced (name ++ [c]) false, p)
  | (.fallback name value source true, p), c =>
    let read := if c = '{' ∨ c = '}' then [c] else ['\\', c]
    .ok (.fallback name (value ++ read) (source ++ [c]) false, p)
  | (.fallback name value source false, p), c =>
    if c = '}' then close ask ⟨.sh, Text.trim name, some value⟩ p
    else if c = '\\' then .ok (.fallback name value (source ++ [c]) true, p)
    else .ok (.fallback name (value ++ [c]) (source ++ [c]) false, p)

/-- All characters of a stretch of the template, in order. -/
def pass (sw : Switches) (ask : Lookup) (s : Reading × Progress) (t : Text) :
    Except Expansion (Reading × Progress) :=
  t.foldlM (step sw ask) s

@[simp] theorem pass_nil (sw : Switches) (ask : Lookup) (s : Reading × Progress) :
    pass sw ask s [] = .ok s := rfl

theorem pass_cons (sw : Switches) (ask : Lookup) (s : Reading × Progress) (c : CodePoint) (t : Text) :
    pass sw ask s (c :: t) = (step sw ask s c).bind fun s => pass sw ask s t := rfl

theorem pass_append (sw : Switches) (ask : Lookup) (s : Reading × Progress) (t u : Text) :
    pass sw ask s (t ++ u) = (pass sw ask s t).bind fun s => pass sw ask s u :=
  List.foldlM_append

/-- The rest of a template, and its end. -/
def resume (sw : Switches) (ask : Lookup) (s : Reading × Progress) (t : Text) : Expansion :=
  match pass sw ask s t with
  | .ok (r, p) => (p.write r.cut).finish
  | .error e => e

/-- The rest of a template, unless a failure has ended the expansion. -/
def proceed (sw : Switches) (ask : Lookup) :
    Except Expansion (Reading × Progress) → Text → Expansion
  | .ok s, t => resume sw ask s t
  | .error e, _ => e

@[simp] theorem proceed_ok (sw : Switches) (ask : Lookup) (s : Reading × Progress) (t : Text) :
    proceed sw ask (.ok s) t = resume sw ask s t := rfl

@[simp] theorem proceed_error (sw : Switches) (ask : Lookup) (e : Expansion) (t : Text) :
    proceed sw ask (.error e) t = e := rfl

theorem resume_nil (sw : Switches) (ask : Lookup) (r : Reading) (p : Progress) :
    resume sw ask (r, p) [] = (p.write r.cut).finish := rfl

theorem resume_append (sw : Switches) (ask : Lookup) (s : Reading × Progress) (t u : Text) :
    resume sw ask s (t ++ u) = proceed sw ask (pass sw ask s t) u := by
  unfold resume
  rw [pass_append]
  cases pass sw ask s t <;> rfl

theorem resume_cons (sw : Switches) (ask : Lookup) (s : Reading × Progress) (c : CodePoint) (t : Text) :
    resume sw ask s (c :: t) = proceed sw ask (step sw ask s c) t := by
  unfold resume
  rw [pass_cons]
  cases step sw ask s c <;> rfl

/-- The template with each slot filled from a context that may answer by what it was asked before. -/
def expandWith (sw : Switches) (ask : Lookup) (t : Text) : Expansion :=
  resume sw ask (.outside, {}) t

/-- The template with each slot filled. -/
def expand (sw : Switches) (ask : Text → Reply) (t : Text) : Expansion :=
  expandWith sw (.steady ask) t

end Template

end ShellTemplate
