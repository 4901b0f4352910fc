import ShellTemplate.Context.Reply
import ShellTemplate.Template.Token

/-! What comes of a template that is filled from a context, and what has come of it so far. Each slot asks
for its key once, when its turn comes; the first failure ends the expansion. -/
namespace ShellTemplate

/-- A context in use: its reply to a key, after it has been asked for the keys before it. -/
abbrev Lookup := List Text → Text → Reply

namespace Lookup

/-- A context whose replies do not depend on what it was asked before. -/
def steady (ask : Text → Reply) : Lookup := fun _ => ask

/-- The context as it is once it has been asked for these keys. -/
def after (ask : Lookup) (asked : List Text) : Lookup := fun keys => ask (asked ++ keys)

@[simp] theorem steady_after (ask : Text → Reply) (asked : List Text) :
    (steady ask).after asked = steady ask := rfl

@[simp] theorem after_nil (ask : Lookup) : ask.after [] = ask := rfl

@[simp] theorem after_after (ask : Lookup) (xs ys : List Text) :
    (ask.after xs).after ys = ask.after (xs ++ ys) := by
  funext keys
  simp [after]

end Lookup

/-- The keys asked for, the slots that got neither a value nor a fallback, and the text that came out or
the failure that ended the expansion. -/
structure Expansion where
  asked : List Text
  unresolved : List Slot
  outcome : Except Failure Text

namespace Expansion

/-- The expansion after a stretch that asked, left unresolved and gave out these. -/
def after (asked : List Text) (unresolved : List Slot) (out : Text) (e : Expansion) : Expansion :=
  ⟨asked ++ e.asked, unresolved ++ e.unresolved, e.outcome.map (out ++ ·)⟩

@[simp] theorem after_nil (e : Expansion) : e.after [] [] [] = e := by
  obtain ⟨asked, unresolved, outcome⟩ := e
  cases outcome <;> simp [after, Except.map]

theorem after_after (e : Expansion) (xs ys : List Text) (rs ss : List Slot) (out rest : Text) :
    (e.after ys ss rest).after xs rs out = e.after (xs ++ ys) (rs ++ ss) (out ++ rest) := by
  obtain ⟨asked, unresolved, outcome⟩ := e
  cases outcome <;> simp [after, Except.map]

end Expansion

/-- The part of an expansion that is done. -/
structure Progress where
  asked : List Text := []
  unresolved : List Slot := []
  written : Array CodePoint := #[]

namespace Progress

def write (t : Text) (p : Progress) : Progress := { p with written := p.written ++ t }

/-- Asks for the key of a slot and writes what stands for it. -/
def fill (ask : Lookup) (s : Slot) (p : Progress) : Except Expansion Progress :=
  let asked := p.asked ++ [s.key]
  match ask p.asked s.key with
  | .value v => .ok ({ p with asked }.write v.shown)
  | .failure f => .error ⟨asked, p.unresolved, .error f⟩
  | .absent =>
    match s.fallback with
    | some d => .ok ({ p with asked }.write d)
    | none => .ok ({ p with asked, unresolved := p.unresolved ++ [s] }.write s.unresolved)

/-- The expansion that ends here. -/
def finish (p : Progress) : Expansion := ⟨p.asked, p.unresolved, .ok p.written.toList⟩

@[simp] theorem write_asked (t : Text) (p : Progress) : (p.write t).asked = p.asked := rfl

@[simp] theorem write_unresolved (t : Text) (p : Progress) :
    (p.write t).unresolved = p.unresolved := rfl

@[simp] theorem write_written (t : Text) (p : Progress) :
    (p.write t).written.toList = p.written.toList ++ t := by simp [write]

@[simp] theorem write_nil (p : Progress) : p.write [] = p := by simp [write]

@[simp] theorem write_write (t u : Text) (p : Progress) :
    (p.write t).write u = p.write (t ++ u) := by
  have h : p.written ++ t ++ u = p.written ++ (t ++ u) := Array.ext' (by simp)
  simp only [write, h]

end Progress

end ShellTemplate
