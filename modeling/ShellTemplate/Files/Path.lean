import ShellTemplate.Text.Basic

/-! The text of a path in its plain form. -/
namespace ShellTemplate.Path

/-- The parts of a path between its slashes. -/
def parts : Text → List Text
  | [] => [[]]
  | c :: t =>
    if c = '/' then [] :: parts t
    else match parts t with
      | p :: ps => (c :: p) :: ps
      | [] => [[c]]

/-- What a path begins with: nothing, one slash, or exactly two, which are kept; more than two are
one. -/
def root : Text → Text
  | '/' :: '/' :: '/' :: _ => ['/']
  | '/' :: '/' :: _ => ['/', '/']
  | '/' :: _ => ['/']
  | _ => []

/-- Whether a part takes the path anywhere. -/
def isStep (part : Text) : Bool := !part.isEmpty && part != (['.'] : Text)

/-- The path without its repeated and final slashes and its `.` parts; a path of nothing else is `.`. -/
def plain (t : Text) : Text :=
  let p := root t ++ Text.joined ['/'] ((parts t).filter isStep)
  if p.isEmpty then ['.'] else p

end ShellTemplate.Path
