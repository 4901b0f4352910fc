import ShellTemplate.Text.Basic

/-! Control sequences, which tell a terminal how to show what follows them: the escape character, a
bracket, parameters and a letter. Text that goes elsewhere than to a terminal goes without them. -/
namespace ShellTemplate.Text

def isParameter (c : CodePoint) : Bool := c = ';' || c = '?' || c.isDigit

/-- What follows the control sequence that the text begins with. -/
def afterSequence? : Text → Option Text
  | '\x1b' :: '[' :: t =>
    match t.dropWhile isParameter with
    | c :: r => if c.isAlpha then some r else none
    | [] => none
  | _ => none

theorem afterSequence?_length {t r : Text} (h : afterSequence? t = some r) :
    r.length < t.length := by
  unfold afterSequence? at h
  split at h
  · rename_i t
    split at h
    · rename_i c r' hd
      split at h
      · cases h
        have := (List.dropWhile_suffix isParameter (l := t)).length_le
        simp only [hd, List.length_cons] at this ⊢
        omega
      · cases h
    · cases h
  · cases h

/-- The text without its control sequences. -/
def withoutSequences : Text → Text
  | [] => []
  | c :: t =>
    match _h : afterSequence? (c :: t) with
    | some r => withoutSequences r
    | none => c :: withoutSequences t
termination_by t => t.length
decreasing_by
  · exact afterSequence?_length _h
  · exact Nat.lt_succ_self _

end ShellTemplate.Text
