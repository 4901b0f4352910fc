import ShellTemplate.Markup.Render
import ShellTemplate.Text.Codec

/-! Where help and errors are shown: lines of a width, in the colors and with the frames that the place
allows. -/
namespace ShellTemplate.Help
open Markup

/-- Whether a tag names attributes and colors, or closes such a style. -/
def isPlainStyle (tag : Text) : Bool :=
  (Text.words (if tag.head? = some ('/' : CodePoint) then tag.drop 1 else tag)).all fun word =>
    (Attribute.ofWord? word).isSome || colorNames.contains word

/-- Where texts with tags are shown. `evaluate` reads the literals in the tags, and `draw` gives a text with
tags the look that they ask for once it is laid out, or says why not. Neither brings in an opening bracket,
and styles that name attributes and colors can always be drawn. -/
structure Console where
  width : Nat
  ascii : Bool := false
  evaluate : Evaluator
  draw : Text → Text → Except Text Text
  evaluate_bracket : ∀ t, ('[' : CodePoint) ∉ t → ('[' : CodePoint) ∉ (evaluate t).message
  draw_bracket : ∀ t laid message, draw t laid = .error message → ('[' : CodePoint) ∉ message
  draw_plain : ∀ t laid, (∀ m ∈ (marks t).1, isPlainStyle m.tag) → ∃ drawn, draw t laid = .ok drawn

/-- A place without colors, in which every literal has a value. -/
def Console.plain (width : Nat) : Console where
  width
  evaluate _ := .value
  draw _ laid := .ok laid
  evaluate_bracket _ _ := List.not_mem_nil
  draw_bracket _ _ _ := nofun
  draw_plain _ laid _ := ⟨laid, rfl⟩

/-- Why a text is not shown: its tags, the style that it is to be drawn in, or a character that the output has
no bytes for. -/
inductive PrintFault
  | tags (f : Markup.Fault)
  | style (message : Text)
  | output (u : Text.Unencodable)
  deriving Repr, DecidableEq

def PrintFault.message : PrintFault → Text
  | .tags f => f.message
  | .style message => message
  | .output u =>
    u.message ++ ("\n*** You may need to add PYTHONIOENCODING=utf-8 " ++ "to your environment ***").toText

end ShellTemplate.Help
