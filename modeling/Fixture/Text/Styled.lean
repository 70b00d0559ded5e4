-- SUMMARY: Text in pieces, some of them marked, and how it looks without its marks.
import Fixture.Text.Terminal

/-!
# Styled text

A marked piece stands between control sequences that turn its style on and off.
Taking all control sequences out of styled text takes out the styles, and with
them whatever in the text itself a terminal would not show. A sequence left open
in a plain piece goes on in the plain pieces behind it, but the style of a marked
piece ends it, in front of the piece and behind it.
-/

namespace Fixture.Text

inductive Piece where
  | plain (text : String)
  | marked (text : String)
deriving DecidableEq, Repr

abbrev Styled := List Piece

namespace Styled

/-- The characters of styled text that `t` shows. -/
def visible (t : Terminal) : Styled → List Char
  | [] => []
  | .plain text :: pieces =>
    t.visible text.toList ++ Styled.visible (t.run text.toList) pieces
  | .marked text :: pieces => Terminal.visible {} text.toList ++ Styled.visible {} pieces

end Styled

end Fixture.Text
