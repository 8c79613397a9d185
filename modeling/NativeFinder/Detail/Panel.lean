import NativeFinder.Detail.Rendering
import NativeFinder.Markup.Emoji

/-!
# Panels

A panel shows the details of an entry in a frame on the console: the name in the upper
border, then the signature, an empty line, and the description. Its three texts are read
from console markup.
-/

namespace NativeFinder

/-- The texts of a panel. -/
structure Panel where
  title : Styled
  signature : Styled
  description : Styled
deriving DecidableEq, Inhabited

namespace Panel

/-- The colour of the frame. -/
def borderStyle : Text := "blue"

/-- The texts in the frame from top to bottom. -/
def body (p : Panel) : List Styled := [p.signature, Styled.ofText [], p.description]

end Panel

/-- The panel of some details. The signature is read first and the title last. -/
def Detail.panel (d : Detail) : Except MarkupError Panel := do
  let signature ← Styled.ofMarkup d.signature
  let description ← Styled.ofMarkup d.description
  let title ← Styled.ofMarkup d.title
  .ok { title, signature, description }

/-- The panel of some details on a console that knows some emoji. -/
def Detail.panelWith (table : Markup.EmojiTable) (d : Detail) : Except MarkupError Panel := do
  let signature ← Styled.ofMarkupWith table d.signature
  let description ← Styled.ofMarkupWith table d.description
  let title ← Styled.ofMarkupWith table d.title
  .ok { title, signature, description }

end NativeFinder
