import NativeFinder.Detail.Rendering

/-!
# Pages

`Detail.page?` puts the details of an entry into a page of its own, without scripts. The page
is a fixed frame with four openings: the title twice, the signature and the description.
Only details that were rendered for a page fit.
-/

namespace NativeFinder

namespace Detail

/-- The lines of the page before its title. -/
def pageHead : Text :=
  Text.join ['\n'] [
    "<!DOCTYPE html>",
    "<html lang=\"en\">",
    "<head>",
    "    <meta charset=\"UTF-8\">",
    "    <meta name=\"viewport\" content=\"width=device-width, initial-scale=1.0\">",
    "    <title>"]

/-- The lines between the title and the heading. -/
def pageStyles : Text :=
  Text.join ['\n'] [
    "</title>",
    "    <style>",
    "        body \x7b font-family: Arial, sans-serif; padding: 20px; \x7d",
    "        pre \x7b padding: 10px; border-radius: 5px; overflow-x: auto; " ++
      "background: #f4f4f4; \x7d",
    "        .function \x7b color: #795e26; font-weight: bold; \x7d",
    "        .type \x7b color: #267f99; \x7d",
    "        .annotation \x7b color: #af00db; \x7d",
    "    </style>",
    "</head>",
    "<body>",
    "    <h2>"]

/-- The page with its openings filled. -/
def pageText (title signature description : Text) : Text :=
  pageHead ++ title ++ pageStyles ++ title ++ "</h2>\n    <pre><code>" ++ signature ++
    "</code></pre>\n    <h3>Description</h3>\n    <pre>" ++ description ++
    "</pre>\n</body>\n</html>\n"

/-- The page of some details, or the name of their rendering if that is another one. -/
def page? (d : Detail) : Except Text Text :=
  if d.style = Rendering.page.name then .ok (pageText d.title d.signature d.description)
  else .error d.style

/-- The message for details that were rendered for something else. -/
def wrongStyleMessage (style : Text) : Text :=
  "Expected an html payload, got '" ++ style ++ "'"

end Detail

end NativeFinder
