import HttpService.Text.Split

/-!
# The reference page

The page that shows the API document in a browser. `%s` in a template stands for the path of the
document.
-/

set_option autoImplicit false

namespace HttpService.Page

/-- The page served where the settings name no template. -/
def defaultTemplate : String :=
  "<!DOCTYPE html>\n" ++
  "<html lang=\"en\">\n" ++
  "<head>\n" ++
  "  <meta charset=\"utf-8\" />\n" ++
  "  <title>API Reference</title>\n" ++
  "  <link rel=\"stylesheet\" href=\"https://unpkg.com/swagger-ui-dist@5/swagger-ui.css\" />\n" ++
  "</head>\n" ++
  "<body>\n" ++
  "  <div id=\"swagger-ui\"></div>\n" ++
  "  <script src=\"https://unpkg.com/swagger-ui-dist@5/swagger-ui-bundle.js\" crossorigin></script>\n" ++
  "  <script>\n" ++
  "    window.onload = () => \x7b\n" ++
  "      window.ui = SwaggerUIBundle(\x7b url: '%s', dom_id: '#swagger-ui' \x7d);\n" ++
  "    \x7d;\n" ++
  "  </script>\n" ++
  "</body>\n" ++
  "</html>\n"

/-- The page of a template for a document path. -/
def fill (template documentPath : String) : String :=
  Text.replace template "%s" documentPath

end HttpService.Page
