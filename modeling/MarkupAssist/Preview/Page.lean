import MarkupAssist.Preview.Query
import MarkupAssist.Settings

/-!
# Documentation pages

A page shows the documentation of a component in a frame, from a local copy of the site,
with a notice above it that links to the site itself.

- `escaped`   : text that keeps its meaning inside markup
- `onlineUrl` : the page on the site
- `page`      : the whole page
-/

namespace MarkupAssist
namespace Preview

/-! ## Text inside markup -/

def escapedChar (c : Char) : List Char :=
  if c = '&' then "&amp;".toList
  else if c = '<' then "&lt;".toList
  else if c = '>' then "&gt;".toList
  else if c = '"' then "&quot;".toList
  else [c]

def escaped (text : String) : String :=
  String.ofList (text.toList.flatMap escapedChar)

/-! ## Addresses -/

/-- The address of a component below the root of the site. -/
def componentPath (settings : PreviewSettings) (keyword file : String) : String :=
  settings.version ++ "/" ++ file ++ "#/" ++ settings.language ++ "/component/" ++ keyword

def onlineUrl (settings : PreviewSettings) (keyword : String) : String :=
  settings.homeUrl ++ componentPath settings keyword "index.html"

def withoutSlashesAtEnd (path : String) : String :=
  String.ofList (path.toList.reverse.dropWhile (· == '/')).reverse

def localUrl (settings : PreviewSettings) (keyword : String) : String :=
  "file://" ++ withoutSlashesAtEnd settings.docsPath ++ "/" ++
    componentPath settings keyword "main.html"

/-! ## The page -/

/-- The notice in the language of the documentation, Chinese or else English. -/
def notice (settings : PreviewSettings) (href : String) : String :=
  let version := escaped settings.version
  if settings.language = "zh-CN" then
    "版本：" ++ version ++ "，在线示例请在浏览器中<a href=\"" ++ href ++ "\">查看</a>"
  else
    "Version: " ++ version ++ ", view online examples in <a href=\"" ++ href ++ "\">browser</a>"

def linesAbove (stylesheet : String) : List String := [
  "",
  "    <style type=\"text/css\">" ++ stylesheet ++ "</style>",
  "    <body class=\"element-helper-docs-container\">",
  "    <div class=\"element-helper-move-mask\"></div>",
  "    <div class=\"element-helper-loading-mask\">",
  "      <div class=\"element-helper-loading-spinner\">",
  "        <svg viewBox=\"25 25 50 50\" class=\"circular\">",
  "          <circle cx=\"50\" cy=\"50\" r=\"20\" fill=\"none\" class=\"path\"></circle>",
  "        </svg>",
  "      </div>",
  "    </div>"]

def noticeLine (settings : PreviewSettings) (keyword : String) : String :=
  "    <div class=\"docs-notice\">" ++ notice settings (escaped (onlineUrl settings keyword)) ++
    "</div>"

def frameLine (settings : PreviewSettings) (keyword : String) : String :=
  "    <iframe id=\"doc-frame\" src=\"" ++ escaped (localUrl settings keyword) ++ "\"></iframe>"

def linesBelow : List String := [
  "    <script>",
  "      window.addEventListener('message', (e) => \x7b",
  "        e.data.loaded && (document.querySelector('.element-helper-loading-mask').style.display = 'none');",
  "      \x7d, false);",
  "    </script>",
  "    </body>"]

def pageLines (settings : PreviewSettings) (stylesheet keyword : String) : List String :=
  linesAbove stylesheet ++ noticeLine settings keyword :: frameLine settings keyword :: linesBelow

def page (settings : PreviewSettings) (stylesheet : String) (query : Query) : String :=
  "\n".intercalate (pageLines settings stylesheet query.keyword)

end Preview
end MarkupAssist
