/-!
# Templates of the shortcodes

The site shows galleries and bookmarks by templates, one for each shortcode of the second dialect.
An action of a template stands between double braces. The third image of a row of a gallery ends
the row.
-/

namespace BlogMigration
namespace Cards
namespace Template

def action (text : String) : String :=
  "\x7b\x7b " ++ text ++ " \x7d\x7d"

def parameter (name : String) : String :=
  ".Get \"" ++ name ++ "\""

def value (name : String) : String :=
  action (parameter name)

/-- The start of what is shown only with a parameter. -/
def given (name : String) : String :=
  action ("with " ++ parameter name)

/-- The end of what is shown only with a parameter. -/
def done : String :=
  action "end"

/-- The value of the parameter that is shown. -/
def it : String :=
  action "."

def text (lines : List String) : String :=
  String.join (lines.map fun line => line ++ "\n")

def caption : List String :=
  ["  " ++ given "caption",
    "  <figcaption>" ++ action ". | safeHTML" ++ "</figcaption>",
    "  " ++ done]

def bookmark : String :=
  text (
    ["<figure class=\"kg-card kg-bookmark-card\">",
      "  <a href=\"" ++ value "url" ++ "\" class=\"kg-bookmark-container\">",
      "    <div class=\"kg-bookmark-content\">",
      "      <div class=\"kg-bookmark-title\">" ++ value "title" ++ "</div>",
      "      <div class=\"kg-bookmark-description\">" ++ value "description" ++ "</div>",
      "      <div class=\"kg-bookmark-metadata\">",
      "        " ++ given "icon" ++ "<img src=\"" ++ it ++ "\" class=\"kg-bookmark-icon\">" ++ done,
      "        " ++ given "author" ++ "<span class=\"kg-bookmark-author\">" ++ it ++ "</span>" ++
        done,
      "        " ++ given "publisher" ++ "<span class=\"kg-bookmark-publisher\">" ++ it ++
        "</span>" ++ done,
      "      </div>",
      "    </div>",
      "    " ++ given "thumbnail",
      "    <div class=\"kg-bookmark-thumbnail\">",
      "      <img src=\"" ++ it ++ "\">",
      "    </div>",
      "    " ++ done,
      "  </a>"] ++
    caption ++ ["</figure>"])

def gallery : String :=
  text (
    ["<figure class=\"kg-card kg-gallery-card kg-width-wide\">",
      "  <div class=\"kg-gallery-container\">",
      "    <div class=\"kg-gallery-row\">",
      "    " ++ action ".Inner",
      "    </div>",
      "  </div>"] ++
    caption ++ ["</figure>"])

def galleryImage : String :=
  text [
    "  <div class=\"kg-gallery-image\">",
    "    <img src=\"" ++ value "src" ++ "\" width=\"" ++ value "width" ++ "\" height=\"" ++
      value "height" ++ "\"" ++ given "alt" ++ " alt=\"" ++ it ++ "\"" ++ done ++ given "title" ++
      " title=\"" ++ it ++ "\"" ++ done ++ ">",
    "  </div>",
    action "if eq (mod .Ordinal 3) 2",
    "    </div>",
    "    <div class=\"kg-gallery-row\">",
    done]

end Template

def templates : List (String × String) :=
  [("bookmark.html", Template.bookmark), ("gallery.html", Template.gallery),
    ("galleryImg.html", Template.galleryImage)]

end Cards
end BlogMigration
