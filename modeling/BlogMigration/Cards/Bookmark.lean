import BlogMigration.Cards.Html
import BlogMigration.Cards.Shortcode
import BlogMigration.Images.Normalizer
import BlogMigration.Render.Registry

/-!
# Bookmark cards

A bookmark is a preview of another page, with its title, its description and optional details. It
is shown as HTML or by a shortcode.
-/

namespace BlogMigration
namespace Cards

open Render
open Images (Normalizer)

/-- A bookmark. The paths of its images are normalized. -/
structure Bookmark where
  url : String
  title : String
  description : String
  thumbnail : Option String
  icon : Option String
  author : Option String
  publisher : Option String
  caption : Option String
  deriving DecidableEq, Repr

namespace Bookmark

/-- The fields that a bookmark needs, in the order in which they are looked for. -/
def required : List String :=
  ["metadata.url", "metadata.title", "metadata.description"]

def read? (payload : Json) : Option Bookmark := do
  let metadata ← payload.field? "metadata"
  let url ← stringField? "url" metadata
  let title ← stringField? "title" metadata
  let description ← stringField? "description" metadata
  let thumbnail ← optionalString? "thumbnail" metadata
  let icon ← optionalString? "icon" metadata
  let author ← optionalString? "author" metadata
  let publisher ← optionalString? "publisher" metadata
  let caption ← optionalString? "caption" payload
  return ⟨url, title, description, thumbnail, icon, author, publisher, caption⟩

/-- The bookmark without its empty details and with normalized paths. -/
def resolve (normalize : Normalizer) (bookmark : Bookmark) : Bookmark :=
  { bookmark with
    thumbnail := (nonEmpty bookmark.thumbnail).map normalize
    icon := (nonEmpty bookmark.icon).map normalize
    author := nonEmpty bookmark.author
    publisher := nonEmpty bookmark.publisher
    caption := nonEmpty bookmark.caption }

def decode (normalize : Normalizer) (payload : Json) : Except RenderError Bookmark := do
  let bookmark ← readPayload required read? payload
  return bookmark.resolve normalize

def optionalLine (value : Option String) (line : String → String) : String :=
  match value with
  | some value => line value
  | none => ""

/-- The lines about the site of the bookmarked page, if anything is known about it. -/
def siteLines (bookmark : Bookmark) : String :=
  if bookmark.icon.isSome || bookmark.author.isSome || bookmark.publisher.isSome then
    "      <div>\n" ++
      optionalLine bookmark.icon
        (fun icon => "        <img src=\"" ++ Html.escapeAttribute icon ++ "\">\n") ++
      optionalLine bookmark.author
        (fun author => "        <span>" ++ Html.escapeText author ++ "</span>\n") ++
      optionalLine bookmark.publisher
        (fun publisher => "        <span>" ++ Html.escapeText publisher ++ "</span>\n") ++
      "      </div>\n"
  else ""

def toHtml (bookmark : Bookmark) : String :=
  "<figure>\n  <a href=\"" ++ Html.escapeAttribute bookmark.url ++ "\">\n    <div>\n" ++
    "      <div>" ++ Html.escapeText bookmark.title ++ "</div>\n" ++
    "      <div>" ++ Html.escapeText bookmark.description ++ "</div>\n" ++
    siteLines bookmark ++ "    </div>\n" ++
    optionalLine bookmark.thumbnail
      (fun path => "    <div><img src=\"" ++ Html.escapeAttribute path ++ "\"></div>\n") ++
    "  </a>\n" ++
    optionalLine bookmark.caption
      (fun caption => "  <figcaption>" ++ caption ++ "</figcaption>\n") ++
    "</figure>\n"

def shortcode (bookmark : Bookmark) : Shortcode :=
  (Shortcode.named "bookmark").param "url" bookmark.url
    |>.param "title" bookmark.title
    |>.param "description" bookmark.description
    |>.optionalParam "icon" bookmark.icon
    |>.optionalParam "author" bookmark.author
    |>.optionalParam "publisher" bookmark.publisher
    |>.optionalParam "thumbnail" bookmark.thumbnail
    |>.optionalParam "caption" bookmark.caption

end Bookmark

def htmlBookmark (normalize : Normalizer) : CardRenderer := fun payload => do
  let bookmark ← Bookmark.decode normalize payload
  return bookmark.toHtml

def shortcodeBookmark (normalize : Normalizer) : CardRenderer := fun payload => do
  let bookmark ← Bookmark.decode normalize payload
  return bookmark.shortcode.openingTag ++ "\n"

end Cards
end BlogMigration
