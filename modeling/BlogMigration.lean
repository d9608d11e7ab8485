import BlogMigration.Cards.Catalog
import BlogMigration.CommandLine.Reading
import BlogMigration.Export.Decode
import BlogMigration.Export.Resolve
import BlogMigration.Files.Disk
import BlogMigration.Files.Volume
import BlogMigration.FrontMatter.Page
import BlogMigration.Images.LocalName
import BlogMigration.Json.Lookup
import BlogMigration.Json.Parser
import BlogMigration.Json.Printer
import BlogMigration.Json.Record
import BlogMigration.Main
import BlogMigration.Migration
import BlogMigration.Mobiledoc.Decode
import BlogMigration.Number.Decimal
import BlogMigration.Posts.ContentFile
import BlogMigration.Render.Document
import BlogMigration.Text.Blank
import BlogMigration.Text.Case
import BlogMigration.Text.Quoted
import BlogMigration.Text.Split
import BlogMigration.Time.Reader
import BlogMigration.Time.Rfc3339
import BlogMigration.Proofs.Render.Nesting
import BlogMigration.Proofs.Mobiledoc.Edits
import BlogMigration.Proofs.Mobiledoc.Layout
import BlogMigration.Proofs.Mobiledoc.Slots
import BlogMigration.Proofs.Render.Isolation
import BlogMigration.Proofs.Render.References
import BlogMigration.Proofs.Json.Members
import BlogMigration.Proofs.Mobiledoc.Wire
import BlogMigration.Proofs.FrontMatter.Reading
import BlogMigration.Proofs.Files.Folders
import BlogMigration.Proofs.FrontMatter.Toml
import BlogMigration.Proofs.FrontMatter.Yaml
import BlogMigration.Proofs.Migration.Outcome
import BlogMigration.Proofs.Posts.FrontMatter
import BlogMigration.Proofs.Migration.Confinement
import BlogMigration.Proofs.Migration.Unlinked
import BlogMigration.Proofs.Cards.Dialects
import BlogMigration.Proofs.Cards.Paths
import BlogMigration.Proofs.Cards.Galleries
import BlogMigration.Proofs.Cards.Rows
import BlogMigration.Proofs.Cards.BookmarkDetails
import BlogMigration.Proofs.Cards.Parameters
import BlogMigration.Proofs.Time.Meaning
import BlogMigration.Proofs.Time.Locations
import BlogMigration.Proofs.Images.DistinctNames
import BlogMigration.Proofs.Render.Destinations
import BlogMigration.Proofs.Render.ListItems
import BlogMigration.Proofs.Render.Headings
import BlogMigration.Proofs.Render.Quotations
import BlogMigration.Proofs.Cards.CodeBlocks
import BlogMigration.Proofs.Images.Spellings
import BlogMigration.Proofs.Export.Tags
import BlogMigration.Proofs.Export.Authors
import BlogMigration.Proofs.Export.Wrapping
import BlogMigration.Proofs.Posts.FilledFields
import BlogMigration.Proofs.Posts.Containment
import BlogMigration.Proofs.Posts.Dates
import BlogMigration.Proofs.Render.Histories
import BlogMigration.Proofs.Render.Requirements
