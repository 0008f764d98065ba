import Manuscript.Document.Exchange
import Manuscript.Markdown.Exchange
import Manuscript.Markup.Html
import Manuscript.Proofs.Document.Classes
import Manuscript.Proofs.Document.FailedBlocks
import Manuscript.Proofs.Document.HeadingIds
import Manuscript.Proofs.Document.HeadingLinks
import Manuscript.Proofs.Document.HighlightVisits
import Manuscript.Proofs.Document.ImageDirectives
import Manuscript.Proofs.Document.KeptIds
import Manuscript.Proofs.Document.LanguageLabels
import Manuscript.Proofs.Document.Lead
import Manuscript.Proofs.Document.MovedHeadings
import Manuscript.Proofs.Document.NormalForm
import Manuscript.Proofs.Document.OutputModes
import Manuscript.Proofs.Document.ParagraphContent
import Manuscript.Proofs.Document.PathData
import Manuscript.Proofs.Document.PlainHeadings
import Manuscript.Proofs.Document.RawTexts
import Manuscript.Proofs.Document.Search
import Manuscript.Proofs.Document.Traversals
import Manuscript.Proofs.Document.WrittenDirectives
import Manuscript.Proofs.Embed.AspectRatios
import Manuscript.Proofs.Embed.BareLinks
import Manuscript.Proofs.Embed.CardLinks
import Manuscript.Proofs.Exchange.Spellings
import Manuscript.Proofs.Footnotes.Ids
import Manuscript.Proofs.Footnotes.Numbering
import Manuscript.Proofs.Markdown.Content
import Manuscript.Proofs.Markdown.Resolved
import Manuscript.Proofs.Markdown.Tables
import Manuscript.Proofs.Render.Excerpt
import Manuscript.Proofs.Render.TableOfContents
import Manuscript.Proofs.Script.Closed
import Manuscript.Proofs.Script.Comments
import Manuscript.Proofs.Script.Decoding
import Manuscript.Proofs.Script.PropertyKeys
import Manuscript.Proofs.Slug.Characters
import Manuscript.Proofs.Slug.Run
import Manuscript.Proofs.Slug.Turns
import Manuscript.Proofs.Source.Fences
import Manuscript.Proofs.Source.StyleValues
import Manuscript.Proofs.Style.Braces
import Manuscript.Proofs.Style.PropertyNames
import Manuscript.Render.Interactive
import Manuscript.Render.Static
