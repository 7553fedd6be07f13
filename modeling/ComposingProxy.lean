import ComposingProxy.Main
import ComposingProxy.Shutdown
import ComposingProxy.Proofs.Tree.Links
import ComposingProxy.Proofs.Tree.Shape
import ComposingProxy.Proofs.Tree.Moves
import ComposingProxy.Proofs.Tree.Operations
import ComposingProxy.Proofs.Tree.Copies
import ComposingProxy.Proofs.Tree.Editing
import ComposingProxy.Proofs.Http.Stamps
import ComposingProxy.Proofs.Text.Percent
import ComposingProxy.Proofs.Routing.Target
import ComposingProxy.Proofs.Json.RoundTrip
import ComposingProxy.Proofs.Page.ImportMapText
import ComposingProxy.Proofs.Json.Marks
import ComposingProxy.Proofs.Markup.ScriptText
import ComposingProxy.Proofs.Tree.Texts
import ComposingProxy.Proofs.Markup.ScriptReading
import ComposingProxy.Proofs.Page.ImportMapScript
import ComposingProxy.Proofs.Tree.Attached
import ComposingProxy.Proofs.Tree.Data
import ComposingProxy.Proofs.Page.Frame
import ComposingProxy.Proofs.Page.Composing
import ComposingProxy.Proofs.Page.RoutePath
import ComposingProxy.Proofs.Address.UriText
import ComposingProxy.Proofs.Address.HostText
import ComposingProxy.Proofs.Address.WebParts
import ComposingProxy.Proofs.Routing.Outbound
import ComposingProxy.Proofs.Page.Mounted
import ComposingProxy.Proofs.Tree.Agreement
import ComposingProxy.Proofs.Tree.Contents
import ComposingProxy.Proofs.Page.Items
import ComposingProxy.Proofs.Page.Secrecy
import ComposingProxy.Proofs.Selector.Grammar
import ComposingProxy.Proofs.Selector.Reading
import ComposingProxy.Proofs.Selector.Faults
import ComposingProxy.Proofs.Shutdown.History
import ComposingProxy.Proofs.Config.Pipeline
import ComposingProxy.Proofs.Tree.Preorder
import ComposingProxy.Proofs.Selector.Matching
import ComposingProxy.Proofs.Tree.Search
import ComposingProxy.Proofs.Page.StoredModules
import ComposingProxy.Proofs.Routing.Token
import ComposingProxy.Proofs.Page.ItemMarkup
import ComposingProxy.Proofs.Page.ItemOrder
import ComposingProxy.Proofs.Tree.Nesting
import ComposingProxy.Proofs.Tree.DeepCopies
import ComposingProxy.Proofs.Tree.Growing
import ComposingProxy.Proofs.Markup.Building
import ComposingProxy.Proofs.Markup.Splitting
import ComposingProxy.Proofs.Markup.Parsing
import ComposingProxy.Proofs.Page.Rewriting
import ComposingProxy.Proofs.Page.ItemReading
import ComposingProxy.Proofs.Tree.Traversal
import ComposingProxy.Proofs.Tree.ChildLists
import ComposingProxy.Proofs.Tree.Originals
import ComposingProxy.Proofs.Tree.WholeCopies
import ComposingProxy.Proofs.Text.Seams
import ComposingProxy.Proofs.Routing.KeptEscapes
import ComposingProxy.Proofs.Routing.InPlace
import ComposingProxy.Proofs.Http.ForwardedField
import ComposingProxy.Proofs.Http.Codings
import ComposingProxy.Proofs.Routing.Slashes
import ComposingProxy.Proofs.Config.Faults
import ComposingProxy.Proofs.Config.Aliases
import ComposingProxy.Proofs.Page.Containers
import ComposingProxy.Proofs.Http.HopByHop
import ComposingProxy.Proofs.Routing.NamedApp
import ComposingProxy.Proofs.Page.MergedMaps
import ComposingProxy.Proofs.Markup.TextRoundTrip
import ComposingProxy.Proofs.Tree.Prepending
import ComposingProxy.Proofs.Decimal.Whole
import ComposingProxy.Proofs.Decimal.ShortestText
import ComposingProxy.Proofs.Page.WholeWeights
