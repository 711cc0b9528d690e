import TemplateTree.Session
import TemplateTree.Node.Writer
import TemplateTree.Proofs.Inlining
import TemplateTree.Proofs.ExtendChain
import TemplateTree.Proofs.StoredTemplate
import TemplateTree.Proofs.Fusion
import TemplateTree.Proofs.Rendering
import TemplateTree.Proofs.Unresolved
import TemplateTree.Proofs.DocumentOrder
import TemplateTree.Proofs.Hollow
import TemplateTree.Proofs.Overridden
import TemplateTree.Proofs.DirectEvaluation
import TemplateTree.Proofs.Appending
import TemplateTree.Proofs.Transparency
import TemplateTree.Proofs.Intermediate
import TemplateTree.Proofs.Visited
import TemplateTree.Proofs.FlatScope
import TemplateTree.Proofs.Blame
import TemplateTree.Proofs.Replay
import TemplateTree.Proofs.ChainRecords
import TemplateTree.Proofs.FreeNames
import TemplateTree.Proofs.Unrolling
import TemplateTree.Proofs.Sequencing
import TemplateTree.Json.Grammar
import TemplateTree.Proofs.JsonReading
import TemplateTree.Proofs.NormalForm
import TemplateTree.Node.Presentation
import TemplateTree.Proofs.JsonWriting
import TemplateTree.Proofs.Presentation
import TemplateTree.Proofs.WrittenForm
import TemplateTree.Proofs.ValueReading
import TemplateTree.Proofs.ContextLoading
import TemplateTree.Proofs.Arms
import TemplateTree.Proofs.Flattening
import TemplateTree.Proofs.Positions
import TemplateTree.Proofs.StackDiscipline
