import CircuitDiagram.Document.Writing
import CircuitDiagram.Machine
import CircuitDiagram.Main
import CircuitDiagram.Proofs.Json.Exact
import CircuitDiagram.Proofs.Json.Text
import CircuitDiagram.Proofs.Json.Numeral
import CircuitDiagram.Proofs.Json.Length
import CircuitDiagram.Proofs.Json.Skip
import CircuitDiagram.Proofs.Json.Container
import CircuitDiagram.Proofs.Json.Writing
import CircuitDiagram.Proofs.Document.Members
import CircuitDiagram.Proofs.Document.Reading
import CircuitDiagram.Proofs.Document.InputLanguage
import CircuitDiagram.Proofs.Graph.Preservation
import CircuitDiagram.Proofs.Graph.Multigraph
import CircuitDiagram.Proofs.Graph.OfCircuit
import CircuitDiagram.Proofs.Dot.Reader
import CircuitDiagram.Proofs.Dot.ReadBack
import CircuitDiagram.Proofs.Dot.Html
import CircuitDiagram.Proofs.Dot.Names
import CircuitDiagram.Proofs.Document.RoundTrip
import CircuitDiagram.Proofs.Run.Stem
import CircuitDiagram.Proofs.Run.Search
import CircuitDiagram.Proofs.Run.Allocation
import CircuitDiagram.Proofs.Run.FileNames
import CircuitDiagram.Proofs.FileSystem
import CircuitDiagram.Proofs.Run.DotFiles
import CircuitDiagram.Proofs.Run.Outcome
import CircuitDiagram.Proofs.Graph.Order
import CircuitDiagram.Proofs.Json.Unambiguous
import CircuitDiagram.Proofs.Document.Forms
import CircuitDiagram.Proofs.Document.Agreement
import CircuitDiagram.Proofs.Document.Delivery
import CircuitDiagram.Proofs.Graph.Pruning
import CircuitDiagram.Proofs.Graph.Undeclared
import CircuitDiagram.Proofs.Run.Confinement
import CircuitDiagram.Proofs.Graph.Slots
import CircuitDiagram.Proofs.CommandLine.PathList
import CircuitDiagram.Proofs.Run.Independence
import CircuitDiagram.Proofs.Render.Layout
