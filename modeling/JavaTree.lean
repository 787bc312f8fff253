import JavaTree.Java.Parse
import JavaTree.Syntax.Build
import JavaTree.Representation
import JavaTree.Text.Quoted
import JavaTree.Text.Upper
import JavaTree.Text.Lines
import JavaTree.NodeFilter.Check
import JavaTree.Properties
import JavaTree.Collection
import JavaTree.Extraction
import JavaTree.Configuration
import JavaTree.Request
import JavaTree.Program
import JavaTree.Main
import JavaTree.Proofs.Xml.Reading
import JavaTree.Proofs.Xml.Rereading
import JavaTree.Proofs.Xml.Tokens
import JavaTree.Proofs.Json.OfXml
import JavaTree.Proofs.Xml.Char
import JavaTree.Proofs.Xml.Assembly
import JavaTree.Proofs.Xml.Accepted
import JavaTree.Proofs.Representation
import JavaTree.Proofs.Syntax.Element
import JavaTree.Proofs.Syntax.Build
import JavaTree.Proofs.Json.Basic
import JavaTree.Proofs.Syntax.Document
import JavaTree.Proofs.Syntax.Json
import JavaTree.Proofs.Path
import JavaTree.Proofs.Request
import JavaTree.Proofs.Execution
import JavaTree.Proofs.FileTree
import JavaTree.Proofs.Collection
import JavaTree.Proofs.Grammar.Pieces
import JavaTree.Proofs.Grammar.Kinds
import JavaTree.Proofs.Java.Parse
import JavaTree.Proofs.Extraction
import JavaTree.Proofs.Syntax.Printing
import JavaTree.Proofs.NodeFilter
import JavaTree.Proofs.Properties
import JavaTree.Proofs.LogicalLines
import JavaTree.Proofs.FilterEquivalence
import JavaTree.Proofs.FileReading
import JavaTree.Proofs.Configuration
import JavaTree.Proofs.WrittenFilter
import JavaTree.Proofs.Grammar.Empty
import JavaTree.Proofs.Grammar.Compile
import JavaTree.Proofs.Json.Reading
import JavaTree.Proofs.ProjectPaths
import JavaTree.Proofs.DiskChanges
import JavaTree.Proofs.Logging
import JavaTree.Proofs.Syntax.Mistakes
import JavaTree.Proofs.Json.Contributions
import JavaTree.Proofs.Xml.Relayout
import JavaTree.Proofs.Formatting
import JavaTree.Proofs.Xml.DefaultSpace
import JavaTree.Proofs.JoinedProperties
import JavaTree.Proofs.Comments
import JavaTree.Proofs.Syntax.Pruning
import JavaTree.Proofs.RelativePath
