import Localize.Cli
import Localize.Config
import Localize.Files.Disk
import Localize.Files.Tree
import Localize.Glob
import Localize.Go.Calls
import Localize.Go.Extract
import Localize.Go.Grammar
import Localize.Go.Lexer
import Localize.Go.Literal
import Localize.Go.Package
import Localize.Go.Scope
import Localize.Json.Cursor
import Localize.Json.Decode
import Localize.Json.Problem
import Localize.Json.Render
import Localize.Json.Value
import Localize.Main
import Localize.Numeric.Binary64
import Localize.Numeric.Shortest
import Localize.Parsing.Glr
import Localize.Parsing.Stack
import Localize.Parsing.Subtree
import Localize.Parsing.Table
import Localize.Parsing.Tree
import Localize.Path
import Localize.Po.Entry
import Localize.Po.Merge
import Localize.Po.Normalize
import Localize.Po.Printer
import Localize.Po.Quoted
import Localize.Po.Reader
import Localize.Run.Catalogs
import Localize.Run.Extract
import Localize.Run.Session
import Localize.Run.Sources
import Localize.Signature
import Localize.Store
import Localize.Template.Placeholder
import Localize.Template.Scanner
import Localize.Template.Tag
import Localize.Text.Blank
import Localize.Text.Bytes
import Localize.Text.Escaped
import Localize.Text.Find
import Localize.Text.Identifier
import Localize.Verbosity
import Localize.Proofs.Text
import Localize.Proofs.Po.Reading
import Localize.Proofs.Po.Fits
import Localize.Proofs.Po.References
import Localize.Proofs.Po.Writing
import Localize.Proofs.Po.Quoting
import Localize.Proofs.Po.RoundTrip
import Localize.Proofs.Po.Merging
import Localize.Proofs.Po.HeaderFields
import Localize.Proofs.Po.Remerging
import Localize.Proofs.Po.Invariants
import Localize.Proofs.Po.Rewriting
import Localize.Proofs.Po.Panicking
import Localize.Proofs.Po.Normalizing
import Localize.Proofs.Store.Reading
import Localize.Proofs.Store.Catalog
import Localize.Proofs.Store.Incoming
import Localize.Proofs.Run.Catalogs
import Localize.Proofs.Files.Writing
import Localize.Proofs.Run.CatalogWrite
import Localize.Proofs.Run.Materialize
import Localize.Proofs.Run.Idempotence
import Localize.Proofs.Go.Walk
import Localize.Proofs.Go.Scoping
import Localize.Proofs.Go.DeclarationOrder
import Localize.Proofs.Template.Grammar
import Localize.Proofs.Template.Placeholders
import Localize.Proofs.Template.Lines
import Localize.Proofs.Template.Offsets
import Localize.Proofs.Template.Scanning
