import KeyCatalog.Main
import KeyCatalog.Proofs.Document.Reading
import KeyCatalog.Proofs.Generation
import KeyCatalog.Proofs.Index.Blame
import KeyCatalog.Proofs.Index.Restatement
import KeyCatalog.Proofs.Listing.ResourceTypes
import KeyCatalog.Proofs.Literal.Limit
import KeyCatalog.Proofs.Literal.Quoted
import KeyCatalog.Proofs.Outline.Literals
import KeyCatalog.Proofs.Outline.Usable
import KeyCatalog.Proofs.Output.Effect
import KeyCatalog.Repository
import KeyCatalog.Proofs.Registry.Ordinals
import KeyCatalog.Proofs.Index.Removal
import KeyCatalog.Proofs.Derivation
import KeyCatalog.Proofs.Letter
import KeyCatalog.Proofs.Package
import KeyCatalog.Proofs.Generation.Bundled
import KeyCatalog.Proofs.Generation.Directory
import KeyCatalog.Draft
import KeyCatalog.Proofs.Repository
