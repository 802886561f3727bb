import ApiBindings.Files.Tree
import ApiBindings.Main
import ApiBindings.Proofs.Bindings.Signature
import ApiBindings.Proofs.Conversion.Failure
import ApiBindings.Proofs.Conversion.Plain
import ApiBindings.Proofs.Conversion.Recursion
import ApiBindings.Proofs.Conversion.Termination
import ApiBindings.Proofs.Bindings.Declarations
import ApiBindings.Proofs.Bindings.Uses
import ApiBindings.Proofs.Bindings.Exclusion
import ApiBindings.Proofs.Bindings.PathFilter
import ApiBindings.Proofs.Bindings.Restriction
import ApiBindings.Proofs.Bindings.Responses
import ApiBindings.Proofs.Bindings.Completeness
import ApiBindings.Proofs.Template.Lookup
import ApiBindings.Proofs.Template.Form
import ApiBindings.Proofs.Template.Agreement
import ApiBindings.Proofs.Rendering.Forms
import ApiBindings.Proofs.Rendering.Safety
import ApiBindings.Proofs.Bindings.Security
import ApiBindings.Proofs.Bindings.Additions
import ApiBindings.Proofs.Conversion.Distinct
import ApiBindings.Proofs.Conversion.Required
import ApiBindings.Proofs.Conversion.Alias
import ApiBindings.Proofs.Conversion.Lineage
import ApiBindings.Proofs.Conversion.Growth
import ApiBindings.Proofs.Conversion.Texts
import ApiBindings.Proofs.Bindings.Redefinition
import ApiBindings.Proofs.Rendering.Comments
import ApiBindings.Proofs.Rendering.Modularity
import ApiBindings.Proofs.Rendering.Url
import ApiBindings.Proofs.Command.Generation
import ApiBindings.Proofs.Reading.Refusal
import ApiBindings.Proofs.Reading.Paths
import ApiBindings.Proofs.Reading.Schemas
import ApiBindings.Proofs.Naming.Paths
import ApiBindings.Proofs.Rendering.Names
import ApiBindings.Proofs.Document.Reference
import ApiBindings.Proofs.Document.Grammar
import ApiBindings.Proofs.Rendering.Keys
import ApiBindings.Proofs.Bindings.Repetition
