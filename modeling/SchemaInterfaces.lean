import SchemaInterfaces.Main
import SchemaInterfaces.Schema.Encode
import SchemaInterfaces.Proofs.Catalog
import SchemaInterfaces.Proofs.Identity
import SchemaInterfaces.Proofs.Run
import SchemaInterfaces.Proofs.Paths
import SchemaInterfaces.Proofs.Rendering
import SchemaInterfaces.Proofs.Links
import SchemaInterfaces.Proofs.Places
import SchemaInterfaces.Proofs.Depth
import SchemaInterfaces.Proofs.Enums
import SchemaInterfaces.Proofs.SelfReference
import SchemaInterfaces.Proofs.Bindings
import SchemaInterfaces.Proofs.Records
import SchemaInterfaces.Proofs.RoundTrip
import SchemaInterfaces.Proofs.Folders
import SchemaInterfaces.Proofs.Dangling
import SchemaInterfaces.Proofs.Growth
import SchemaInterfaces.Proofs.DiskRun
import SchemaInterfaces.Proofs.Confinement
import SchemaInterfaces.Proofs.Mirror
import SchemaInterfaces.Proofs.Locality
import SchemaInterfaces.Proofs.Outcomes
import SchemaInterfaces.Proofs.Fallbacks
import SchemaInterfaces.Proofs.MemberNames
import SchemaInterfaces.Proofs.Identifiers
import SchemaInterfaces.Proofs.ByteOrder
import SchemaInterfaces.Proofs.Supplies
import SchemaInterfaces.Proofs.Declarations
import SchemaInterfaces.Proofs.Literals
import SchemaInterfaces.Proofs.ReturnTypes
import SchemaInterfaces.Proofs.ReadBack
import SchemaInterfaces.Proofs.LastReturn
import SchemaInterfaces.Proofs.Subscripts
import SchemaInterfaces.Proofs.AtOnce
import SchemaInterfaces.Proofs.Spellings
import SchemaInterfaces.Proofs.SettingsRoundTrip
import SchemaInterfaces.Proofs.FilledSetting
import SchemaInterfaces.Proofs.WholeLines
import SchemaInterfaces.Proofs.VerbatimText
import SchemaInterfaces.Proofs.ChoiceNumbers
import SchemaInterfaces.Proofs.Reloading
import SchemaInterfaces.Proofs.Provenance
