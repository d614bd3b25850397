import UsbDescriptors.Files.FileTree
import UsbDescriptors.Main
import UsbDescriptors.Proofs.Classes.Instances
import UsbDescriptors.Proofs.Classes.Sources
import UsbDescriptors.Proofs.Command.Traces
import UsbDescriptors.Proofs.Document.Repetitions
import UsbDescriptors.Proofs.Document.Replacement
import UsbDescriptors.Proofs.Document.Resolution
import UsbDescriptors.Proofs.Endpoints.Numbering
import UsbDescriptors.Proofs.Endpoints.Optimality
import UsbDescriptors.Proofs.Expressions.Decomposition
import UsbDescriptors.Proofs.Expressions.Escaping
import UsbDescriptors.Proofs.Expressions.Lists
import UsbDescriptors.Proofs.Expressions.Undefined
import UsbDescriptors.Proofs.Globals.Agreement
import UsbDescriptors.Proofs.Outputs.ByteFields
import UsbDescriptors.Proofs.Outputs.Calls
import UsbDescriptors.Proofs.Outputs.Comments
import UsbDescriptors.Proofs.Outputs.EndpointConstants
import UsbDescriptors.Proofs.Outputs.Identifiers
import UsbDescriptors.Proofs.Outputs.Rendering
import UsbDescriptors.Proofs.Reports.Numbering
import UsbDescriptors.Proofs.Runs.Independence
import UsbDescriptors.Proofs.Runs.Passes
import UsbDescriptors.Proofs.Strings.Buffers
import UsbDescriptors.Proofs.Strings.Records
