import TextProtocol.Main
import TextProtocol.Proofs.Client.Completeness
import TextProtocol.Proofs.Client.Greeting
import TextProtocol.Proofs.Client.Retries
import TextProtocol.Proofs.Codec.Bounds
import TextProtocol.Proofs.Codec.EmptyDomains
import TextProtocol.Proofs.Codec.Escapes
import TextProtocol.Proofs.Codec.Faults
import TextProtocol.Proofs.Codec.Reencoding
import TextProtocol.Proofs.Compile.Survivors
import TextProtocol.Proofs.Format.Defects
import TextProtocol.Proofs.Layout.Agreement
import TextProtocol.Proofs.Layout.Terminator
import TextProtocol.Proofs.Naming.Casing
import TextProtocol.Proofs.Network.Ownership
import TextProtocol.Proofs.Spec.Documents
import TextProtocol.Proofs.Target.Comments
import TextProtocol.Proofs.Target.Literals
import TextProtocol.Proofs.Target.Tuples
import TextProtocol.Target.Loading.Python
