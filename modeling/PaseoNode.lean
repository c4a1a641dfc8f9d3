import PaseoNode.Runtime.Rotation
import PaseoNode.Runtime.Visibility
import PaseoNode.Runtime.Gate
import PaseoNode.Runtime.Unparsed
import PaseoNode.Node.PnsRpc
import PaseoNode.Node.RecordCodes
import PaseoNode.Node.Sessions
import PaseoNode.Runtime.Payouts
import PaseoNode.Runtime.Slots
import PaseoNode.Runtime.Records
import PaseoNode.Runtime.Proxy
import PaseoNode.Runtime.Genesis
import PaseoNode.Node.Provenance
import PaseoNode.Node.ChainSpec
import PaseoNode.Node.Benchmarking
