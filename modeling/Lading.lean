import Lading.Model.Rust
import Lading.Model.Block
import Lading.Model.PeekableReceiver
import Lading.Model.HashMap
import Lading.Model.Serde
import Lading.Algorithm.UnixDatagram
import Lading.Algorithm.UnixDatagram.Spin
import Lading.Algorithm.UnixDatagram.Generator
import Lading.Algorithm.TraceAgent
import Lading.Algorithm.DogStatsD
import Lading.Algorithm.SplunkHec
import Lading.Verification.UnixDatagram.Semantics
import Lading.Verification.UnixDatagram.SendLoop
import Lading.Verification.UnixDatagram.Ceiling
import Lading.Verification.UnixDatagram.Construction
import Lading.Verification.UnixDatagram.Generator
import Lading.Verification.TraceAgent.Termination
import Lading.Verification.TraceAgent.Determinism
import Lading.Verification.DogStatsD.Lines
import Lading.Verification.DogStatsD.ConfRange
import Lading.Verification.SplunkHec.Invariant
import Lading.Verification.SplunkHec.Drain
