import Filtergraph.Main
import Filtergraph.Proofs.Demo.Course
import Filtergraph.Proofs.Filter.Compilation
import Filtergraph.Proofs.Filter.Releases
import Filtergraph.Proofs.Filter.Upgrades
import Filtergraph.Proofs.Overlay.Creation
import Filtergraph.Proofs.Overlay.Decoding
import Filtergraph.Proofs.Overlay.Effect
import Filtergraph.Proofs.Overlay.FarEdges
import Filtergraph.Proofs.Overlay.Forms
import Filtergraph.Proofs.Session.Defaults
import Filtergraph.Proofs.Session.Bindings
import Filtergraph.Proofs.Session.Members
import Filtergraph.Proofs.Session.ReleaseCache
import Filtergraph.Proofs.Session.Watermarks
import Filtergraph.Proofs.World.Formats
import Filtergraph.Proofs.World.Qualities
import Filtergraph.Proofs.World.Repetition
import Filtergraph.Proofs.World.RunFailures
import Filtergraph.Proofs.World.Runs
import Filtergraph.Proofs.World.SeveralInputs
import Filtergraph.Proofs.World.SingleInput
import Filtergraph.Proofs.World.VideoStreams
import Filtergraph.Schema.Assign
import Filtergraph.Session.Run
