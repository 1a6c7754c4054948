import PodAttach.Bridge.Script
import PodAttach.Main
import PodAttach.Terminal.Keyboard
import PodAttach.Proofs.Session.Sending
import PodAttach.Proofs.Session.Lifecycle
import PodAttach.Proofs.Wire.Members
import PodAttach.Proofs.Wire.Objects
import PodAttach.Proofs.Wire.RoundTrip
import PodAttach.Proofs.Wire.Unused
import PodAttach.Proofs.Target.Pieces
import PodAttach.Proofs.Bridge.Arrivals
import PodAttach.Proofs.Bridge.Refinement
import PodAttach.Proofs.Session.Directions
import PodAttach.Proofs.Session.Endings
import PodAttach.Proofs.Target.Faults
import PodAttach.Proofs.Target.Occurrences
import PodAttach.Proofs.Target.Styles
import PodAttach.Proofs.CommandLine.Interchange
import PodAttach.Proofs.Target.Routes
import PodAttach.Proofs.Session.Drawing
import PodAttach.Proofs.Wire.LogFrames
import PodAttach.Proofs.Json.Stopping
import PodAttach.Proofs.Wire.Damage
import PodAttach.Proofs.CommandLine.Blanks
import PodAttach.Proofs.Target.Endpoints
import PodAttach.Proofs.Target.Origins
import PodAttach.Proofs.Url.Hosts
import PodAttach.Proofs.CommandLine.Servers
import PodAttach.Proofs.Json.Accepting
import PodAttach.Proofs.Wire.Lists
import PodAttach.Proofs.Json.Separators
import PodAttach.Proofs.CommandLine.Messages
import PodAttach.Proofs.Target.Tails
import PodAttach.Proofs.Terminal.Gates
import PodAttach.Proofs.Terminal.Chords
import PodAttach.Proofs.Session.Words
