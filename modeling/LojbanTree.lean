import LojbanTree.Main
import LojbanTree.Proofs.Tree.Nodes
import LojbanTree.Proofs.Tree.Places
import LojbanTree.Proofs.Reduction.Stepping
import LojbanTree.Proofs.Reduction.Remainder
import LojbanTree.Proofs.Reduction.Visits
import LojbanTree.Proofs.Reduction.SurfaceText
import LojbanTree.Proofs.Reduction.NormalForm
import LojbanTree.Proofs.Reduction.Joining
import LojbanTree.Proofs.Json.Arrays
import LojbanTree.Proofs.Tree.RoundTrip
import LojbanTree.Proofs.Reduction.Depth
import LojbanTree.Proofs.Reduction.Stability
import LojbanTree.Proofs.Reduction.Staging
import LojbanTree.Proofs.Rendering.Passes
import LojbanTree.Proofs.Rendering.Drawing
import LojbanTree.Proofs.Json.Passing
import LojbanTree.Proofs.Json.Scanning
import LojbanTree.Proofs.Tree.DepthLimit
import LojbanTree.Proofs.Json.Fuel
import LojbanTree.Proofs.Tree.Values
import LojbanTree.Proofs.Processor.Choices
import LojbanTree.Proofs.Processor.Failures
import LojbanTree.Proofs.Processor.Feedback
import LojbanTree.Proofs.Processor.Raising
import LojbanTree.Proofs.Reduction.Making
import LojbanTree.Proofs.Reduction.Deletion
import LojbanTree.Proofs.Reduction.Colons
import LojbanTree.Proofs.CommandLine.Loop
import LojbanTree.Proofs.Rendering.Restoring
import LojbanTree.Proofs.Rendering.Matching
import LojbanTree.Proofs.Label.Spelling
import LojbanTree.Proofs.View.ModeText
import LojbanTree.Proofs.Tree.SurfaceWalk
import LojbanTree.Proofs.Reduction.VisitOrder
import LojbanTree.Proofs.Rendering.LabelColons
import LojbanTree.Proofs.Settings.Sections
import LojbanTree.Proofs.Settings.Layering
import LojbanTree.Proofs.CommandLine.Resolution
