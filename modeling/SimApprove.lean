import SimApprove.Main
import SimApprove.Client.Recording
import SimApprove.World.Script
import SimApprove.Proofs.Text.Utf8
import SimApprove.Proofs.CommandLine.Items
import SimApprove.Proofs.CommandLine.Words
import SimApprove.Proofs.CommandLine.Reading
import SimApprove.Proofs.CommandLine.Layout
import SimApprove.Proofs.Tool
import SimApprove.Proofs.Consent.Store
import SimApprove.Proofs.Simulator.Visit
import SimApprove.Proofs.Simulator.Course
import SimApprove.Proofs.World.FileTree
import SimApprove.Proofs.World.Opening
import SimApprove.Proofs.Consent.Schema
import SimApprove.Proofs.Consent.Grant
import SimApprove.Proofs.Consent.Replacement
import SimApprove.Proofs.Simulator.Camera
import SimApprove.Proofs.History
import SimApprove.Proofs.Dispatch
import SimApprove.Proofs.Program
import SimApprove.Proofs.Requests
import SimApprove.Proofs.Frame
import SimApprove.Proofs.Text.Numeral
import SimApprove.Proofs.Log.Level
import SimApprove.Proofs.Toml.Keys
import SimApprove.Proofs.Settings.Document
import SimApprove.Proofs.Settings.Validation
import SimApprove.Proofs.Settings.Layers
import SimApprove.Proofs.Target
import SimApprove.Proofs.Rehearsal
import SimApprove.Proofs.Simulator.Apart
import SimApprove.Proofs.World.Aside
import SimApprove.Proofs.Verbosity
import SimApprove.Proofs.Scheme
import SimApprove.Proofs.Consent.Effect
import SimApprove.Proofs.Consent.Failure
import SimApprove.Proofs.Toml.Lines
import SimApprove.Proofs.Toml.Assembly
import SimApprove.Proofs.Settings.RoundTrip
import SimApprove.Proofs.Simulator.ErrorText
import SimApprove.Proofs.Simulator.Complaint
import SimApprove.Proofs.Backend
import SimApprove.Proofs.Settings.Typing
import SimApprove.Proofs.Settings.Alike
import SimApprove.Proofs.Error.Rendering
import SimApprove.Proofs.Error.Nesting
import SimApprove.Proofs.Consent.Spelling
