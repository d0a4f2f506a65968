import AxorWrap.Library.Method
import AxorWrap.Library.Check
import AxorWrap.Library.Machine
import AxorWrap.Library.Script
import AxorWrap.Library.Raise
import AxorWrap.Library.Journal
import AxorWrap.Library.Lineage
import AxorWrap.Library.Twin
import AxorWrap.Library.Yaml
import AxorWrap.Library.Path
import AxorWrap.Library.Dedup
import AxorWrap.Library.Naming
import AxorWrap.Library.Walk
import AxorWrap.Library.Sorting
import AxorWrap.Python.Text
import AxorWrap.Python.Value
import AxorWrap.Python.Json
import AxorWrap.Python.Literal
import AxorWrap.Python.Syntax
import AxorWrap.Plane.Session
import AxorWrap.Plane.Posture
import AxorWrap.Plane.Application
import AxorWrap.Plane.Delivery
import AxorWrap.Plane.Runs
import AxorWrap.Plane.Authenticity
import AxorWrap.Plane.Narrowing
import AxorWrap.Plane.OneShots
import AxorWrap.Plane.Replay
import AxorWrap.Plane.Convergence
import AxorWrap.Plane.Rearming
import AxorWrap.Plane.Returning
import AxorWrap.Plane.Subscription
import AxorWrap.Plane.Telemetry
import AxorWrap.Plane.Durability
import AxorWrap.Plane.Overlap
import AxorWrap.Plane.Wholeness
import AxorWrap.Plane.Malformed
import AxorWrap.Plane.Interference
import AxorWrap.Plane.Hold
import AxorWrap.Plane.Frames
import AxorWrap.Plane.Reconnects
import AxorWrap.Plane.Clearing
import AxorWrap.Plane.Resending
import AxorWrap.Plane.Connector
import AxorWrap.Plane.Admission
import AxorWrap.Plane.Heartbeats
import AxorWrap.Plane.Restarts
import AxorWrap.Plane.Listening
import AxorWrap.Runtime.Calls
import AxorWrap.Runtime.Toolset
import AxorWrap.Runtime.Records
import AxorWrap.Runtime.Mediation
import AxorWrap.Runtime.Accounting
import AxorWrap.Runtime.Coroutines
import AxorWrap.Trace.Events
import AxorWrap.Trace.Build
import AxorWrap.Trace.Pairing
import AxorWrap.Trace.Lineage
import AxorWrap.Trace.Growing
import AxorWrap.Trace.Bridge
import AxorWrap.Trace.Expansion
import AxorWrap.Trace.Redaction
import AxorWrap.Trace.WholeReturn
import AxorWrap.Trace.Driving
import AxorWrap.Trace.Trials
import AxorWrap.Trace.Yielding
import AxorWrap.Trace.Facts
import AxorWrap.Runtime.Tracing
import AxorWrap.Runtime.Arms
import AxorWrap.Runtime.Tame
import AxorWrap.Runtime.Evidence
import AxorWrap.Runtime.Gated
import AxorWrap.Runtime.Operated
import AxorWrap.Runtime.Streamed
import AxorWrap.Lab.Connector
import AxorWrap.Lab.Assignment
import AxorWrap.Compile.Manifests
import AxorWrap.Compile.Roles
import AxorWrap.Compile.Schema
import AxorWrap.Compile.Validity
import AxorWrap.Compile.Generate
import AxorWrap.Compile.Governance
import AxorWrap.Compile.ReadBack
import AxorWrap.Compile.Agreement
import AxorWrap.Compile.Protections
import AxorWrap.Compile.References
import AxorWrap.Compile.Scanned
import AxorWrap.Compile.Annotations
import AxorWrap.Compile.Signatures
import AxorWrap.Compile.Detect
import AxorWrap.Compile.Constructors
import AxorWrap.Compile.Decorated
import AxorWrap.Compile.Harness
import AxorWrap.Compile.Projects
import AxorWrap.Cli.Files
import AxorWrap.Cli.Commands
import AxorWrap.Cli.Coverage
import AxorWrap.Cli.Pipeline
