import Grsan.FloatVal
import Grsan.CInt
import Grsan.Runtime.State
import Grsan.Runtime.Union
import Grsan.Runtime.Sampling
import Grsan.Runtime.Branch
import Grsan.Runtime.Step
import Grsan.Runtime.Effects
import Grsan.Runtime.Frame
import Grsan.Runtime.Barrier
import Grsan.Runtime.Invariant
import Grsan.Runtime.PerfMode
import Grsan.Runtime.Immutable
import Grsan.Runtime.Dataflow
import Grsan.Runtime.Provenance
import Grsan.Runtime.Rules
import Grsan.Runtime.Dump
import Grsan.Runtime.LogLabels
import Grsan.Runtime.Concurrent
import Grsan.Runtime.Derivative
import Grsan.Runtime.Shadow
import Grsan.Runtime.EarlyExit
import Grsan.Driver.Optimizer
import Grsan.Pass.Instrument
import Grsan.Pass.ShadowCode
import Grsan.Pass.Gradient
import Grsan.Pass.Memory
import Grsan.Pass.Visitor
import Grsan.Pass.LabelMemory
import Grsan.Pass.Allocated
import Grsan.Pass.LabelGraph
import Grsan.Pass.Module
import Grsan.Pass.DefUse
