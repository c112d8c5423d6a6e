import ATenBound.Runtime
import ATenBound.TensorLogic
import ATenBound.Hypermind.Basic
import ATenBound.Hypermind.Registry
import ATenBound.Hypermind.Discovery
import ATenBound.ATenSpace.Basic
import ATenBound.ATenSpace.Properties
import ATenBound.Integration.Basic
import ATenBound.Integration.Agreement
import ATenBound.Integration.Atomicity
import ATenBound.Integration.Variables
import ATenBound.Integration.Concurrent
import ATenBound.Integration.ConcurrentAgreement
import ATenBound.Integration.Races
import ATenBound.Integration.Refinement
import ATenBound.Integration.Linearizability
