import CommonSerialization.Csp.Messaging.WakeUps
import CommonSerialization.Csp.Messaging.Casts
import CommonSerialization.Csp.Messaging.HandlerDiscovery
import CommonSerialization.Csp.Messaging.Identifiers
import CommonSerialization.Csp.Processing.AddedPointers
import CommonSerialization.Csp.Processing.CachedContext
import CommonSerialization.Csp.Processing.CrossEndianness
import CommonSerialization.Csp.Processing.FlagEnforcement
import CommonSerialization.Csp.Processing.GenericStructs
import CommonSerialization.Csp.Processing.HeaderAcceptance
import CommonSerialization.Csp.Processing.IntegerExchange
import CommonSerialization.Csp.Processing.LengthFields
import CommonSerialization.Csp.Processing.MismatchGate
import CommonSerialization.Csp.Processing.RawCopies
import CommonSerialization.Csp.Processing.StdContainers
import CommonSerialization.Csp.Processing.UpwardConversion
import CommonSerialization.Containers.OutOfMemory
import CommonSerialization.Containers.PositionOutcomes
import CommonSerialization.Containers.RangeInsertion
import CommonSerialization.Containers.Lifetimes
import CommonSerialization.Containers.WalkerLaws
