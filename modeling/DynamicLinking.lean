import DynamicLinking.Execution
import DynamicLinking.Host.Definition
import DynamicLinking.Main
import DynamicLinking.Proofs.AccessControl
import DynamicLinking.Proofs.BindingSteps
import DynamicLinking.Proofs.BoundCalls
import DynamicLinking.Proofs.CacheTransparency
import DynamicLinking.Proofs.ClassHierarchy
import DynamicLinking.Proofs.ClosedObjects
import DynamicLinking.Proofs.ComputedKeys
import DynamicLinking.Proofs.ConfigurationTexts
import DynamicLinking.Proofs.ConvertedArguments
import DynamicLinking.Proofs.Encodings
import DynamicLinking.Proofs.FailedWrites
import DynamicLinking.Proofs.FiniteChains
import DynamicLinking.Proofs.FunctionalProxies
import DynamicLinking.Proofs.HexadecimalTexts
import DynamicLinking.Proofs.HiddenConversions
import DynamicLinking.Proofs.HostFields
import DynamicLinking.Proofs.IntegerTexts
import DynamicLinking.Proofs.LayoutPoints
import DynamicLinking.Proofs.Mirrors
import DynamicLinking.Proofs.NormalNumbers
import DynamicLinking.Proofs.Optimism
import DynamicLinking.Proofs.PromisedResults
import DynamicLinking.Proofs.PropertyHeap
import DynamicLinking.Proofs.Reboxing
import DynamicLinking.Proofs.RepeatedCalls
import DynamicLinking.Proofs.SignatureTexts
import DynamicLinking.Proofs.SingleClass
import DynamicLinking.Proofs.SiteCounters
import DynamicLinking.Proofs.Stability
import DynamicLinking.Proofs.StringMembers
import DynamicLinking.Proofs.SuperDispatch
import DynamicLinking.Proofs.TotalLinking
import DynamicLinking.Proofs.TypedArguments
