import TensorRuntime.Catalogue
import TensorRuntime.RegistryBuilder
import TensorRuntime.Session
import TensorRuntime.Proofs.Attempt
import TensorRuntime.Proofs.Contents
import TensorRuntime.Proofs.Kernel.Hooks
import TensorRuntime.Proofs.Frame
import TensorRuntime.Proofs.Kernel.Frames
import TensorRuntime.Proofs.Operator.Lifecycle
import TensorRuntime.Proofs.Kernel.Agreement
import TensorRuntime.Proofs.Kernel.Overwriting
import TensorRuntime.Proofs.Operator.Binding
import TensorRuntime.Proofs.Operator.Fallback
import TensorRuntime.Proofs.Operator.Fresh
import TensorRuntime.Proofs.Operator.Movement
import TensorRuntime.Proofs.Operator.Safety
import TensorRuntime.Proofs.Session.Freshness
import TensorRuntime.Proofs.Session.Overwriting
import TensorRuntime.Proofs.Session.Failing
import TensorRuntime.Proofs.Session.Rebinding
import TensorRuntime.Proofs.Operator.Conflicts
import TensorRuntime.Proofs.Operator.Progress
import TensorRuntime.Proofs.Operator.ImageOrder
import TensorRuntime.Proofs.Session.SingleAssignment
import TensorRuntime.Proofs.RegistryBuilder
import TensorRuntime.Proofs.RegistrationOrder
import TensorRuntime.Proofs.Kernel.ChannelOrder
import TensorRuntime.Proofs.Kernel.ChannelBodies
import TensorRuntime.Proofs.Kernel.ChannelsLast
import TensorRuntime.Proofs.TensorHistory
import TensorRuntime.Proofs.Broadcasting
import TensorRuntime.Proofs.Reshaping
import TensorRuntime.Proofs.PackedBits
import TensorRuntime.Proofs.Session.Takeover
import TensorRuntime.Proofs.Dispatch
import TensorRuntime.Proofs.InPlace.Basic
import TensorRuntime.Proofs.InPlace.Loops
import TensorRuntime.Proofs.InPlace.Storing
import TensorRuntime.Proofs.InPlace.Images
import TensorRuntime.Proofs.InPlace.Elementwise
import TensorRuntime.Proofs.InPlace.Lines
import TensorRuntime.Proofs.InPlace.Movement
import TensorRuntime.Proofs.InPlace.StoredIntegers
import TensorRuntime.Proofs.InPlace.Catalogue
import TensorRuntime.Proofs.Operator.Holding
import TensorRuntime.Proofs.Operator.Resolutions
import TensorRuntime.Proofs.Operator.InPlace
import TensorRuntime.Proofs.Operator.Failing
import TensorRuntime.Proofs.ShadowLedger
import TensorRuntime.Proofs.Numeric.Requantizer
import TensorRuntime.Proofs.Kernel.ConvolutionReads
import TensorRuntime.Proofs.Kernel.ConvolutionLaw
import TensorRuntime.Proofs.Kernel.Staging
import TensorRuntime.Proofs.Kernel.AcceleratorSums
import TensorRuntime.Proofs.Kernel.AcceleratorLaw
import TensorRuntime.Proofs.Accumulation
import TensorRuntime.Proofs.Kernel.ProductOrder
import TensorRuntime.Proofs.Kernel.LayerLaw
import TensorRuntime.Proofs.Kernel.ReductionLaw
import TensorRuntime.Proofs.Kernel.PoolingLaw
import TensorRuntime.Proofs.Kernel.Permutations
import TensorRuntime.Proofs.Kernel.Gathering
import TensorRuntime.Proofs.Kernel.TransposeLaw
import TensorRuntime.Proofs.Kernel.BroadcastLaw
import TensorRuntime.Proofs.Kernel.Padding
import TensorRuntime.Proofs.Kernel.SoftmaxLaw
import TensorRuntime.Proofs.RecordConversion
import TensorRuntime.Proofs.Windows
import TensorRuntime.Proofs.Kernel.Pixels
import TensorRuntime.Proofs.Numeric.Rounding
import TensorRuntime.Proofs.Numeric.WideScaling
import TensorRuntime.Proofs.Calibration
