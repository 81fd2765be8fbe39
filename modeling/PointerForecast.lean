import PointerForecast.Diagnosis
import PointerForecast.Main
import PointerForecast.Proofs.Double.Special
import PointerForecast.Proofs.Double.WholeNumber
import PointerForecast.Proofs.Double.UnitInterval
import PointerForecast.Proofs.Double.Nearest
import PointerForecast.Proofs.Double.Value
import PointerForecast.Proofs.Double.Operations
import PointerForecast.Proofs.Double.WholeMean
import PointerForecast.Proofs.Double.Order
import PointerForecast.Proofs.Run
import PointerForecast.Proofs.Setup
import PointerForecast.Proofs.ExplicitRate
import PointerForecast.Proofs.Walk
import PointerForecast.Proofs.FixedLength
import PointerForecast.Proofs.Acceptance
import PointerForecast.Proofs.Lockstep
import PointerForecast.Proofs.StrokeIsolation
import PointerForecast.Proofs.StoredPoint
import PointerForecast.Proofs.Transparency
import PointerForecast.Proofs.Chronicle
import PointerForecast.Proofs.Readiness
import PointerForecast.Proofs.TraceNumbers
import PointerForecast.Proofs.PressureRange
import PointerForecast.Proofs.NonFinite
import PointerForecast.Proofs.TrackedStream
import PointerForecast.Proofs.Repetition
import PointerForecast.Proofs.PressureIndependence
import PointerForecast.Proofs.Confidence
import PointerForecast.Proofs.BoundedHorizon
import PointerForecast.Proofs.HorizonOrder
import PointerForecast.Proofs.LongerTarget
import PointerForecast.Proofs.Correspondence
import PointerForecast.Proofs.RigidMotion
import PointerForecast.Proofs.TimeShift
import PointerForecast.Proofs.ClockIndependence
import PointerForecast.Proofs.AxisSymmetry
import PointerForecast.Proofs.Exact.Arithmetic
import PointerForecast.Proofs.Exact.Covariance
import PointerForecast.Proofs.Exact.Translation
import PointerForecast.Proofs.WrittenText
import PointerForecast.Proofs.ReplayCounts
import PointerForecast.Proofs.AllOrNothing
import PointerForecast.Proofs.Headings
import PointerForecast.Proofs.Exact.Superposition
import PointerForecast.Proofs.Exact.ClosedWalk
import PointerForecast.Proofs.Configuration
import PointerForecast.Proofs.SampleCount
import PointerForecast.Proofs.BoundedHistory
import PointerForecast.Proofs.Exact.Reach
import PointerForecast.Proofs.Padding
import PointerForecast.Proofs.TraceShape
import PointerForecast.Proofs.Exact.Derivatives
import PointerForecast.Proofs.Exact.UniformMotion
import PointerForecast.Proofs.StoredRate
