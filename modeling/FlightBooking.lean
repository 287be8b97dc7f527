import FlightBooking.Lib.Dict
import FlightBooking.Lib.Effect
import FlightBooking.Lib.Run
import FlightBooking.Lib.Lease
import FlightBooking.Lib.Ledger
import FlightBooking.Lib.Interleave
import FlightBooking.Lib.FirstCome
import FlightBooking.Lib.StableSort
import FlightBooking.Lib.Paging
import FlightBooking.Lib.HalfEven
import FlightBooking.Lib.Decimal
import FlightBooking.Lib.DecimalValue
import FlightBooking.Lib.DecimalParse
import FlightBooking.Lib.DateTime
import FlightBooking.Domain.Pricing
import FlightBooking.Adapters.HttpApp
import FlightBooking.Composition.Machine
import FlightBooking.Composition.StoreCalls
import FlightBooking.Support.AuditReplay
import FlightBooking.Verification.CommitSpec
import FlightBooking.Verification.QuoteSpec
import FlightBooking.Verification.CheckSpec
import FlightBooking.Verification.StepSpec
import FlightBooking.Verification.SeatLockSpec
import FlightBooking.Verification.NoDoubleBooking
import FlightBooking.Verification.LockExclusion
import FlightBooking.Verification.LockRelease
import FlightBooking.Verification.LockExpiry
import FlightBooking.Verification.LockRace
import FlightBooking.Verification.QuoteWindow
import FlightBooking.Verification.Authority
import FlightBooking.Verification.LockReservation
import FlightBooking.Verification.LockVerdict
import FlightBooking.Verification.CommitAtomicity
import FlightBooking.Verification.FlightIsolation
import FlightBooking.Verification.AuditTrail
import FlightBooking.Verification.RoundingRule
import FlightBooking.Verification.PriceSpec
import FlightBooking.Verification.QuoteOutcome
import FlightBooking.Verification.Departure
import FlightBooking.Verification.QuoteTrace
import FlightBooking.Verification.TaxAgreement
import FlightBooking.Verification.DemandBuckets
import FlightBooking.Verification.PriceOrder
import FlightBooking.Verification.PositivePrice
import FlightBooking.Verification.PaperReceipt
import FlightBooking.Verification.MoneyOnWire
import FlightBooking.Verification.ReplayAgreement
import FlightBooking.Verification.SeatMapAgreement
import FlightBooking.Verification.SeatOrder
import FlightBooking.Verification.OccupancyCount
import FlightBooking.Verification.CommitOrder
import FlightBooking.Verification.SeatMapRace
import FlightBooking.Verification.SearchSpec
import FlightBooking.Verification.SearchFilters
import FlightBooking.Verification.Pagination
import FlightBooking.Verification.ConcurrentBooking
import FlightBooking.Verification.Completion
import FlightBooking.Verification.HttpBooking
import FlightBooking.Verification.HttpStatus
import FlightBooking.Verification.AuditFile
import FlightBooking.Verification.CommitSerial
import FlightBooking.Verification.RaceHarness
import FlightBooking.Verification.SearchEndpoint
import FlightBooking.Verification.Linearisation
