import Zugfolge.Conflict.Agreement
import Zugfolge.Conflict.Framework
import Zugfolge.Conflict.Runs
import Zugfolge.Conflict.Shift
import Zugfolge.Demand.Seats
import Zugfolge.Determinism.Uniform
import Zugfolge.Disruption.Coordination
import Zugfolge.Disruption.Runtime
import Zugfolge.Economy.Arrangements
import Zugfolge.Economy.Awards
import Zugfolge.Economy.Budgets
import Zugfolge.Economy.Codec
import Zugfolge.Economy.Effects
import Zugfolge.Economy.Insolvency
import Zugfolge.Economy.Projection
import Zugfolge.Economy.Settlements
import Zugfolge.Economy.Streams
import Zugfolge.FareControl.Days
import Zugfolge.Fleet.Restrictions
import Zugfolge.Infra.Compatibility
import Zugfolge.Infra.Exclusions
import Zugfolge.Infra.Sections
import Zugfolge.Infra.WellFormed
import Zugfolge.Livemap.Announcements
import Zugfolge.Livemap.Clients
import Zugfolge.Livemap.Regions
import Zugfolge.Operations.Calendar
import Zugfolge.Operations.Overlap
import Zugfolge.Planner.Admissible
import Zugfolge.Planner.Edges
import Zugfolge.Planner.Granted
import Zugfolge.Planner.Shifts
import Zugfolge.Rules.Backtest
import Zugfolge.Safety.Batches
import Zugfolge.Safety.Stalls
import Zugfolge.Sim.Border
import Zugfolge.Sim.Clock
import Zugfolge.Sim.Departures
import Zugfolge.Sim.Fingerprint
import Zugfolge.Sim.LiveFeed
import Zugfolge.Sim.Materializer
import Zugfolge.Sim.Owners
import Zugfolge.Sim.Refusals
