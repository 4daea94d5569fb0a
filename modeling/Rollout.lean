import Rollout.Dictionary
import Rollout.Group
import Rollout.Instance.Basic
import Rollout.Instance.Json
import Rollout.Json.Basic
import Rollout.Json.Canonical
import Rollout.Json.Escape
import Rollout.Json.Number
import Rollout.Json.Reader
import Rollout.Log.Directive
import Rollout.Log.Filter
import Rollout.Log.Record
import Rollout.Main
import Rollout.Note
import Rollout.Number.Binary64
import Rollout.Number.Power
import Rollout.Number.Shortest
import Rollout.Options
import Rollout.Pattern.Basic
import Rollout.Pattern.Bracket
import Rollout.Pattern.Mode
import Rollout.Pattern.Reader
import Rollout.Pattern.Search
import Rollout.Proofs.Address
import Rollout.Proofs.Agreement
import Rollout.Proofs.Alone
import Rollout.Proofs.Begun
import Rollout.Proofs.ByteOrder
import Rollout.Proofs.CallOrder
import Rollout.Proofs.Cancellation
import Rollout.Proofs.Canonical
import Rollout.Proofs.Clockwork
import Rollout.Proofs.Confirmation
import Rollout.Proofs.Conservation
import Rollout.Proofs.Convergence
import Rollout.Proofs.Course
import Rollout.Proofs.Demand
import Rollout.Proofs.DestroyOrder
import Rollout.Proofs.Environment
import Rollout.Proofs.Escape
import Rollout.Proofs.Expectation
import Rollout.Proofs.Fingerprint
import Rollout.Proofs.Gating
import Rollout.Proofs.History
import Rollout.Proofs.Independence
import Rollout.Proofs.LastGiven
import Rollout.Proofs.LastWord
import Rollout.Proofs.Lineage
import Rollout.Proofs.Loading
import Rollout.Proofs.NumberText
import Rollout.Proofs.Outcome
import Rollout.Proofs.Pacing
import Rollout.Proofs.Pieces
import Rollout.Proofs.Progress
import Rollout.Proofs.Quoting
import Rollout.Proofs.Readback
import Rollout.Proofs.Reading
import Rollout.Proofs.Rehearsal
import Rollout.Proofs.Replacement
import Rollout.Proofs.Report
import Rollout.Proofs.Seats
import Rollout.Proofs.Setting
import Rollout.Proofs.Simulation
import Rollout.Proofs.Site
import Rollout.Proofs.Snapshot
import Rollout.Proofs.Spelling
import Rollout.Proofs.Timely
import Rollout.Proofs.Transition
import Rollout.Proofs.Victim
import Rollout.Proofs.Wait
import Rollout.Rehearsal.Backend
import Rollout.Rehearsal.Finish
import Rollout.Rehearsal.Play
import Rollout.Rehearsal.Session
import Rollout.Rehearsal.World
import Rollout.Revision
import Rollout.Settings
import Rollout.Sha256
import Rollout.Simulation.Config
import Rollout.Simulation.Program
import Rollout.Text.Alphabetic
import Rollout.Text.Alphanumeric
import Rollout.Text.Blank
import Rollout.Text.CharSet
import Rollout.Text.Count
import Rollout.Text.Digits
import Rollout.Text.GraphemeExtend
import Rollout.Text.Ignorable
import Rollout.Text.Numeral
import Rollout.Text.Numeric
import Rollout.Text.Position
import Rollout.Text.Quoted
import Rollout.Text.RangeSet
import Rollout.Text.Unprintable
import Rollout.Update.Plan
import Rollout.Update.Status
import Rollout.Update.Ticker
