import TestDouble.Scenario.Masked
import TestDouble.Scenario.Rounds
import TestDouble.Scenario.Trial
import TestDouble.Proofs.Recording.Address
import TestDouble.Proofs.Recording.Choice
import TestDouble.Proofs.Recording.Placement
import TestDouble.Proofs.Recording.Drawing
import TestDouble.Proofs.Recording.Recorded
import TestDouble.Proofs.Recording.Correlation
import TestDouble.Proofs.Recording.Origin
import TestDouble.Proofs.Matcher.Pure
import TestDouble.Proofs.Session.Example
import TestDouble.Proofs.Session.Running
import TestDouble.Proofs.Session.ExampleRounds
import TestDouble.Proofs.Registry
import TestDouble.Proofs.Session.ExampleStubbed
import TestDouble.Proofs.Session.ExampleAnswered
import TestDouble.Proofs.Session.ExampleVerified
import TestDouble.Proofs.Session.Ensures
import TestDouble.Proofs.Session.Pending
import TestDouble.Proofs.Session.PendingRecorded
import TestDouble.Proofs.Session.PendingStatements
import TestDouble.Proofs.Session.PendingPrograms
import TestDouble.Proofs.Stub.Serving
import TestDouble.Proofs.Session.ChainAnswered
import TestDouble.Proofs.Session.Halfway
import TestDouble.Proofs.Session.Reaching
import TestDouble.Proofs.Session.Observing
import TestDouble.Proofs.Session.ObservingStatements
import TestDouble.Proofs.Session.ObservingRecorded
import TestDouble.Proofs.Session.ObservingPrograms
import TestDouble.Proofs.Session.Disturbed
import TestDouble.Proofs.Session.Finishing
import TestDouble.Proofs.Matcher.Replacing
import TestDouble.Proofs.Session.Linked
import TestDouble.Proofs.Recording.PureRounds
import TestDouble.Proofs.Verification.Matched
import TestDouble.Proofs.Verification.Exact
import TestDouble.Proofs.Session.RecordingOnly
import TestDouble.Proofs.Session.Untouched
import TestDouble.Proofs.Chronicle.Confirming
import TestDouble.Proofs.Release
import TestDouble.Proofs.Session.Evolving
import TestDouble.Proofs.Session.Releasing
import TestDouble.Proofs.Session.Placing
import TestDouble.Proofs.Session.Leading
import TestDouble.Proofs.Session.Walking
import TestDouble.Proofs.Session.ChainVerified
import TestDouble.Proofs.Recording.Hinting
import TestDouble.Proofs.Recording.Reading
import TestDouble.Proofs.Session.TypedRounds
import TestDouble.Proofs.Session.Converging
import TestDouble.Proofs.Session.Bounded
import TestDouble.Proofs.Session.Memoizing
import TestDouble.Proofs.Stub.Searching
import TestDouble.Proofs.Verification.Ordered
import TestDouble.Proofs.Verification.Consecutive
import TestDouble.Proofs.Verification.Hierarchy
import TestDouble.Proofs.Verification.Counted
import TestDouble.Proofs.Session.NotCalled
import TestDouble.Proofs.Session.Discharging
import TestDouble.Proofs.Session.Hiding
import TestDouble.Proofs.Session.Unlogged
import TestDouble.Proofs.Chronicle.Tracking
import TestDouble.Proofs.Chronicle.Hidden
import TestDouble.Proofs.Chronicle.Marks
import TestDouble.Proofs.Matcher.Meaning
import TestDouble.Proofs.Recording.Completing
import TestDouble.Proofs.Recording.Bands
import TestDouble.Proofs.Recording.Issuing
import TestDouble.Proofs.Session.Matching
import TestDouble.Proofs.Recording.Telling
import TestDouble.Proofs.Matcher.Capturing
import TestDouble.Proofs.Recording.Absorbing
import TestDouble.Proofs.Stub.Resetting
