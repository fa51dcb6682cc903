import OraclePriceFeeder.Broadcaster.Basic
import OraclePriceFeeder.Broadcaster.Loop
import OraclePriceFeeder.Broadcaster.SequenceNumber
import OraclePriceFeeder.Broadcaster.ErrorBudget
import OraclePriceFeeder.Broadcaster.Feedback
import OraclePriceFeeder.ChainComms.Interact
import OraclePriceFeeder.ChainComms.BuildTx
import OraclePriceFeeder.Feeder.TaskId
import OraclePriceFeeder.AlarmsDispatcher.Dispatch
import OraclePriceFeeder.AlarmsDispatcher.Drain
import OraclePriceFeeder.AlarmsDispatcher.Signing
import OraclePriceFeeder.Broadcast.SendBack
import OraclePriceFeeder.Supervisor.Configuration
import OraclePriceFeeder.Feeder.IntoTask
