import Rill.Json
import Rill.Prog
import Rill.Text
import Rill.Env
import Rill.Discord.Client
import Rill.Discord.Catalog
import Rill.Discord.Overwrites
import Rill.Discord.Setup
import Rill.Discord.SetupRun
import Rill.Discord.OverwriteRun
import Rill.Discord.AddFeed
import Rill.Discord.FeedRuns
import Rill.Discord.FeedPins
import Rill.Discord.RateLimit
import Rill.Discord.SetupTrace
import Rill.Discord.PinTrace
import Rill.Discord.DryRun
import Rill.Discord.Guild
import Rill.Discord.Provision
import Rill.Discord.Shipped
import Rill.Discord.FeedGuild
import Rill.Discord.FeedRerun
import Rill.Bridge.Format
import Rill.Bridge.Bridge
import Rill.Bridge.Checkpoint
import Rill.Bridge.DryRun
