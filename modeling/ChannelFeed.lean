import ChannelFeed.Cache.Session
import ChannelFeed.Main
import ChannelFeed.Settings.Session
import ChannelFeed.Proofs.Sharing.Custody
import ChannelFeed.Proofs.Feed.Economy
import ChannelFeed.Proofs.Sharing.Keys
import ChannelFeed.Proofs.Sharing.Versions
import ChannelFeed.Proofs.Sharing.Owners
import ChannelFeed.Proofs.Sharing.Waiting
import ChannelFeed.Proofs.Sharing.Replay
import ChannelFeed.Proofs.Sharing.Separation
import ChannelFeed.Proofs.Sharing.Tables
import ChannelFeed.Proofs.Sharing.Linearization
import ChannelFeed.Proofs.Feed.Unseeing
import ChannelFeed.Proofs.Feed.Turns
import ChannelFeed.Proofs.Feed.Claims
import ChannelFeed.Proofs.Feed.Freshness
import ChannelFeed.Proofs.Feed.Polling
import ChannelFeed.Proofs.Feed.Changes
import ChannelFeed.Proofs.Feed.Waking
import ChannelFeed.Proofs.Feed.Watching
import ChannelFeed.Proofs.Feed.Results
import ChannelFeed.Proofs.Feed.Origins
import ChannelFeed.Proofs.Feed.Policies
import ChannelFeed.Proofs.Feed.Reaching
import ChannelFeed.Proofs.Feed.Isolation
import ChannelFeed.Proofs.Feed.Beside
import ChannelFeed.Proofs.Feed.SideBySide
import ChannelFeed.Proofs.Feed.Dropping
import ChannelFeed.Proofs.Feed.Promises
import ChannelFeed.Proofs.Feed.Refetching
import ChannelFeed.Proofs.Feed.Notifying
import ChannelFeed.Proofs.Feed.CachedLoading
import ChannelFeed.Proofs.Feed.Lookouts
import ChannelFeed.Proofs.Feed.HandingOver
import ChannelFeed.Proofs.CommandLine.Configuration
import ChannelFeed.Proofs.CommandLine.Listing
import ChannelFeed.Proofs.Text.Utf8
import ChannelFeed.Proofs.Json.Members
import ChannelFeed.Proofs.Json.Reads
import ChannelFeed.Proofs.Json.Ordered
import ChannelFeed.Proofs.Json.Strings
import ChannelFeed.Proofs.Json.Numbers
import ChannelFeed.Proofs.Json.Doubles
import ChannelFeed.Proofs.Json.Layouts
import ChannelFeed.Proofs.Json.Rereading
import ChannelFeed.Proofs.Json.Written
import ChannelFeed.Proofs.Json.PassedScalars
import ChannelFeed.Proofs.Json.Passing
import ChannelFeed.Proofs.Json.Repeats
import ChannelFeed.Proofs.Json.TypedReading
import ChannelFeed.Proofs.Channel.Records
import ChannelFeed.Proofs.Channel.Verbatim
import ChannelFeed.Proofs.Channel.Rereading
import ChannelFeed.Proofs.Channel.Written
import ChannelFeed.Proofs.Channel.Agreement
import ChannelFeed.Proofs.Http.Exchanges
import ChannelFeed.Proofs.Http.Outcomes
import ChannelFeed.Proofs.Json.Grammar
import ChannelFeed.Proofs.Url.Percent
import ChannelFeed.Proofs.Url.Paths
import ChannelFeed.Proofs.Url.Endpoints
import ChannelFeed.Proofs.Url.Climbing
import ChannelFeed.Proofs.Json.PassedTexts
import ChannelFeed.Proofs.Json.ObjectTexts
import ChannelFeed.Proofs.Files.Written
import ChannelFeed.Proofs.Settings.Restating
