import Spawny.Lib.Runs
import Spawny.Lib.Descriptors
import Spawny.Lib.Tombstones
import Spawny.Lib.Wire
import Spawny.Lib.Programs
import Spawny.Lib.Protobuf
import Spawny.Lib.History
import Spawny.Lib.FreshKeys
import Spawny.Lib.FlatArray
import Spawny.Lib.FirstMatch
import Spawny.Lib.Words
import Spawny.Lib.Paths
import Spawny.Lib.Loops
import Spawny.Lib.Stdio
import Spawny.Lib.Ini
import Spawny.Lib.IniPairs
import Spawny.Lib.IniCuts
import Spawny.Protocol.Messages
import Spawny.Protocol.Encoding
import Spawny.Client.Read
import Spawny.Client.DataConvert
import Spawny.Client.Calls
import Spawny.Daemon.Manager
import Spawny.Daemon.ManagerRuns
import Spawny.Daemon.Dispatch
import Spawny.Daemon.SpawnRegistry
import Spawny.Daemon.RegistryRuns
import Spawny.Daemon.SessionMgt
import Spawny.Daemon.Terminals
import Spawny.Daemon.State
import Spawny.Daemon.SpawnService
import Spawny.Daemon.GreeterTable
import Spawny.Daemon.Client
import Spawny.Daemon.Greeter
import Spawny.Daemon.Server
import Spawny.Daemon.Loop
import Spawny.Daemon.TemplateRegistry
import Spawny.Daemon.Steps
import Spawny.Daemon.Conversation
import Spawny.Daemon.SafeCalls
import Spawny.Daemon.Activations
import Spawny.Daemon.Activation
import Spawny.Daemon.Trace
import Spawny.Daemon.TryViews
import Spawny.Daemon.TryCells
import Spawny.Daemon.TryRule
import Spawny.Daemon.TryLife
import Spawny.Daemon.Processes
import Spawny.Daemon.Outcomes
import Spawny.Daemon.Pipes
import Spawny.Daemon.Connections
import Spawny.Daemon.LoginAnswers
import Spawny.Daemon.TryFields
import Spawny.Daemon.OpenFds
import Spawny.Daemon.GreeterSlots
import Spawny.Daemon.OneGreeter
import Spawny.Daemon.GreeterStarts
import Spawny.Daemon.Replies
import Spawny.Daemon.TrueAnswers
import Spawny.Daemon.GreeterFlags
import Spawny.Daemon.Lockouts
import Spawny.Daemon.StartCounts
import Spawny.Daemon.Generations
import Spawny.Daemon.WatchedFds
import Spawny.Daemon.Forks
import Spawny.Daemon.ForkEval
import Spawny.Daemon.SelectSets
import Spawny.Daemon.Registration
import Spawny.Daemon.DesktopFiles
import Spawny.Daemon.SessionDetails
import Spawny.Daemon.PamResponses
import Spawny.Daemon.LoginTemplates
import Spawny.Protocol.Receivers
import Spawny.UserDb.Records
import Spawny.UserDb.Files
import Spawny.UserDb.RoundTrip
import Spawny.UserDb.Owners
import Spawny.UserDb.Edits
import Spawny.UserDb.Store
import Spawny.UserDb.Hello
import Spawny.UserDb.Interrupted
import Spawny.UserDb.Sync
import Spawny.UserDb.Contexts
import Spawny.Daemon.LoadSessions
import Spawny.Daemon.LoadData
import Spawny.Daemon.LockoutCalls
import Spawny.Daemon.ActiveSessions
import Spawny.Daemon.DesktopDirs
import Spawny.Daemon.Arrays
import Spawny.UserDb.Util
import Spawny.Util.MkPath
import Spawny.FallbackGreeter.Main
import Spawny.FallbackGreeter.Templates
import Spawny.FallbackGreeter.EndOfInput
import Spawny.FallbackGreeter.ReadLoop
import Spawny.Daemon.Child
import Spawny.Daemon.ChildOutcomes
import Spawny.Daemon.Listening
import Spawny.Daemon.TryRequests
import Spawny.Daemon.Children
import Spawny.Daemon.Kills
import Spawny.Daemon.Inherited
import Spawny.Daemon.Farewells
import Spawny.Daemon.Turns
import Spawny.Lib.Framing
import Spawny.Protocol.Requests
import Spawny.Daemon.Sockets
import Spawny.Protocol.Streams
import Spawny.Daemon.Startup
import Spawny.Daemon.Jobs
import Spawny.Daemon.Choices
import Spawny.Daemon.Restarts
import Spawny.Daemon.Addresses
import Spawny.GreeterSet.Main
