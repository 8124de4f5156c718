import SplatBot.ExprLang.Compile
import SplatBot.Knowledge.Match
import SplatBot.Knowledge.Handler
import SplatBot.Commands.Tokenize
import SplatBot.Commands.Handler
import SplatBot.Commands.Runs
import SplatBot.Commands.Descriptors
import SplatBot.Knowledge.Load
import SplatBot.Startup
import SplatBot.GitHub.RoundTripper
import SplatBot.Commands.Dialog
import SplatBot.Knowledge.ChannelNames
import SplatBot.GitHub.Routing
import SplatBot.GitHub.Calls
import SplatBot.GitHub.Authorized
import SplatBot.GitHub.Sequential
import SplatBot.EventLoop
