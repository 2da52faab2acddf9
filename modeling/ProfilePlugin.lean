import ProfilePlugin.Python
import ProfilePlugin.Filename
import ProfilePlugin.Resolver
import ProfilePlugin.Fs
import ProfilePlugin.Glob
import ProfilePlugin.Walk
import ProfilePlugin.Runs
import ProfilePlugin.Links
import ProfilePlugin.Queries
import ProfilePlugin.Data
import ProfilePlugin.RateLimit
import ProfilePlugin.Session
import ProfilePlugin.Json
import ProfilePlugin.Respond
import ProfilePlugin.PyInt
import ProfilePlugin.Capture
import ProfilePlugin.Routes
import ProfilePlugin.Threads
