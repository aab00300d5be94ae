import ItemQuery.Settings.Path
import ItemQuery.Text.Lower
import ItemQuery.Text.Upper

/-! Settings, read from environment variables. Each has a default and is read on its own, so that
one bad value does not hide the others. -/
namespace ItemQuery

abbrev Environment := List (Text × Text)

/-- What a service finds on the host that it starts on. -/
structure Host where
  homes : Homes
  /-- Whether the process has a log already; if not, one is set up with the level of the settings. -/
  hasLog : Bool

namespace Environment

def value? (env : Environment) (name : String) : Option Text := env.lookup name.toList

/-- Where the catalog is, if the environment names a file. -/
def catalogPath (homes : Homes) (env : Environment) : Except Fault (Option Path) :=
  match env.value? "ITEM_SEARCH_CATALOG_PATH" with
  | some (c :: rest) => ((Path.ofText (c :: rest)).expand homes (env.value? "HOME")).map some
  | _ => .ok none

def setBackend (env : Environment) : Text :=
  Text.lower ((env.value? "ITEM_SEARCH_SET_BACKEND").getD "equipment".toList)

def maxResults (env : Environment) : Except Fault Int :=
  match parseInt? ((env.value? "ITEM_SEARCH_MAX_RESULTS").getD "50".toList) with
  | some n => .ok n
  | none => .error .notAnInteger

def logLevel (env : Environment) : Text :=
  Text.upper ((env.value? "ITEM_SEARCH_LOG_LEVEL").getD "WARNING".toList)

def logLevels : List String :=
  ["CRITICAL", "DEBUG", "ERROR", "FATAL", "INFO", "NOTSET", "WARN", "WARNING"]

/-- Two further names in capitals that the log knows, and why what they stand for is no level. -/
def otherLogNames : List (String × Fault) :=
  [("BASIC_FORMAT", .unknownLevel), ("_STYLES", .unsuitable)]

/-- The name of the level is always looked up. What it stands for matters only where a log is set
up. -/
def checkLogLevel (host : Host) (env : Environment) : Except Fault Unit :=
  if logLevels.any (·.toList == env.logLevel) then .ok ()
  else match otherLogNames.find? (·.1.toList == env.logLevel) with
    | some (_, fault) => if host.hasLog then .ok () else .error fault
    | none => .error .noSuchPart

end Environment

end ItemQuery
