import Elevation.Command.Arguments
import Elevation.Decimal.Read
import Elevation.Session.Tools

/-!
The command that starts the server.

First the artifact store is opened, in memory or in the directory that the environment names; then
the arguments say whether requests come by standard input or by HTTP.
-/
namespace Elevation.Command

/-! ### The artifact store -/

inductive Storage where
  | memory
  | directory (path : String)
  deriving DecidableEq, Repr

namespace Storage

def memoryName : String := "memory"
def directoryName : String := "filesystem"

def name : Storage → String
  | memory => memoryName
  | directory _ => directoryName

def pathVariable : String := "CHUK_ARTIFACTS_PATH"

def log : String := "chuk_mcp_srtm.server"

variable {σ : Type}

/-- The storage that an environment asks for, its directory made. -/
def choose (environment : Settings.Environment) (world : World σ) :
    Except Failure Storage × World σ :=
  let provider := (environment.lookup Response.storageVariable).getD memoryName
  if provider = directoryName then
    match Settings.setting? environment pathVariable with
    | none =>
      let notice := pathVariable ++ " not set; using memory artifact store"
      (.ok memory, world.note .warning log notice)
    | some path =>
      let (made, disk) := world.disk.makeDirectories (.ofText path)
      ((made.map fun () => directory path).mapError .refused, { world with disk := disk })
  else if provider = memoryName then (.ok memory, world)
  else
    (.ok memory,
      world.note .warning log ("Unsupported artifact provider '" ++ provider ++ "'; using memory"))

end Storage

/-- The library that keeps artifacts: it makes a store in some storage, and puts a store in force for
everything else that runs, in place of the one before. Either may refuse. -/
structure Keeper (κ : Type) where
  make : Storage → Except String κ
  install : κ → Option κ → Except String Unit × Option κ
  storageOf : κ → Storage

/-- As the library says: a store keeps artifacts in the storage that it was made in, and one that is
accepted takes the place of the one before, which stays when it is refused. -/
structure Keeper.IsSetter {κ : Type} (keeper : Keeper κ) : Prop where
  storageOf_make : ∀ storage store, keeper.make storage = .ok store → keeper.storageOf store = storage
  install_cases : ∀ store current, keeper.install store current = (.ok (), some store) ∨
    ∃ reason, keeper.install store current = (.error reason, current)

namespace Storage

variable {σ κ : Type}

def noteRefused (world : World σ) (reason : String) : World σ :=
  world.note .error log ("Failed to initialize artifact store: " ++ reason)

/-- Opens the artifact store, and answers whether one was put in force in place of `current`. -/
def initialise (keeper : Keeper κ) (environment : Settings.Environment) (current : Option κ)
    (world : World σ) : Except Failure Bool × Option κ × World σ :=
  match choose environment world with
  | (.error failure, world) => (.error failure, current, world)
  | (.ok storage, world) =>
    match keeper.make storage with
    | .error reason => (.ok false, current, noteRefused world reason)
    | .ok store =>
      match keeper.install store current with
      | (.error reason, current) => (.ok false, current, noteRefused world reason)
      | (.ok (), current) =>
        (.ok true, current,
          world.note .info log ("Artifact store initialized (provider: " ++ storage.name ++ ")"))

end Storage

/-! ### Starting -/

inductive Launch where
  | stdio
  | http (host : Option String) (port : Option Int)
  deriving DecidableEq, Repr

/-- What the arguments say. A host or port that the separator stands for is none. -/
structure ServerOptions where
  mode : Option String
  host : Option String
  port : Option Int

namespace ServerOptions

def program : String := "chuk-mcp-srtm"

def stdioMode : String := "stdio"
def httpMode : String := "http"

def usualHost : String := "localhost"
def usualPort : Int := 8004

def readMode (value : Option String) (options : ServerOptions) : Except String ServerOptions :=
  match value with
  | none => .ok options
  | some text =>
    (chosen [stdioMode, httpMode] text).map fun mode => { options with mode := some mode }

def readPort (value : Option String) (options : ServerOptions) : Except String ServerOptions :=
  (convertedIfGiven "int" Decimal.argumentInt? value).map fun port => { options with port := port }

def grammar : Grammar ServerOptions :=
  { program := program
    usage := "usage: " ++ program ++ " [-h] [--host HOST] [--port PORT] [\x7bstdio,http\x7d]"
    manual :=
      ["SRTM3 Point Elevation MCP Server", "",
        "positional arguments:",
        "  \x7bstdio,http\x7d  Transport mode (stdio for Claude Desktop, http for API)", "",
        "options:",
        "  -h, --help    show this help message and exit",
        "  --host HOST   Host for HTTP mode (default: localhost)",
        "  --port PORT   Port for HTTP mode (default: 8004)"]
    flags :=
      [⟨["-h", "--help"], .help⟩,
        ⟨["--host"], .value fun host options => .ok { options with host := host }⟩,
        ⟨["--port"], .value readPort⟩]
    positionals := [⟨"mode", false, readMode⟩]
    start := ⟨none, usualHost, usualPort⟩ }

def noValue : String := "[]"

def stdioVariable : String := "MCP_STDIO"

/-- The mode of a server that is told none: standard input, unless a terminal stands there. -/
def detectMode (environment : Settings.Environment) (isTerminal : Bool) : String :=
  if (Settings.setting? environment stdioVariable).isSome || !isTerminal then stdioMode
  else httpMode

def launch (options : ServerOptions) (environment : Settings.Environment) (isTerminal : Bool) :
    Launch × String :=
  let mode := options.mode.getD (detectMode environment isTerminal)
  let detected := if options.mode.isNone then " (auto-detected)" else ""
  if mode = stdioMode then (.stdio, "SRTM MCP Server starting in STDIO mode" ++ detected)
  else
    (.http options.host options.port,
      "SRTM MCP Server starting in HTTP mode on " ++ options.host.getD noValue ++ ":"
        ++ (options.port.map toString).getD noValue ++ detected)

end ServerOptions

end Elevation.Command
