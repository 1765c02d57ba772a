import PodNet.ConfList
import PodNet.FileSystem.Basic

/-!
# The directory of networks

Networks are configured by files in one directory, and plugins are binaries in the directories of a
search path. A configuration file has the extension `conf` (one plugin) or `conflist` (a list of
plugins). Files are taken in the order of their names, whatever order the directory lists them in,
and a file that cannot be read or holds no configuration never hides the others. The program's own
configuration lies in the same directory and is never taken for a network to delegate to.
-/

namespace PodNet

/-- Where configurations and binaries are. -/
structure Directory where
  networks : String
  binaries : List String
  deriving Repr, DecidableEq

namespace Directory

/-- The file with the program's own configuration. -/
def ownFile : String := "00-genie.conf"

/-- The plugin type that the program's own configuration names. -/
def ownType : String := "genie"

/-- The path of a file in the directory. -/
def file (d : Directory) (name : String) : String :=
  Path.join d.networks name

/-- Is it the name of a configuration file? -/
def isConfName (name : String) : Bool :=
  Path.extension? name == some "conf" || Path.extension? name == some "conflist"

/-- Is the file with the name a list of plugins? -/
def isListName (name : String) : Bool :=
  Path.extension? name == some "conflist"

/-- Texts in ascending order. -/
def ascending (names : List String) : List String :=
  names.mergeSort fun a b => !(b < a)

/-- The names of the configuration files among those of a directory, in order. -/
def confNamesOf (d : Directory) (fs : FileSystem) (names : List String) : List String :=
  ascending (names.filter fun n => isConfName n && fs.isFile (d.file n))

/-- The names of the configuration files, in order. A directory that does not exist has none. -/
def confNames (d : Directory) (fs : FileSystem) : Except Failure (List String) :=
  match fs.readDirectory d.networks with
  | .ok names => .ok (d.confNamesOf fs names)
  | .error .notFound => .ok []
  | .error e => .error (.io e)

/-- The paths of the configuration files, in order. -/
def confFiles (d : Directory) (fs : FileSystem) : Except Failure (List String) :=
  (d.confNames fs).map fun names => names.map d.file

/-- May the file with the name configure the plugin? -/
def isFor (plugin name : String) : Bool :=
  name != ownFile && Text.occurs plugin name

/-- The first configuration file with the name of the plugin in its own, the program's own file
aside. -/
def findConf (d : Directory) (fs : FileSystem) (plugin : String) : Except Failure (Option String) :=
  (d.confNames fs).map fun names => (names.find? (isFor plugin)).map d.file

/-- Says which file a faulty configuration is in. -/
def blame (path : String) : Failure → Failure
  | .invalidConfig fault => .invalidConfig (.inFile path fault)
  | f => f

/-- The configuration that a file with the name has as content. -/
def parseNamed (name : Option String) (content : Bytes) : Except Failure ConfList :=
  if name.any isListName then ConfList.parse content else ConfList.parseConf content

/-- Loads a configuration file. -/
def load (fs : FileSystem) (path : String) : Except Failure ConfList :=
  match fs.readFile path with
  | .ok content => (parseNamed (Path.fileName? path) content).mapError (blame path)
  | .error e => .error (.io e)

/-- The configurations of the files that can be loaded, each with the name of its file. -/
def loadable (d : Directory) (fs : FileSystem) (names : List String) : List (String × ConfList) :=
  names.filterMap fun n =>
    match load fs (d.file n) with
    | .ok l => some (n, l)
    | .error _ => none

/-- The network with a name: lists of plugins come first, single plugins after them. -/
def networkNamed (d : Directory) (fs : FileSystem) (name : String) :
    Except Failure (Option ConfList) :=
  (d.confNames fs).map fun names =>
    let inTurn := names.filter isListName ++ names.filter fun n => !isListName n
    ((d.loadable fs inTurn).find? fun e => e.2.name == name).map (·.2)

/-- The default network of the cluster: the first one that is not the program's own. -/
def defaultNetwork (d : Directory) (fs : FileSystem) : Except Failure (Option ConfList) :=
  (d.confNames fs).map fun names =>
    ((d.loadable fs (names.filter (· != ownFile))).find? fun e => e.2.primaryType != ownType).map
      (·.2)

/-- The types of the first plugins of all networks, each once, the program's own aside. -/
def installedTypes (d : Directory) (fs : FileSystem) : Except Failure (List String) :=
  (d.confNames fs).map fun names =>
    ((d.loadable fs names).map (·.2.primaryType)).foldl
      (fun types t => if t == ownType || types.contains t then types else types ++ [t]) []

/-- The path of the binary of a plugin: the first on the search path. -/
def findBinary (d : Directory) (fs : FileSystem) (plugin : String) : Option String :=
  (d.binaries.map fun b => Path.join b plugin).find? fs.isFile

/-- The search path as text. -/
def searchPath (d : Directory) : String :=
  Text.join ":" d.binaries

/-- Writes a configuration to a file of the directory, which is made if it does not exist. Directories
that were made stay, also if the file cannot be written. -/
def write (d : Directory) (fs : FileSystem) (name : String) (disk : Disk := .sound) (conf : Json) :
    Except Failure Unit × FileSystem :=
  match fs.ensureDirectories disk d.networks with
  | (.error e, made) => (.error (.io e), made)
  | (.ok (), made) =>
    let (outcome, left) := made.writeFile disk (d.file name) (Bytes.ofString conf.pretty)
    (outcome.mapError .io, left)

end Directory

end PodNet
