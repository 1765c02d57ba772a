import PodNet.CommandLine

/-!
# The program

This layer takes the surroundings of a run as values, runs `CommandLine.run` on them, writes what it
left among the files, and prints its answer. It reads the directories and files that the invocation
and its settings name. It starts no processes and reaches no services itself: to a run these are
refused, as on a node where neither is possible.
-/

namespace PodNet.Main

/-- The variables of the environment that a run may ask for. -/
def environmentNames : List String :=
  ["CNI_COMMAND", "CNI_CONTAINERID", "CNI_NETNS", "CNI_IFNAME", "CNI_ARGS", "CNI_PATH",
   "KUBECONFIG", "HOME"] ++ Kubernetes.ClientConfig.proxyNames ++
    Kubernetes.ClientConfig.overrideNames

/-- The environment, as far as it matters. -/
def readEnvironment : IO (List (String × String)) :=
  environmentNames.filterMapM fun name => do
    return (← IO.getEnv name).map fun value => (name, value)

/-- Standard input, up to the first chunk that goes beyond the greatest length. -/
partial def readInput (input : IO.FS.Stream) (done : ByteArray) : IO ByteArray := do
  if CommandLine.maxConfigLength < done.size then return done
  let chunk ← input.read 65536
  if chunk.isEmpty then return done else readInput input (done ++ chunk)

/-- The names on the way to a path, from the root. -/
def placeOf (fs : FileSystem) (path : String) : Place :=
  fs.start path ++ (Path.parts path).filter fun s => !Path.isStay s

/-- The path of a place. -/
def pathOf (place : Place) : String :=
  "/" ++ Text.join "/" place

/-- The files with a directory at a place and all that are on the way to it. -/
def putDirectory (fs : FileSystem) (place : Place) : FileSystem :=
  (fs.makeDirectories (pathOf place)).toOption.getD fs

/-- Takes up the file with a path. A file that cannot be read is one without permissions. -/
def takeFile (fs : FileSystem) (path : String) : IO FileSystem := do
  let place := placeOf fs path
  if ← ((← IO.currentDir) / path).isDir then return putDirectory fs place
  if !(← ((← IO.currentDir) / path).pathExists) then return fs
  let entry ← try
      pure (Entry.file (← IO.FS.readBinFile path).toList 0o755)
    catch _ => pure (Entry.file [] 0)
  return (putDirectory fs place.dropLast).put place entry

/-- Takes up a directory and what stands in it. -/
def takeDirectory (fs : FileSystem) (path : String) : IO FileSystem := do
  let directory := (← IO.currentDir) / path
  if !(← directory.isDir) then return fs
  let names := (← directory.readDir).toList.map (·.fileName)
  names.foldlM (fun fs name => takeFile fs (Path.join path name))
    (putDirectory fs (placeOf fs path))

/-- The directories that a run looks into. -/
def directoriesOf (i : Invocation) (s : Settings) : List String :=
  s.networks :: CommandLine.searchPath i s

/-- The configuration files that a run may read. -/
def configFiles (lookup : String → Option String) (s : Settings) : List String :=
  s.cluster.configFile.toList ++ Kubernetes.ClientConfig.environmentFiles lookup

/-- The files that a run may read besides, given those that were taken up before. -/
def filesOf (lookup : String → Option String) (s : Settings) (fs : FileSystem) : List String :=
  s.policy.authority.toList ++ s.policy.certificate.toList ++ s.policy.key.toList ++
    ((configFiles lookup s).filterMap (Kubernetes.Kubeconfig.load? fs)).flatMap
      Kubernetes.Kubeconfig.files

/-- The files of the node, as far as a run may look at them. -/
def readFiles (w : Surroundings) (stdin : Bytes) : IO FileSystem := do
  let here := (Path.parts (← IO.currentDir).toString).filter fun s => !Path.isStay s
  let start : FileSystem := putDirectory ⟨[], here⟩ here
  match CommandLine.decode w stdin with
  | .ok (i, some s) =>
    let fs ← (directoriesOf i s).foldlM takeDirectory start
    let fs ← (configFiles w.environment s).foldlM takeFile fs
    (filesOf w.environment s fs).foldlM takeFile fs
  | _ => return start

/-- Writes what a run added or changed. -/
def writeFiles (before after : FileSystem) : IO Unit :=
  after.entries.forM fun (place, entry) => do
    if before.at? place ≠ some entry then
      let path := pathOf place
      match entry with
      | .directory => IO.FS.createDirAll path
      | .file content _ => IO.FS.writeBinFile path content.toByteArray
      | .link _ => return ()

end PodNet.Main

/-- Serves one invocation. -/
def main : IO UInt32 := do
  let environment ← PodNet.Main.readEnvironment
  let surroundings : PodNet.Surroundings :=
    { environment := fun name => environment.lookup name
      machine := fun _ _ => .error .notASupportedOperation
      service := fun _ => none }
  let stdin := (← PodNet.Main.readInput (← IO.getStdin) .empty).toList
  let files ← PodNet.Main.readFiles surroundings stdin
  let (answer, node) := PodNet.CommandLine.run surroundings stdin files
  PodNet.Main.writeFiles files node.files
  IO.print answer.stdout
  return answer.status.toUInt32
