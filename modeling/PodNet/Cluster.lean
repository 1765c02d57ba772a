import PodNet.Resource

/-!
# The cluster

The cluster answers lookups of pods and of network resources, and takes the status of a pod. It is
given by its answers, which do not change while one invocation runs.
-/

namespace PodNet

/-- What is asked of the cluster. -/
inductive Query where
  | pod (ns name : String)
  | logicalNetwork (ns name : String)
  /-- All logical networks of a namespace. -/
  | logicalNetworks (ns : String)
  | physicalNetwork (ns name : String)
  | netAttachDef (ns name : String)
  deriving Repr, DecidableEq

/-- A cluster, by its answers. -/
structure Cluster where
  pod (ns name : String) : Except Failure Pod
  logicalNetwork (ns name : String) : Except Failure LogicalNetwork
  logicalNetworks (ns : String) : Except Failure (List LogicalNetwork)
  physicalNetwork (ns name : String) : Except Failure PhysicalNetwork
  netAttachDef (ns name : String) : Except Failure NetAttachDef
  /-- Merges annotations into those of a pod. -/
  patchPod (ns name : String) (annotations : Annotations) : Except Failure Unit

end PodNet
