import KeyCatalog.Repository
/-!
The catalogs that come with the library, as the text of their documents.
-/
namespace KeyCatalog.Bundled

def annotations : String :=
"annotations:
  - name: cdi.kubevirt.io/storage.bind.immediate.requested
    description: CDI executes binding requests immediately.
    hidden: true
    resources:
      - DataVolume

  - name: vink.kubevm.io/datavolume.owner
    description: Indicates that this DataVolume is being used by a specific virtual machine.
    hidden: true
    resources:
      - DataVolume

  - name: vink.kubevm.io/disks
    description: Disk layout of the virtual machine, serialized as JSON.
    resources:
      - VirtualMachine

  - name: vink.kubevm.io/host
    description: Specifies the host machine where the virtual machine is scheduled to run.
    resources:
      - VirtualMachine

  - name: vink.kubevm.io/monitor
    description: Monitoring settings of the virtual machine, serialized as JSON.
    resources:
      - VirtualMachine

  - name: vink.kubevm.io/networks
    description: Network interfaces of the virtual machine, serialized as JSON.
    resources:
      - VirtualMachine

  - name: vink.kubevm.io/operating-system
    description: Operating system installed in the virtual machine.
    resources:
      - VirtualMachine

  - name: vink.kubevm.io/storage
    description: Storage classes available on the node.
    resources:
      - Node
"

def labels : String :=
"labels:
  - name: vink.kubevm.io/datavolume.type
    description: Defines the type of datavolume, such as root for the system datavolume, image for the system image, and data for the data datavolume.
    hidden: true
    resources:
      - DataVolume

  - name: vink.kubevm.io/virtualmachine.os
    description: Defines the operating system of the virtual machine, where 'windows' represents the Windows operating system, and 'linux' represents the Linux operating system.
    hidden: true
    resources:
      - DataVolume

  - name: vink.kubevm.io/virtualmachine.version
    description: Defines the operating system version of the virtual machine.
    hidden: true
    resources:
      - DataVolume
"

def source : Collection → String
  | .annotations => annotations
  | .labels => labels

/-- What messages call the document of a collection. -/
def origin (collection : Collection) : String :=
  "bundled " ++ collection.nounPlural ++ " catalog"

def index (collection : Collection) (suffix : String) : Except Index.LoadError Index :=
  Index.ofYaml (source collection) collection suffix (origin collection)

def repositoryOf (annotations labels : Except Index.LoadError Index) :
    Except Index.LoadError Repository :=
  match annotations, labels with
  | .error error, _ => .error error
  | _, .error error => .error error
  | .ok annotations, .ok labels => .ok ((({} : Repository).register annotations).register labels)

/-- Both catalogs, resolved with the default suffix. -/
def repository : Except Index.LoadError Repository :=
  repositoryOf (index .annotations defaultSuffix) (index .labels defaultSuffix)

end KeyCatalog.Bundled
