import VmProvisioning.Text.Casing
import VmProvisioning.Text.Blank
import VmProvisioning.Text.Search
import VmProvisioning.Json.Basic

/-!
# Classification of templates

Templates describe themselves by annotations and labels that vary in form. Every property of a
template is decided by an ordered list of rules over its name, annotations and labels: the first
rule that applies decides, and the last one always applies.

## Main definitions

* `cleanName`: a readable name from an object name
* `displayName`, `operatingSystem`, `flavor`, `diskSize`, `image`, `icon`: the properties
-/

namespace VmProvisioning.Classification

/-! ## Keys -/

/-- The annotation with an explicit display name. -/
def displayNameKey : String := "openshift.io/display-name"

/-- The beginning of the annotations that name an operating system. -/
def systemNamePrefix : String := "name.os.template.kubevirt.io/"

/-- The annotation with a long description. -/
def longDescriptionKey : String := "openshift.io/long-description"

/-- The annotation with a description. -/
def descriptionKey : String := "description"

/-- The annotation with the name of the operating system. -/
def osNameKey : String := "template.kubevirt.io/os-name"

/-- The annotation with the version of the operating system. -/
def osVersionKey : String := "template.kubevirt.io/os-version"

/-- The annotation or label with an operating system in free form. -/
def genericOsKey : String := "vm.kubevirt.io/os"

/-- The beginning of the labels that switch on an operating system. -/
def osLabelPrefix : String := "os.template.kubevirt.io/"

/-- The beginning of the labels that switch on a flavor. -/
def flavorLabelPrefix : String := "flavor.template.kubevirt.io/"

/-- The annotation with an image. -/
def imageKey : String := "vdc.dev/image"

/-- The annotation with a list of container disks. -/
def containerDisksKey : String := "template.kubevirt.io/containerdisks"

/-- The annotation with an icon. -/
def iconKey : String := "iconClass"

/-- The annotation with a list of tags. -/
def tagsKey : String := "tags"

/-! ## Tables -/

/-- A long description serves as a display name below this length. -/
def descriptionLimit : Nat := 80

/-- Words of capitals and digits are kept up to this length. -/
def acronymLimit : Nat := 4

/-- The root disk of a template that asks for none. -/
def defaultDiskSize : String := "30Gi"

/-- The icon when nothing else fits. -/
def defaultIcon : String := "icon-linux"

/-- The operating system when nothing else fits. -/
def defaultOs : String := "Linux"

/-- Families of operating systems by a part of their name. -/
def osFamilies : List (String × String) :=
  [("rhel", "RHEL"), ("centos", "CentOS"), ("fedora", "Fedora"), ("ubuntu", "Ubuntu"),
   ("windows", "Windows")]

/-- Parts of names that count in labels only, such as `win2k22`. -/
def osLabelAliases : List (String × String) :=
  [("win", "Windows")]

/-- A size of machine: processors and a memory quantity. -/
structure Flavor where
  cpu : UInt32
  memory : String
deriving DecidableEq, Repr

/-- The flavor when nothing else fits. -/
def defaultFlavor : Flavor := ⟨1, "2Gi"⟩

/-- Flavors by name. -/
def flavors : List (String × Flavor) :=
  [("tiny", ⟨1, "1Gi"⟩), ("small", ⟨1, "2Gi"⟩), ("medium", ⟨1, "4Gi"⟩), ("large", ⟨2, "8Gi"⟩)]

/-- Icons by a part of the tags or of the name. -/
def icons : List (String × String) :=
  [("rhel", "icon-rhel"), ("centos", "icon-centos"), ("fedora", "icon-fedora"),
   ("ubuntu", "icon-ubuntu"), ("debian", "icon-debian"), ("windows", "icon-windows")]

/-! ## Readable names -/

/-- The word that every readable name ends in. -/
def machineWord : List Char := ['V', 'M']

/-- Whether a word is a short one of capitals and digits, with a capital. -/
def isAcronym (word : List Char) : Bool :=
  word.length ≤ acronymLimit && word.any Char.isUpper &&
    word.all fun c => c.isUpper || c.isDigit

/-- One word of a readable name: acronyms stay, other words get a capital first letter. -/
def cleanWord (word : List Char) : List Char :=
  if word.map Char.toLower = ['v', 'm'] then machineWord
  else if isAcronym word then word
  else
    match word with
    | first :: rest => Text.upperChar first ++ rest
    | [] => []

/-- Whether a character separates the words of a name. -/
def isWordBreak (c : Char) : Bool :=
  c == '-' || c == '_' || c == ' '

/-- The words of a readable name. -/
def cleanWords (name : List Char) : List (List Char) :=
  let words := ((Text.pieces isWordBreak name).filter (· ≠ [])).map cleanWord
  if words.getLast? = some machineWord then words else words ++ [machineWord]

/-- **A readable name**, such as `Rhel9 Server Small VM` for `rhel9-server-small`. -/
def cleanName (name : String) : String :=
  String.ofList ([' '].intercalate (cleanWords name.toList))

/-! ## Properties -/

/-- The value under a key, when it is not blank. -/
def nonBlank? (texts : Fields String) (key : String) : Option String :=
  (Fields.get? texts key).filter fun value => !Text.isBlankText value

/-- **The display name**: the annotation, the name of an operating system, a long description
that is not too long, and else the readable name. -/
def displayName (name : String) (annotations : Fields String) : String :=
  let osName? := annotations.find? fun (key, value) =>
    Text.beginsWith key systemNamePrefix && !Text.isBlankText value
  let description? := (nonBlank? annotations longDescriptionKey).filter fun text =>
    text.length < descriptionLimit
  ((nonBlank? annotations displayNameKey).or
    ((osName?.map Prod.snd).or description?)).getD (cleanName name)

/-- The family of the first entry that occurs in the text, and what follows there. -/
def osFamily? (table : List (String × String)) (text : String) : Option (String × List Char) :=
  let lower := (Text.lowercase text).toList
  table.findSome? fun (part, family) =>
    (Text.cut? part.toList lower).map fun (_, rest) => (family, rest)

/-- An operating system in free form: its family and version, or the text as it is. -/
def osOfText (text : String) : String × String :=
  match osFamily? osFamilies text with
  | some (family, rest) => (family, String.ofList (Text.trimBy (· == '-') rest))
  | none => (text, "")

/-- An operating system from the end of a label, without its underscores. -/
def osOfLabel (ending : List Char) : String × String :=
  let text := String.ofList (ending.filter (· ≠ '_'))
  match osFamily? (osFamilies ++ osLabelAliases) text with
  | some (family, rest) => (family, String.ofList rest)
  | none => (text, "")

/-- The end of the first label that switches on an operating system. -/
def osLabelEnding? (labels : Fields String) : Option (List Char) :=
  labels.findSome? fun (key, value) =>
    if value = "true" then Text.dropPrefix? osLabelPrefix.toList key.toList else none

/-- **The operating system** with its version: the annotations made for it, the free form, the
labels, the name of the template. -/
def operatingSystem (name : String) (annotations labels : Fields String) : String × String :=
  match nonBlank? annotations osNameKey with
  | some os => (os, (nonBlank? annotations osVersionKey).getD "")
  | none =>
    match (nonBlank? annotations genericOsKey).or (nonBlank? labels genericOsKey) with
    | some text => osOfText text
    | none =>
      match osLabelEnding? labels with
      | some ending => osOfLabel ending
      | none =>
        match osFamily? osFamilies name with
        | some (family, _) => (family, "")
        | none => (defaultOs, "")

/-- **The flavor**: the labels, then the name of the template. -/
def flavor (name : String) (labels : Fields String) : Flavor :=
  let byLabel? := flavors.find? fun (flavor, _) =>
    Fields.get? labels (flavorLabelPrefix ++ flavor) == some "true"
  let byName? := flavors.find? fun (flavor, _) => Text.contains (Text.lowercase name) flavor
  ((byLabel?.or byName?).map Prod.snd).getD defaultFlavor

/-- The size that an entry of a machine's disk templates asks for. -/
def requestedStorage? (entry : Json) : Option String :=
  (entry.nonEmptyTextAt? ["spec", "storage", "resources", "requests", "storage"]).or
    (entry.nonEmptyTextAt? ["spec", "pvc", "resources", "requests", "storage"])

/-- **The disk size**: what the first disk template asks for, unless it depends on a parameter. -/
def diskSize (objects : List Json) : String :=
  let machines := objects.filter fun object => object.textAt? ["kind"] == some "VirtualMachine"
  let entries := machines.flatMap fun machine => machine.itemsAt ["spec", "dataVolumeTemplates"]
  ((entries.findSome? requestedStorage?).filter fun size =>
    !Text.contains size "$\x7b").getD defaultDiskSize

/-- **The image**: the annotation, and else the first of the container disks. -/
def image (annotations : Fields String) : Option String :=
  let firstDisk? := (nonBlank? annotations containerDisksKey).bind fun disks =>
    ((Text.pieces (fun c => c == '\n' || c == ',') disks.toList).map
      (Text.trimBy Text.isBlank)).find? (· ≠ [])
  (nonBlank? annotations imageKey).or (firstDisk?.map String.ofList)

/-- The icon of the first entry that occurs in a text. -/
def iconOfText? (text : String) : Option String :=
  let lower := Text.lowercase text
  (icons.find? fun (part, _) => Text.contains lower part).map Prod.snd

/-- **The icon**: the annotation, the tags, the name of the template. -/
def icon (name : String) (annotations : Fields String) : String :=
  ((nonBlank? annotations iconKey).or
    (((nonBlank? annotations tagsKey).bind iconOfText?).or (iconOfText? name))).getD defaultIcon

/-- The description: the annotation, and else the long description. -/
def description (annotations : Fields String) : String :=
  ((nonBlank? annotations descriptionKey).or (nonBlank? annotations longDescriptionKey)).getD ""

end VmProvisioning.Classification
