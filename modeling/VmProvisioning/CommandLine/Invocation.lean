import VmProvisioning.CommandLine.Options

/-!
# Commands of the program

## Main definitions

* `Command`: what the program can do
* `Invocation`: a command with the settings for it
* `CommandLine.read`: the invocation of a command line
-/

namespace VmProvisioning

/-- **What the program can do.** -/
inductive Command where
  /-- Print the definition of datacenters. -/
  | definition
  /-- Check that the backend can be reached. -/
  | check
  /-- List the templates of the cluster or of a file. -/
  | templates (file : Option String)
  /-- Print the objects of a template for a machine. -/
  | render (file templateId machineName ns : String) (diskSize : Option String)
  /-- Deploy a machine into a datacenter. -/
  | deploy (datacenterFile templateId machineName : String) (diskSize templatesFile : Option String)
  /-- Print the status of a machine. -/
  | status (id ns : String)
  /-- Apply the quota of a datacenter to its namespace. -/
  | applyQuota (datacenterFile : String)
deriving DecidableEq, Repr

/-- A command with the settings for it. -/
structure Invocation where
  settings : Settings
  command : Command
deriving DecidableEq, Repr

namespace CommandLine

/-! ## What may be given -/

/-- The options of the program, which may also be given behind a command. -/
def commonSwitches : List Switch :=
  [{ name := "driver", form := .backend, fallback := some "VDC_DRIVER" },
   { name := "kubeconfig", form := .path, fallback := some "KUBECONFIG" },
   { name := "template-namespace", form := .text, fallback := some "VDC_TEMPLATE_NAMESPACE" },
   { name := "console-url", form := .text, fallback := some "VDC_CONSOLE_URL" },
   { name := "request-timeout-secs", form := .number,
     fallback := some "VDC_REQUEST_TIMEOUT_SECS" },
   { name := "json-logs", form := .flag }]

/-- The option for a file. -/
def fileSwitch (isRequired : Bool) : Switch :=
  { name := "file", letter := some 'f', form := .path, isRequired }

/-- The option for a template. -/
def templateSwitch : Switch :=
  { name := "template", letter := some 't', form := .text, isRequired := true }

/-- The option for the name of a machine. -/
def nameSwitch : Switch :=
  { name := "name", form := .text, isRequired := true }

/-- The option for a namespace. -/
def namespaceSwitch (isRequired : Bool) : Switch :=
  { name := "namespace", letter := some 'n', form := .text, isRequired }

/-- The option for the size of the root disk. -/
def diskSizeSwitch : Switch :=
  { name := "disk-size", form := .text }

/-- The commands with their levels. -/
def commandLevels : List (String × Level) :=
  [("crd", { switches := [] }),
   ("check", { switches := [] }),
   ("templates", { switches := [fileSwitch false] }),
   ("render", { switches := [fileSwitch true, templateSwitch, nameSwitch, namespaceSwitch false,
      diskSizeSwitch] }),
   ("deploy", { switches := [{ name := "vdc", form := .path, isRequired := true }, templateSwitch,
      nameSwitch, diskSizeSwitch, { name := "templates", form := .path }] }),
   ("status", { switches := [namespaceSwitch true], words := 1 }),
   ("apply-quota", { switches := [fileSwitch true] })]

/-- The command that asks for help. -/
def helpCommand : String :=
  "help"

/-- The level of the program. -/
def programLevel : Level where
  switches := commonSwitches
  commands := helpCommand :: commandLevels.map Prod.fst
  hasVersion := true

/-- The level of a command. -/
def commandLevel? (name : String) : Option Level :=
  (commandLevels.find? fun (known, _) => known == name).map fun (_, level) =>
    { level with switches := level.switches ++ commonSwitches }

/-! ## What is given -/

/-- The value of a common option: from the command, from the program, from its variable. -/
def commonValue? (environment program command : Fields String) (name : String) : Option String :=
  let spare := (commonSwitches.find? fun switch => switch.name == name).bind fun switch =>
    switch.fallback.bind (Fields.get? environment)
  (Fields.get? command name).or ((Fields.get? program name).or spare)

/-- The settings that options amount to. -/
def settings (value? : String → Option String) : Settings :=
  let start : Settings := {}
  { start with
    backend := ((value? "driver").bind (BackendKind.ofName? false)).getD start.backend
    kubeconfig := value? "kubeconfig"
    requestTimeout :=
      (((value? "request-timeout-secs").bind number?).map Duration.ofSeconds).getD
        start.requestTimeout
    templateNamespace := (value? "template-namespace").getD start.templateNamespace
    consoleUrl := value? "console-url" }

/-- The command that options and words amount to. -/
def command (name : String) (given : Fields String) (words : List String) : Command :=
  let option := Fields.get? given
  let text (name : String) := (option name).getD ""
  match name with
  | "check" => .check
  | "templates" => .templates (option "file")
  | "render" =>
    .render (text "file") (text "template") (text "name") ((option "namespace").getD "default")
      (option "disk-size")
  | "deploy" =>
    .deploy (text "vdc") (text "template") (text "name") (option "disk-size") (option "templates")
  | "status" => .status (words.headD "") (text "namespace")
  | "apply-quota" => .applyQuota (text "file")
  | _ => .definition

/-- Help on a command, if it is one. -/
def help {α : Type} : List String → Except Stop α
  | [] => .error .help
  | [name] => if programLevel.commands.contains name then .error .help else .error .usage
  | _ => .error .usage

/-- **The invocation of a command line** in an environment of variables. -/
def read (environment : Fields String) (arguments : List String) : Except Stop Invocation := do
  let program ← programLevel.read {} arguments
  match program.command with
  | none => throw .usage
  | some (name, rest) =>
    if name = helpCommand then help rest
    else
      match commandLevel? name with
      | none => throw .usage
      | some level =>
        let reading ← level.read {} rest
        let given ← reading.settle level environment
        let common ← program.settle programLevel environment
        return ⟨settings (commonValue? environment common given), command name given reading.words⟩

end CommandLine

end VmProvisioning
