import KairosDeploy.Library.FaultyProgram
import KairosDeploy.Library.HexDigest
import KairosDeploy.Library.PyObject

/-!
# The alert-state gate

`alert_state_gate.execute`: under an exclusive lease file, a run creates a
volume and a few containers, exercises them and removes them, and a cleanup
removes what is left in the books `owned` and `volume_intent`.  Docker is seen
through the commands that are issued and what they reply: a command may fail
before it is issued, or be issued without a reply, and the process may be
interrupted or killed at any statement.
-/

namespace KairosDeploy.Alerts.StateGate

open KairosDeploy.Library.FaultyProgram
open KairosDeploy.Library.FaultyProgram.Program
open KairosDeploy.Library.HexDigest
open KairosDeploy.Library.JsonText
open KairosDeploy.Library.JsonValue
open KairosDeploy.Library.PyObject

/-! ## Commands -/

/-- The Docker commands. -/
inductive Command where
  | imageInspect (image : String)
  | inspect (name : String)
  | create (name image : String) (options arguments : List String)
  | start (id : String)
  | startAttached (name : String)
  | exec (container : String) (arguments : List String)
  | kill (id : String)
  | remove (id : String)
  /-- `ps --all --quiet --no-trunc --filter id=…`. -/
  | list (id : String)
  /-- `volume ls --quiet --filter name=^…$`. -/
  | volumeList
  | volumeCreate (labels : List String)
  | volumeInspect
  | volumeRemove
deriving DecidableEq, Repr

/-- A command that was issued, and its output if it came back. -/
structure Entry where
  command : Command
  reply : Option String
deriving DecidableEq, Repr

/-! ## Books -/

/-- A mount that a container must have. -/
structure ExpectedMount where
  isVolume : Bool
  destination : String
  writable : Bool
  sources : List String
deriving DecidableEq, Repr

/-- An entry of `expected`. -/
structure Expected where
  user : String
  network : String
  entrypoint : List String
  command : List String
  mounts : List ExpectedMount
  caps : List String
  tmpfs : List (String × String)
deriving DecidableEq, Repr

/-- `self.owned`, `self.expected` and `self.volume_intent`. -/
structure Books where
  owned : List (String × String)
  expected : List (String × Expected)
  volumeIntent : Bool
deriving DecidableEq, Repr

/-- `d[key] = value`. -/
def assign {Value : Type} (entries : List (String × Value)) (key : String)
    (value : Value) : List (String × Value) :=
  (key, value) :: entries.filter fun entry => entry.1 ≠ key

/-- `del d[key]`. -/
def delete {Value : Type} (entries : List (String × Value)) (key : String) :
    List (String × Value) :=
  entries.filter fun entry => entry.1 ≠ key

namespace Books

/-- `self.owned[name] = image_id`. -/
def own (books : Books) (name image : String) : Books :=
  { books with owned := assign books.owned name image }

/-- `self.expected[name] = …`. -/
def expect (books : Books) (name : String) (expected : Expected) : Books :=
  { books with expected := assign books.expected name expected }

/-- `del self.owned[name]`. -/
def disown (books : Books) (name : String) : Books :=
  { books with owned := delete books.owned name }

/-- `del self.expected[name]`. -/
def unexpect (books : Books) (name : String) : Books :=
  { books with expected := delete books.expected name }

/-- The names in `self.owned`. -/
def names (books : Books) : List String :=
  books.owned.map Prod.fst

end Books

/-! ## The state -/

/-- The lease file. -/
structure LeaseFile where
  /-- Whether this run created it. -/
  own : Bool
  text : String
deriving DecidableEq, Repr

/--
The lease file, the commands issued, the books, and all values that were ever
assigned in the two dictionaries.  The clock counts steps.
-/
structure State where
  clock : Nat
  lease : Option LeaseFile
  log : List Entry
  books : Books
  images : List (String × String)
  expectations : List (String × Expected)
deriving DecidableEq

namespace State

/-- Before `execute`. -/
def initial (lease : Option LeaseFile) : State where
  clock := 0
  lease := lease
  log := []
  books := ⟨[], [], false⟩
  images := []
  expectations := []

def tick (state : State) : State :=
  { state with clock := state.clock + 1 }

/-- A command is issued. -/
def issue (state : State) (command : Command) (reply : Option String) :
    State :=
  { state with log := state.log ++ [⟨command, reply⟩] }

/-- `self.owned[name] = image_id`. -/
def own (name image : String) (state : State) : State :=
  { state with
    books := state.books.own name image
    images := (name, image) :: state.images }

/-- `self.expected[name] = …`. -/
def expect (name : String) (expected : Expected) (state : State) : State :=
  { state with
    books := state.books.expect name expected
    expectations := (name, expected) :: state.expectations }

/-- A change of the books alone. -/
def rebook (change : Books → Books) (state : State) : State :=
  { state with books := change state.books }

/-- `self.volume_intent = True`. -/
def intend (state : State) : State :=
  state.rebook fun books => { books with volumeIntent := true }

/-- `path.open("xb")` creates the lease and writes its first characters. -/
def createLease (text : String) (extent : Extent) (state : State) : State :=
  match extent with
  | .nothing => state
  | .part count =>
      { state with
        lease := some ⟨true, String.ofList (text.toList.take count)⟩ }
  | .whole => { state with lease := some ⟨true, text⟩ }

/-- `lease.unlink()`. -/
def unlinkLease (state : State) : State :=
  { state with lease := none }

end State

/-! ## The environment -/

/-- An exception. -/
inductive Failure where
  /-- `StateGateError`. -/
  | gate (category : String)
  | other (name : String)
deriving DecidableEq, Repr

/-- What the outside makes of one step: its fate, the output of a command, and
whether a check of files passes. -/
structure Answer where
  fate : Fate Failure
  text : String
  passes : Bool

/-- What a run is given. -/
structure Setting where
  owner : String
  /-- `run-<owner>` of the proof root. -/
  directory : String
  /-- `alert_state_fixture.py`. -/
  fixture : String
  /-- `alert_state.DURABLE_COMMAND`. -/
  durableCommand : List String
  /-- The digest of `CONFIG`. -/
  policyHash : String
  windows : Bool
  builtins : Builtins
  reader : Reader

/-- What the outside does, step by step. -/
structure Environment where
  answer : Nat → Answer

/-- A statement of the gate. -/
abbrev Gate (Value : Type) : Type := Program State Failure Value

section

variable (environment : Environment)

/-- A step that may fail, with an effect of its own. -/
def external (effect : Extent → State → State) : Gate Unit :=
  perform (fun state => (environment.answer state.clock).fate)
    fun extent state => (effect extent state).tick

/-- A point at which the run may fail or be interrupted. -/
def pause : Gate Unit :=
  external environment fun _ state => state

/-- A check of files. -/
def check (category : String) : Gate Unit := do
  let passes ← observe fun state => (environment.answer state.clock).passes
  pause environment
  if passes then return () else raise (.gate category)

/-- `Native.command`: the output of a command that was issued, succeeded and
whose process tree is proven to have ended. -/
def command (issued : Command) : Gate String :=
  fun state =>
    let answer := environment.answer state.clock
    match answer.fate with
    | .works =>
        (.returned answer.text, (state.issue issued (some answer.text)).tick)
    | .raises .nothing error => (.raised error, state.tick)
    | .raises _ error => (.raised error, (state.issue issued none).tick)
    | .killed .nothing => (.killed, state.tick)
    | .killed _ => (.killed, (state.issue issued none).tick)

end

/-! ## Verifying a container -/

/-- `value[key]`. -/
def subscript (value : Json) (key : String) : Option Json :=
  match value with
  | .object members => getMember members key
  | _ => none

/-- `a or b or …`, where an operand may raise. -/
def anyOf : List (Option Bool) → Option Bool
  | [] => some false
  | none :: _ => none
  | some true :: _ => some true
  | some false :: rest => anyOf rest

/-- The memory limit. -/
def memoryLimit : Int := 134217728

/-- `LABEL`. -/
def scopeLabel : String := "com.kairos.synthetic.scope"

/-- `OWNER`. -/
def ownerLabel : String := "com.kairos.synthetic.owner"

/-- `SCOPE`. -/
def gateScope : String := "synthetic-alert-state-20261003"

/-- A list of texts. -/
def textList (texts : List String) : Json :=
  .array (texts.map Json.text)

section

variable (setting : Setting)

/-- `self.volume`. -/
def volumeName : String :=
  "kairos-ops-alerts-state-" ++ String.ofList (setting.owner.toList.take 16)

/-- The operands of the first test of `verify`: whether one is wrong. -/
def wrongIdentity (name image : String) (value : Json) : Option Bool :=
  anyOf
    [(subscript value "Name").map fun found => !isText ("/" ++ name) found,
      (subscript value "Labels").bind fun labels =>
        (getKey labels scopeLabel).map fun found => !isText gateScope found,
      (subscript value "Labels").bind fun labels =>
        (getKey labels ownerLabel).map fun found =>
          !isText setting.owner found,
      (subscript value "Image").map fun found => !isText image found,
      (subscript value "Id").bind fun found =>
        match found with
        | .text id => some (!isHex 64 id)
        | _ => none]

/-- `host.get(key) != expected`. -/
def differs (host : Json) (key : String) (expected : Json) : Option Bool :=
  (getKey host key).map fun found => !found.pyEq expected

/-- `host.get(key)`, as a condition. -/
def present (host : Json) (key : String) : Option Bool :=
  (getKey host key).map truthy

/-- The operands of the second test of `verify`. -/
def wrongBoundary (expected : Expected) (value : Json) : Option Bool := do
  let host ← subscript value "Host"
  anyOf
    [differs host "Memory" (.int memoryLimit),
      (getKey host "MemorySwap").map fun found =>
        match found with
        | .int limit => limit ≠ memoryLimit
        | _ => true,
      differs host "NanoCpus" (.int 250000000),
      differs host "PidsLimit" (.int 64),
      (getKey host "Privileged").map fun found => !found.isFalse,
      (getKey host "ReadonlyRootfs").map fun found => !found.isTrue,
      present host "PortBindings", present host "PublishAllPorts",
      present host "PidMode",
      (getKey host "IpcMode").map fun found =>
        !(isText "private" found || isText "" found),
      present host "Devices", present host "DeviceRequests",
      present host "VolumesFrom", present host "UsernsMode",
      differs host "CapDrop" (textList ["ALL"]),
      (getKey host "CapAdd").map fun found =>
        !(orList found).pyEq (textList expected.caps),
      differs host "NetworkMode" (.text expected.network),
      differs host "SecurityOpt" (textList ["no-new-privileges:true"]),
      (getKey host "Tmpfs").map fun found =>
        !(orDict found).pyEq
            (.object
              (dict (expected.tmpfs.map fun entry =>
                (entry.1, .text entry.2)))),
      (getOr host "RestartPolicy" (.object [])).bind fun policy =>
        differs policy "Name" (.text "no"),
      differs value "User" (.text expected.user),
      differs value "Command" (textList expected.command),
      differs value "Entrypoint" (textList expected.entrypoint)]

/-- The test of the networks: no key, or `none` alone where it is allowed. -/
def wrongNetworks (expected : Expected) (value : Json) : Option Bool :=
  (getKey value "Networks").map fun networks =>
    match networks with
    | .object members =>
        !(members.isEmpty ||
          (expected.network = "none" &&
            members.all fun member => member.1 = "none"))
    | _ => true

/-- The test of one mount. -/
def wrongMount (mounts : List Json) (wanted : ExpectedMount) :
    Option Bool := do
  let destinations ← mounts.mapM fun mount => getKey mount "Destination"
  let matching :=
    ((mounts.zip destinations).filter fun entry =>
      isText wanted.destination entry.2).map Prod.fst
  match matching with
  | [mount] =>
      anyOf
        [(getKey mount "Type").map fun found =>
            !isText (if wanted.isVolume then "volume" else "bind") found,
          (getKey mount "RW").map fun found =>
            !(if wanted.writable then found.isTrue else found.isFalse),
          if wanted.isVolume then
            (getKey mount "Name").map fun found =>
              !isText (volumeName setting) found
          else
            (getOr mount "Source" (.text "")).map fun source =>
              !wanted.sources.contains
                (setting.builtins.lower
                  (slashes (setting.builtins.str source)))]
  | _ => some true

/-- The tests of the mounts. -/
def wrongMounts (expected : Expected) (value : Json) : Option Bool := do
  let found ← getKey value "Mounts"
  match found with
  | .array mounts =>
      if mounts.length ≠ expected.mounts.length then
        some true
      else
        anyOf (expected.mounts.map (wrongMount setting mounts))
  | _ => some true

/-- All tests of `verify` pass. -/
structure VerifiedView (name image : String) (expected : Expected)
    (value : Json) : Prop where
  identity : wrongIdentity setting name image value = some false
  boundary : wrongBoundary expected value = some false
  networks : wrongNetworks expected value = some false
  mounts : wrongMounts setting expected value = some false

/-! ## The volume -/

/-- `VOLUME_PATTERN.fullmatch`. -/
def isVolumeName (text : String) : Bool :=
  "kairos-ops-alerts-state-".toList.isPrefixOf text.toList &&
    isHex 16 (String.ofList (text.toList.drop 24))

/-- `validate_state_metadata`: its error, if any. -/
def stateMetadataError (value : Json) : Option String :=
  if !(isVolumeName (volumeName setting) && isHex 64 setting.policyHash) then
    some "INVALID_STATE_BINDING"
  else
    match value with
    | .object members =>
        if keySet members ≠
            {"Name", "Driver", "Scope", "Options", "Labels"} then
          some "INVALID_STATE_METADATA"
        else if
          !(isText (volumeName setting) (get members "Name") &&
              isText "local" (get members "Driver") &&
              isText "local" (get members "Scope") &&
              ((get members "Options").pyEq .null ||
                (get members "Options").pyEq (.object []))) then
          some "STATE_DRIVER_OR_IDENTITY_CHANGED"
        else
          match get members "Labels" with
          | .object labels =>
              if keySet labels =
                    {"com.kairos.scope", "com.kairos.alert-policy-sha256"} ∧
                  isText "alertmanager-durable-state-v1"
                      (get labels "com.kairos.scope") =
                    true ∧
                  isText setting.policyHash
                      (get labels "com.kairos.alert-policy-sha256") =
                    true then
                none
              else
                some "STATE_OWNERSHIP_OR_POLICY_CHANGED"
          | _ => some "STATE_OWNERSHIP_OR_POLICY_CHANGED"
    | _ => some "INVALID_STATE_METADATA"

variable (environment : Environment)

/-- `json.loads`. -/
def parseReply (text : String) : Gate Json :=
  match loads setting.reader text with
  | some value => return value
  | none => raise (.other "JSONDecodeError")

/-- Raise where a test is wrong or raises itself. -/
def refuseWrong (wrong : Option Bool) (category : String) : Gate Unit :=
  match wrong with
  | some false => return ()
  | some true => raise (.gate category)
  | none => raise (.other "TypeError")

/-- An entry of a dictionary, or `KeyError`. -/
def entryOf {Value : Type} (found : Option Value) : Gate Value :=
  match found with
  | some value => return value
  | none => raise (.other "KeyError")

/-- `Native.inspect`. -/
def inspect (name : String) : Gate Json := do
  let text ← command environment (.inspect name)
  let value ← parseReply setting text
  match value with
  | .object _ => return value
  | _ => raise (.gate "STRUCTURED_CONTAINER_REQUIRED")

/-- `Native.verify`. -/
def verify (name : String) : Gate Json := do
  let value ← inspect setting environment name
  let books ← observe State.books
  let image ← entryOf (books.owned.lookup name)
  refuseWrong (wrongIdentity setting name image value)
    "OWNED_CONTAINER_IDENTITY_CHANGED"
  let expected ← entryOf (books.expected.lookup name)
  refuseWrong (wrongBoundary expected value) "CONTAINER_BOUNDARY_CHANGED"
  refuseWrong (wrongNetworks expected value)
    "EXACT_LOOPBACK_NETWORK_ATTACHMENTS_REQUIRED"
  refuseWrong (wrongMounts setting expected value)
    "EXACT_FIXTURE_MOUNTS_REQUIRED"
  return value

/-- `value["Id"]`, a text after `verify`. -/
def idOf (value : Json) : Gate String :=
  match subscript value "Id" with
  | some (.text id) => return id
  | _ => raise (.other "TypeError")

/-- `Native.verify_volume`. -/
def verifyVolume : Gate Unit := do
  let text ← command environment .volumeInspect
  let value ← parseReply setting text
  match stateMetadataError setting value with
  | none => return ()
  | some _ => raise (.gate "VOLUME_OWNERSHIP_CHANGED")

/-! ## Containers -/

/-- `ALERTMANAGER_IMAGE`. -/
def alertmanagerImage : String :=
  "prom/alertmanager:v0.34.1@sha256:e9733bafb1bdef9b00e25a21f8f99dc26a22224" ++
    "bf16641ad754d1649f4c3357a"

/-- `RUNNER`. -/
def runner : String :=
  "ghcr.io/kairos-cryptoai/kairos-runtime-schema-profile-runner@sha256:2e10" ++
    "e9e936eae3a4a411f65d8b0bd14670ba808368eeff94b4e24021aa291077"

/-- `sha256:[a-f0-9]{64}`. -/
def isImageId (text : String) : Bool :=
  "sha256:".toList.isPrefixOf text.toList &&
    isHex 64 (String.ofList (text.toList.drop 7))

/-- The name of the container with a role. -/
def containerName (role : String) : String :=
  "kairos-alert-state-" ++ String.ofList (setting.owner.toList.take 12) ++
    "-" ++ role

/-- `Native.register`; the run may be interrupted between any two
statements. -/
def register (role image : String) (expected : Expected) : Gate String := do
  let name := containerName setting role
  let imageId ← command environment (.imageInspect image)
  refuseWhen (fun _ => !isImageId imageId)
    (.gate "LOCAL_IMMUTABLE_IMAGE_REQUIRED")
  update (State.own name imageId)
  pause environment
  update (State.expect name expected)
  -- save_new of <role>.creation-intent.json
  pause environment
  return name

/-- `bind`, once its checks of the path have passed. -/
def bindMount (path destination : String) : Gate ExpectedMount := do
  check environment "FIXED_REVIEWED_BIND_REQUIRED"
  let source :=
    setting.builtins.lower (slashes path)
  let mounted :=
    "/run/desktop/mnt/host/d/" ++ String.ofList (source.toList.drop 3)
  return ⟨false, destination, false, [source, mounted]⟩

/-- `volume`. -/
def stateVolume : ExpectedMount :=
  ⟨true, "/alertmanager", true, []⟩

/-- The options that all `create` commands share. -/
def sharedOptions (name : String) : List String :=
  ["--pull=never", "--name", name, "--label",
    scopeLabel ++ "=" ++ gateScope, "--label",
    ownerLabel ++ "=" ++ setting.owner]

/-- The limits that all `create` commands share. -/
def limits : List String :=
  ["--read-only", "--memory", "128m", "--memory-swap", "128m", "--cpus",
    "0.25", "--pids-limit", "64", "--cap-drop", "ALL"]

/-- The temporary file system of a container without the volume's
initialisation. -/
def tmpfsOption : String := "/tmp:rw,noexec,nosuid,nodev,size=16m"

/-- `--mount` of the state volume. -/
def volumeOption : String :=
  "type=volume,source=" ++ volumeName setting ++
    ",target=/alertmanager,volume-nocopy"

/-- `Native.remove`. -/
def remove (name : String) : Gate Unit := do
  let value ← verify setting environment name
  let id ← idOf value
  let _ ← command environment (.remove id)
  let observed ← command environment (.list id)
  refuseWhen (fun _ => observed ≠ "")
    (.gate "OWNED_CONTAINER_REMOVAL_UNPROVEN")
  update (State.rebook fun books => books.disown name)
  pause environment
  update (State.rebook fun books => books.unexpect name)

/-- The mounts of an Alertmanager: two, one of them the volume. -/
def hasStateMount (value : Json) : Bool :=
  match subscript value "Mounts" with
  | some (.array mounts) =>
      mounts.length = 2 &&
        (mounts.filter fun mount =>
            (getKey mount "Name").any (isText (volumeName setting)) &&
              (getKey mount "Destination").any (isText "/alertmanager") &&
                (getKey mount "RW").any Json.isTrue).length =
          1
  | _ => false

/-- `value["Host"].get("NetworkMode")` is this text. -/
def hasNetworkMode (network : String) (value : Json) : Bool :=
  ((subscript value "Host").bind fun host => getKey host "NetworkMode").any
    (isText network)

/-- `Native.create_am`. -/
def createAm (role receiverId : String) : Gate String := do
  let config ←
    bindMount setting environment (setting.directory ++ "/alertmanager.yml")
      "/fixture/alertmanager.yml"
  let arguments :=
    "--config.file=/fixture/alertmanager.yml" ::
      setting.durableCommand.drop 1
  let name ←
    register setting environment role alertmanagerImage
      { user := "65534:65534"
        network := "container:" ++ receiverId
        entrypoint := ["/bin/alertmanager"]
        command := arguments
        mounts := [config, stateVolume]
        caps := []
        tmpfs := [("/tmp", "rw,noexec,nosuid,nodev,size=16m")] }
  let _ ←
    command environment
      (.create name alertmanagerImage
        (sharedOptions setting name ++
          ["--network", "container:" ++ receiverId] ++ limits ++
          ["--security-opt", "no-new-privileges:true", "--tmpfs",
            tmpfsOption, "--user", "65534:65534", "--mount",
            "type=bind,source=" ++ setting.directory ++
              "/alertmanager.yml,target=/fixture/alertmanager.yml,readonly",
            "--mount", volumeOption setting, "--entrypoint",
            "/bin/alertmanager"])
        arguments)
  let view ← verify setting environment name
  refuseWhen (fun _ => !hasNetworkMode ("container:" ++ receiverId) view)
    (.gate "LOOPBACK_RECEIVER_NAMESPACE_REQUIRED")
  refuseWhen (fun _ => !hasStateMount setting view)
    (.gate "EXACT_STATE_VOLUME_REQUIRED")
  let id ← idOf view
  let _ ← command environment (.start id)
  return name

/-! ## The run -/

/-- `value["State"].get(key)`. -/
def stateOf (value : Json) (key : String) : Option Json :=
  (subscript value "State").bind fun state => getKey state key

/-- The volume is new, created and verified. -/
def createVolume : Gate Unit := do
  let listed ← command environment .volumeList
  refuseWhen (fun _ => listed ≠ "") (.gate "NEW_STATE_VOLUME_REQUIRED")
  -- save_new of volume.creation-intent.json
  pause environment
  update State.intend
  let _ ←
    command environment
      (.volumeCreate
        ["com.kairos.scope=alertmanager-durable-state-v1",
          "com.kairos.alert-policy-sha256=" ++ setting.policyHash])
  verifyVolume setting environment

/-- The command that initialises the volume. -/
def initCommand : List String :=
  ["-c",
    "test -z \"$(ls -A /alertmanager)\" && chmod 0700 /alertmanager && " ++
      "chown 65534:65534 /alertmanager"]

/-- The one container that initialises the volume. -/
def initialiseVolume : Gate Unit := do
  let name ←
    register setting environment "init" alertmanagerImage
      { user := "0:0"
        network := "none"
        entrypoint := ["/bin/sh"]
        command := initCommand
        mounts := [stateVolume]
        caps := ["CAP_CHOWN"]
        tmpfs := [] }
  let _ ←
    command environment
      (.create name alertmanagerImage
        (sharedOptions setting name ++
          ["--network", "none", "--user", "0:0"] ++ limits ++
          ["--cap-add", "CHOWN", "--security-opt",
            "no-new-privileges:true", "--mount", volumeOption setting,
            "--entrypoint", "/bin/sh"])
        initCommand)
  let _ ← verify setting environment name
  let _ ← command environment (.startAttached name)
  let view ← verify setting environment name
  refuseWhen
    (fun _ => !(stateOf view "ExitCode").any fun code => code.pyEq (.int 0))
    (.gate "NEW_VOLUME_INIT_FAILED")
  remove setting environment name

/-- The receiver of the synthetic alerts: its id. -/
def startReceiver : Gate String := do
  let fixture ← bindMount setting environment setting.fixture "/fixture.py"
  let name ←
    register setting environment "receiver" runner
      { user := "10001:10001"
        network := "none"
        entrypoint := ["python"]
        command := ["/fixture.py", "receiver"]
        mounts := [fixture]
        caps := []
        tmpfs := [("/tmp", "rw,noexec,nosuid,nodev,size=16m")] }
  let _ ←
    command environment
      (.create name runner
        (sharedOptions setting name ++
          ["--network", "none", "--user", "10001:10001"] ++ limits ++
          ["--security-opt", "no-new-privileges:true", "--tmpfs",
            tmpfsOption, "--mount",
            "type=bind,source=" ++ setting.fixture ++
              ",target=/fixture.py,readonly",
            "--entrypoint", "python"])
        ["/fixture.py", "receiver"])
  let view ← verify setting environment name
  refuseWhen (fun _ => !hasNetworkMode "none" view)
    (.gate "NETWORK_NONE_RECEIVER_REQUIRED")
  let receiver ← idOf view
  let _ ← command environment (.start receiver)
  return receiver

/-- The stages of one round: the values that the driver prints. -/
def driveStages (receiver : String) : List String → Gate (List Json)
  | [] => return []
  | stage :: rest => do
      let text ←
        command environment
          (.exec receiver ["python", "/fixture.py", "driver", stage])
      let value ← parseReply setting text
      refuseWhen
        (fun _ =>
          !((getKey value "stage").any (isText stage) &&
            (getKey value "synthetic_only").any Json.isTrue))
        (.gate "NATIVE_STAGE_NOT_ACCEPTED")
      let later ← driveStages receiver rest
      return value :: later

/-- The digest of the notification log, before the container is killed. -/
def crash (name : String) : Gate String := do
  let digest ←
    command environment
      (.exec name ["/bin/sh", "-c", "sha256sum /alertmanager/nflog"])
  let hash := String.ofList (digest.toList.take 64)
  refuseWhen
    (fun _ =>
      !(isHex 64 hash && digest = hash ++ "  /alertmanager/nflog"))
    (.gate "NOTIFICATION_LOG_CHECKPOINT_REQUIRED")
  let view ← verify setting environment name
  let id ← idOf view
  let _ ← command environment (.kill id)
  let stopped ← verify setting environment name
  refuseWhen
    (fun _ =>
      !((stateOf stopped "Running").any Json.isFalse &&
        (stateOf stopped "ExitCode").any fun code => code.pyEq (.int 137)))
    (.gate "ACTUAL_ABRUPT_CRASH_NOT_OBSERVED")
  return hash

/-- One round: the values of its stages and its checkpoint, if it has one. -/
def round (receiver role : String) (stages : List String)
    (crashes : Bool) : Gate (List Json × Option String) := do
  let name ← createAm setting environment role receiver
  let values ← driveStages setting environment receiver stages
  let checkpoint ←
    if crashes then do
      let hash ← crash setting environment name
      pure (some hash)
    else
      pure none
  remove setting environment name
  return (values, checkpoint)

/-- `Native.run`: the values of the stages. -/
def run : Gate (List Json) := do
  createVolume setting environment
  initialiseVolume setting environment
  let receiver ← startReceiver setting environment
  let first ← round setting environment receiver "am0" ["firing"] true
  let second ←
    round setting environment receiver "am1"
      ["restart-no-duplicate", "resolved"] true
  let third ←
    round setting environment receiver "am2" ["resolved-no-duplicate"] false
  refuseWhen (fun _ => first.2 = second.2)
    (.gate "RESOLVED_CHECKPOINT_DID_NOT_CHANGE")
  return first.1 ++ second.1 ++ third.1

/-! ## Cleanup and the whole -/

/-- `for name in list(self.owned): self.remove(name)`. -/
def removeAll : List String → Gate Unit
  | [] => return ()
  | name :: rest => do
      remove setting environment name
      removeAll rest

/-- `Native.cleanup`. -/
def cleanup : Gate Unit := do
  let books ← observe State.books
  removeAll setting environment books.names
  if books.volumeIntent then do
    verifyVolume setting environment
    let _ ← command environment .volumeRemove
    let listed ← command environment .volumeList
    refuseWhen (fun _ => listed ≠ "") (.gate "VOLUME_REMOVAL_UNPROVEN")

/-- What `execute` returns. -/
structure Report where
  result : String
  cleanupVerified : Bool
deriving DecidableEq, Repr

/-- The text of the lease. -/
def leaseText : String :=
  "\x7b\"owner\":\"" ++ setting.owner ++ "\"\x7d\n"

/-- `save_new(lease, …)`: the exclusive creation. -/
def createLease : Gate Unit := do
  refuseWhen (fun state => state.lease.isSome) (.other "FileExistsError")
  external environment (State.createLease (leaseText setting))

/-- The run and the comparison of the sources. -/
def attempted : Gate Unit := do
  let _ ← run setting environment
  check environment "SOURCE_CHANGED_DURING_NATIVE_PROOF"

/-- The run directory, its files and the constructor of `Native`; a failure
here leaves nothing to clean up. -/
def prepare : Gate Unit :=
  pause environment

/-- The failure of the `try` block, and whether the cleanup returned. -/
def attemptAndClean : Gate (Option Failure × Bool) := do
  match ← caught (prepare environment) with
  | some failure => return (some failure, false)
  | none => do
      let failure ← caught (attempted setting environment)
      let uncleaned ← caught (cleanup setting environment)
      return (failure, uncleaned.isNone)

/-- Whether the lease is to be removed: it still names the owner. -/
def releases (cleaned : Bool) : Gate Bool := do
  if cleaned then do
    pause environment
    match ← observe State.lease with
    | none => raise (.other "FileNotFoundError")
    | some lease => do
        let value ← parseReply setting lease.text
        return value.pyEq (.object [("owner", .text setting.owner)])
  else
    return false

/-- `result["result"]`. -/
def resultText (failure : Option Failure) (cleaned : Bool) : String :=
  if failure.isNone && cleaned then
    "PASS_NATIVE_SYNTHETIC_CHECKPOINTED_RESTART_ONLY"
  else
    "FAILED_NATIVE_SYNTHETIC_NO_DELIVERY_AUTHORITY"

/-- `execute` up to the removal of the lease, and whether it is removed. -/
def conclude : Gate (Report × Bool) := do
  refuseWhen (fun _ => !setting.windows)
    (.gate "REVIEWED_WINDOWS_PROCESS_JOB_REQUIRED")
  check environment "EXACT_INVOCATION_UUID4_REQUIRED"
  createLease setting environment
  let (failure, cleaned) ← attemptAndClean setting environment
  -- save_new of receipt.json
  pause environment
  let released ← releases setting environment cleaned
  return (⟨resultText failure cleaned, cleaned⟩, released)

/-- `execute`: nothing is between `lease.unlink()` and the return. -/
def execute : Gate Report := do
  let (report, released) ← conclude setting environment
  if released then
    update State.unlinkLease
  else
    pure ()
  return report

end

end KairosDeploy.Alerts.StateGate
