/-
**Reading settings.**

The shapes of the sections of a settings file, with what counts where nothing is said.

* `Settings.parse`: the settings of a text, or why there are none.
-/

import SensorCape.Kernel.Node
import SensorCape.Settings.Section
import SensorCape.Settings.Shape
import SensorCape.Toml.Document

namespace SensorCape.Settings

/-! ### Buses -/

/-- The shape of the serial section. -/
def serialShape : Shape SerialSection where
  name := "SerialConfig"
  blank :=
    let standard := Serial.Configuration.standard
    ⟨Kernel.serialPath, standard.mode.clock, standard.wordSize, standard.speed⟩
  fields :=
    [.of "device" true readText fun device draft => { draft with device },
      .of "mode" true readByte fun mode draft => { draft with mode },
      .of "word_size" true readByte fun wordSize draft => { draft with wordSize },
      .of "speed_hz" true readWord fun speed draft => { draft with speed }]

/-- The shape of the register section. -/
def registerShape : Shape RegisterSection where
  name := "RegisterBusConfig"
  blank := ⟨Kernel.registerPath, none⟩
  fields :=
    [.of "device" true readText fun device draft => { draft with device },
      .of "extension_address" true readByte fun address draft =>
        { draft with extension := some address }]

/-! ### Modules -/

/-- The shape of the leak section. -/
def leakShape : Shape LeakSection where
  name := "LeakConfig"
  blank := ⟨3, 1⟩
  fields :=
    [.of "address" true readByte fun address draft => { draft with address },
      .of "interval_secs" true readLong fun interval draft => { draft with interval }]

/-- The shape of the outlets' section. -/
def outletsShape : Shape Outlets where
  name := "OutletConfig"
  blank := ⟨15, []⟩
  fields :=
    [.of "address" true readByte fun address draft => { draft with address },
      .of "states" true (readList readFlag) fun states draft => { draft with states }]

/-! ### Climate sensors -/

/-- A climate sensor that is being read. -/
structure ClimateDraft where
  name : Option String
  pin : Option String
  kind : String
  interval : UInt64

/-- The shape of a climate sensor. -/
def climateShape : Shape ClimateDraft where
  name := "DhtConfig"
  blank := ⟨none, none, "dht22", 10⟩
  fields :=
    [.of "name" false readText fun name draft => { draft with name := some name },
      .of "pin" false readText fun pin draft => { draft with pin := some pin },
      .of "kind" true readText fun kind draft => { draft with kind },
      .of "interval_secs" true readLong fun interval draft => { draft with interval }]

/-- The climate sensor that was read. -/
def ClimateDraft.finish (draft : ClimateDraft) : Except Mismatch Climate := do
  let name ← required "name" draft.name
  let pin ← required "pin" draft.pin
  return ⟨name, pin, draft.kind, draft.interval⟩

/-- Reads a climate sensor. -/
def readClimate (value : Toml.Value) : Except Mismatch Climate := do
  (← climateShape.read value).finish

/-! ### Register sensors -/

/-- A register sensor that is being read. -/
structure ProbeDraft where
  name : Option String
  channel : Option UInt8
  extension : Option UInt8
  address : Option UInt8
  framing : Register.Framing
  register : Option UInt8
  length : Nat
  interval : UInt64

/-- The names of the framings. -/
def framingNames : List (String × Register.Framing) :=
  [("register", .register), ("bare", .bare)]

/-- The shape of a register sensor. -/
def probeShape : Shape ProbeDraft where
  name := "RegisterSensorConfig"
  blank := ⟨none, none, none, none, .register, none, 1, 30⟩
  fields :=
    [.of "name" false readText fun name draft => { draft with name := some name },
      .of "local_channel" false readByte fun channel draft =>
        { draft with channel := some channel },
      .of "extension_channel" false readByte fun channel draft =>
        { draft with extension := some channel },
      .of "address" false readByte fun address draft => { draft with address := some address },
      .of "framing" true (readName framingNames) fun framing draft => { draft with framing },
      .of "register" false readByte fun register draft =>
        { draft with register := some register },
      .of "len" true readSize fun length draft => { draft with length },
      .of "interval_secs" true readLong fun interval draft => { draft with interval }]

/-- The register sensor that was read. -/
def ProbeDraft.finish (draft : ProbeDraft) : Except Mismatch Probe := do
  let name ← required "name" draft.name
  let channel ← required "local_channel" draft.channel
  let address ← required "address" draft.address
  let register ← required "register" draft.register
  return ⟨name, channel, draft.extension, address, draft.framing, register, draft.length,
    draft.interval⟩

/-- Reads a register sensor. -/
def readProbe (value : Toml.Value) : Except Mismatch Probe := do
  (← probeShape.read value).finish

/-! ### Files -/

/-- The shape of a settings file. -/
def fileShape : Shape Settings where
  name := "Config"
  blank := .empty
  fields :=
    [.of "serial" true serialShape.read fun serial draft => { draft with serial := some serial },
      .of "register_bus" true registerShape.read fun bus draft =>
        { draft with registerBus := some bus },
      .of "dht" true (readList readClimate) fun climate draft => { draft with climate },
      .of "leak" true leakShape.read fun leak draft => { draft with leak := some leak },
      .of "outlets" true outletsShape.read fun outlets draft =>
        { draft with outlets := some outlets },
      .of "register_sensor" true (readList readProbe) fun probes draft => { draft with probes }]

/-- Why a text holds no settings. -/
inductive ParseFault
  /-- The text is not well-formed. -/
  | malformed
  | mismatch (mismatch : Mismatch)
  deriving DecidableEq, Repr

/-- The words for why a text holds no settings, where there are some. -/
def ParseFault.message : ParseFault → Option String
  | .malformed => none
  | .mismatch it => it.message

/-- The settings of a text. -/
def parse (text : String) : Except ParseFault Settings :=
  match Toml.Document.parse text with
  | some table => (fileShape.ofTable table).mapError .mismatch
  | none => .error .malformed

end SensorCape.Settings
