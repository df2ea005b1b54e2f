/-
**Serial configurations and profiles.**

The serial device holds one configuration: a mode word, a word size and a clock speed, each written
by itself. The bus knows two profiles: the primary one, chosen when the bus is brought up, and the
secondary one for module traffic, which is always mode 3 with 8-bit words at the primary's speed.

* `Configuration.apply_settings`: writing all settings of a configuration makes the device hold it.
* `Configuration.holds_iff`: a setting that the device holds changes nothing when written.
-/

namespace SensorCape.Serial

/-! ### Modes -/

/-- The mode word: two bits of clock mode below six further flags. -/
structure Mode where
  flags : UInt8
  deriving DecidableEq, Repr

/-- The mode with a clock mode number and no further flag; higher bits of the number are ignored. -/
def Mode.ofClock (number : UInt8) : Mode := ⟨number &&& 3⟩

/-- The clock mode number. -/
def Mode.clock (mode : Mode) : UInt8 := mode.flags &&& 3

/-! ### Configurations -/

/-- A configuration of the serial device. -/
structure Configuration where
  mode : Mode
  wordSize : UInt8
  speed : UInt32
  deriving DecidableEq, Repr

/-- One field of a configuration, as it is written to the device. -/
inductive Setting
  | mode (mode : Mode)
  | wordSize (bits : UInt8)
  | speed (hertz : UInt32)
  deriving DecidableEq, Repr

namespace Configuration

/-- The configuration of a bus whose settings file says nothing: mode 3, 8 bits, 1 MHz. -/
def standard : Configuration := ⟨Mode.ofClock 3, 8, 1000000⟩

/-- The secondary configuration that belongs to a primary one. -/
def secondary (primary : Configuration) : Configuration := ⟨Mode.ofClock 3, 8, primary.speed⟩

/-- The settings of a configuration in the order in which they are written. -/
def settings (configuration : Configuration) : List Setting :=
  [.mode configuration.mode, .wordSize configuration.wordSize, .speed configuration.speed]

/-- The configuration after a setting is written. -/
def apply (configuration : Configuration) : Setting → Configuration
  | .mode mode => { configuration with mode }
  | .wordSize bits => { configuration with wordSize := bits }
  | .speed hertz => { configuration with speed := hertz }

/-- Whether a configuration has a setting already. -/
def holds (configuration : Configuration) : Setting → Bool
  | .mode mode => configuration.mode == mode
  | .wordSize bits => configuration.wordSize == bits
  | .speed hertz => configuration.speed == hertz

/-- A configuration as text: mode word, word size and speed. -/
def text (configuration : Configuration) : String :=
  s!"{configuration.mode.flags}/{configuration.wordSize}/{configuration.speed}"

/-- **Writing all settings of a configuration makes the device hold it.** -/
theorem apply_settings (held target : Configuration) :
    target.settings.foldl apply held = target := rfl

/-- A setting is held exactly if writing it changes nothing. -/
theorem holds_iff (configuration : Configuration) (setting : Setting) :
    configuration.holds setting = true ↔ configuration.apply setting = configuration := by
  cases setting <;> simp only [holds, apply, beq_iff_eq]
  · exact ⟨fun same => same ▸ rfl, fun same => (congrArg mode same).symm⟩
  · exact ⟨fun same => same ▸ rfl, fun same => (congrArg wordSize same).symm⟩
  · exact ⟨fun same => same ▸ rfl, fun same => (congrArg speed same).symm⟩

end Configuration

/-! ### Profiles -/

/-- Which of its two configurations the bus works under. -/
inductive Profile
  | primary
  | secondary
  deriving DecidableEq, Repr

/-- The name of a profile in log lines. -/
def Profile.name : Profile → String
  | .primary => "Primary"
  | .secondary => "Secondary"

end SensorCape.Serial
