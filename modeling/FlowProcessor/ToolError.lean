/-
  FlowProcessor.ToolError — WHY A TOOL FAILS.

  An input error is found before any device is touched.  Every other error names what was being
  done and carries the platform's own error or the failure of a file.  The diagnostic is one
  sentence, `ToolError.message`.
-/
import FlowProcessor.Status

namespace FlowProcessor

/-! ## §1. Files. -/

/-- Why a file cannot be read or written. -/
inductive FileError
  | missing
  | isDirectory
  | notDirectory
  | notText
  | nameTooLong
  | nulByte
  /-- The other end of an output is closed. -/
  | closed
  /-- A reason in the words of the system. -/
  | other (text : String)
  deriving DecidableEq, Repr

/-- The wording of a file error. -/
def FileError.message : FileError → String
  | .missing => "No such file or directory (os error 2)"
  | .isDirectory => "Is a directory (os error 21)"
  | .notDirectory => "Not a directory (os error 20)"
  | .notText => "stream did not contain valid UTF-8"
  | .nameTooLong => "File name too long (os error 36)"
  | .nulByte => "file name contained an unexpected NUL byte"
  | .closed => "output closed"
  | .other text => text

/-- Why a state file cannot be used. -/
inductive StateError
  | unreadable (path : String) (error : FileError)
  | unwritable (path : String) (error : FileError)
  /-- The text does not describe a platform. -/
  | malformed (path : String)
  /-- The text describes a platform of too many devices. -/
  | tooManyDevices (path : String) (count : Nat)
  deriving DecidableEq, Repr

/-- The wording of a state error. -/
def StateError.message : StateError → String
  | .unreadable path error => "failed to read platform state " ++ path ++ ": " ++ error.message
  | .unwritable path error => "failed to write platform state " ++ path ++ ": " ++ error.message
  | .malformed path => "malformed platform state " ++ path ++ ": no platform is described"
  | .tooManyDevices path count =>
      "invalid platform state " ++ path ++ ": " ++ count.repr ++ " devices listed, at most "
        ++ deviceCount.repr ++ " supported"

/-- Why a settings file cannot be used. -/
inductive SettingsError
  | unreadable (error : FileError)
  /-- The text is no settings file. -/
  | malformed
  deriving DecidableEq, Repr

/-- The wording of a settings error. -/
def SettingsError.message : SettingsError → String
  | .unreadable error => error.message
  | .malformed => "TOML parse error"

/-! ## §2. Tool errors. -/

/-- A command line that asks for nothing that can be done. -/
inductive UsageFault
  | noActions
  | noInterfaces
  /-- A fault in a caller's own words. -/
  | noted (text : String)
  deriving DecidableEq, Repr

/-- The wording of a usage fault. -/
def UsageFault.message : UsageFault → String
  | .noActions => "No actions specified"
  | .noInterfaces => "No interfaces specified. Please use -b or -i."
  | .noted text => text

/-- Why a tool fails. -/
inductive ToolError
  /-- A malformed argument or a number that is too large. -/
  | input (error : InputError)
  /-- A call to the load-balance service failed. -/
  | device (action : String) (device : DeviceId) (error : PlatformError)
  /-- A step of a forwarding run failed. -/
  | forwarding (stage : String) (error : PlatformError)
  /-- The forwarding service could not be opened. -/
  | unavailable (error : PlatformError)
  /-- A rule could not be read. -/
  | ruleRead (device : DeviceId) (error : PlatformError)
  /-- The rule table could not be opened. -/
  | rulesSetup (device : DeviceId) (action : String) (error : PlatformError)
  | usage (fault : UsageFault)
  | settings (path : String) (error : SettingsError)
  | state (error : StateError)
  /-- The output could not be written. -/
  | output (error : FileError)
  deriving DecidableEq, Repr

namespace ToolError

/-- Whether the error was found before any device was touched. -/
def isInput : ToolError → Bool
  | .input _ | .usage _ => true
  | _ => false

/-- The platform's own error behind a failure. -/
def platformError? : ToolError → Option PlatformError
  | .device _ _ error | .forwarding _ error | .unavailable error | .ruleRead _ error
  | .rulesSetup _ _ error => some error
  | _ => none

/-- The diagnostic. -/
def message : ToolError → String
  | .input error => "Invalid" ++ error.complaint
  | .device action d error =>
      "Error " ++ action ++ " on NFE " ++ idText d ++ ": " ++ error.message
  | .forwarding stage error =>
      "Error " ++ error.wordText ++ " during " ++ stage ++ ": " ++ error.message
  | .unavailable error =>
      "Error " ++ error.wordText ++ " opening forwarding configuration subsystem: "
        ++ error.message
  | .ruleRead d error =>
      "Rule read failed on NFE " ++ idText d ++ ": " ++ error.message
  | .rulesSetup d action error =>
      "Rules setup failed on NFE " ++ idText d ++ " (" ++ action ++ "): " ++ error.message
  | .usage fault => fault.message
  | .settings path error => "Configuration file " ++ path ++ ": " ++ error.message
  | .state error => error.message
  | .output error => "Error writing output: " ++ error.message

end ToolError

end FlowProcessor
