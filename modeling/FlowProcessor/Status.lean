/-
  FlowProcessor.Status — STATUS WORDS AND PLATFORM ERRORS.

  A platform call answers with a 32-bit word: a status code in the high half, a subcode that is
  the call's own in the low half.  `PlatformError.ofWord` and `PlatformError.word` convert between
  words and errors; a code that is not defined counts as a general failure.
-/
import FlowProcessor.Ident

namespace FlowProcessor

/-! ## §1. Status codes. -/

/-- The statuses a platform call can answer with. -/
inductive StatusCode
  | success
  | failure
  | invalidParameter
  | notFound
  | alreadyExists
  | noDevice
  | permissionDenied
  | hardwareFault
  | timeout
  | retryLater
  | noMemory
  | notSupported
  | uninitialized
  | tableFull
  deriving DecidableEq, Repr

namespace StatusCode

/-- The status of a code; every undefined code is a general failure. -/
def ofCode (code : UInt16) : StatusCode :=
  match code.toNat with
  | 0 => .success
  | 2 => .invalidParameter
  | 3 => .notFound
  | 4 => .alreadyExists
  | 5 => .noDevice
  | 6 => .permissionDenied
  | 7 => .hardwareFault
  | 8 => .timeout
  | 9 => .retryLater
  | 10 => .noMemory
  | 11 => .notSupported
  | 12 => .uninitialized
  | 13 => .tableFull
  | _ => .failure

/-- The code of a status. -/
def code : StatusCode → UInt16
  | .success => 0
  | .failure => 1
  | .invalidParameter => 2
  | .notFound => 3
  | .alreadyExists => 4
  | .noDevice => 5
  | .permissionDenied => 6
  | .hardwareFault => 7
  | .timeout => 8
  | .retryLater => 9
  | .noMemory => 10
  | .notSupported => 11
  | .uninitialized => 12
  | .tableFull => 13

/-- The name of a status in diagnostics. -/
def name : StatusCode → String
  | .success => "NS_NFM_SUCCESS"
  | .failure => "NS_NFM_FAILURE"
  | .invalidParameter => "NS_NFM_INVALID_PARAMETER"
  | .notFound => "NS_NFM_NOT_FOUND"
  | .alreadyExists => "NS_NFM_ALREADY_EXISTS"
  | .noDevice => "NS_NFM_NO_DEVICE"
  | .permissionDenied => "NS_NFM_PERMISSION_DENIED"
  | .hardwareFault => "NS_NFM_HARDWARE_FAULT"
  | .timeout => "NS_NFM_TIMEOUT"
  | .retryLater => "NS_NFM_RETRY_LATER"
  | .noMemory => "NS_NFM_NO_MEMORY"
  | .notSupported => "NS_NFM_NOT_SUPPORTED"
  | .uninitialized => "NS_NFM_UNINITIALIZED"
  | .tableFull => "NS_NFM_TABLE_FULL"

/-- The explanation of a status in diagnostics. -/
def description : StatusCode → String
  | .success => "success"
  | .failure => "general failure"
  | .invalidParameter => "invalid parameter"
  | .notFound => "item not found"
  | .alreadyExists => "item already exists"
  | .noDevice => "no such device"
  | .permissionDenied => "permission denied"
  | .hardwareFault => "hardware fault"
  | .timeout => "operation timed out"
  | .retryLater => "resource busy, retry later"
  | .noMemory => "out of memory"
  | .notSupported => "operation not supported"
  | .uninitialized => "subsystem not initialized"
  | .tableFull => "table full"

end StatusCode

/-! ## §2. Platform errors. -/

/-- Why a platform call failed. -/
inductive PlatformError
  /-- The platform answered with a status word. -/
  | reported (status : StatusCode) (subcode : UInt16)
  /-- The addressed device is not installed. -/
  | noDevice (device : DeviceId)
  /-- An argument is not acceptable. -/
  | invalidParameter (reason : String)
  /-- The named item does not exist. -/
  | notFound (item : String)
  /-- The named subsystem was not opened. -/
  | uninitialized (subsystem : String)
  /-- A defect of the platform itself. -/
  | internal (reason : String)
  deriving DecidableEq, Repr

namespace PlatformError

/-- The status an error stands for. -/
def statusCode : PlatformError → StatusCode
  | .reported status _ => status
  | .noDevice _ => .noDevice
  | .invalidParameter _ => .invalidParameter
  | .notFound _ => .notFound
  | .uninitialized _ => .uninitialized
  | .internal _ => .failure

/-- The call's own subcode, 0 where the platform gave none. -/
def subcode : PlatformError → UInt16
  | .reported _ subcode => subcode
  | _ => 0

/-- The status word of an error. -/
def word (e : PlatformError) : UInt32 :=
  e.statusCode.code.toUInt32 <<< 16 ||| e.subcode.toUInt32

/-- The error a status word reports; `none` for success, whatever the subcode. -/
def ofWord (word : UInt32) : Option PlatformError :=
  match StatusCode.ofCode (word >>> 16).toUInt16 with
  | .success => none
  | status => some (.reported status word.toUInt16)

/-- The diagnostic of an error. -/
def message : PlatformError → String
  | .reported status subcode =>
      status.name ++ " (subcode " ++ subcode.toNat.repr ++ "): " ++ status.description
  | .noDevice device => "NS_NFM_NO_DEVICE: device " ++ idText device ++ " not present"
  | .invalidParameter reason => "NS_NFM_INVALID_PARAMETER: " ++ reason
  | .notFound item => "NS_NFM_NOT_FOUND: " ++ item
  | .uninitialized subsystem => "NS_NFM_UNINITIALIZED: " ++ subsystem
  | .internal reason => "NS_NFM_FAILURE: " ++ reason

/-- The status word of an error as diagnostics show it, eight digits wide. -/
def wordText (e : PlatformError) : String := Numeral.hexPadded 8 e.word

end PlatformError

end FlowProcessor
