/-! # The control API — methods, requests and responses

    The request and response values that travel between a control client and
    the service host, with the method table (`opcode`, `from_opcode`,
    `is_mutating`) and the constructors of `ControlResponse`. -/

namespace ServiceControl

/-- A `serde_json` number: an unsigned or negative integer, or the bits of a
    double. -/
inductive Number where
  | posInt (n : Nat)
  | negInt (n : Nat)
  | float (bits : UInt64)
  deriving DecidableEq, Repr

/-- A `serde_json::Value`. -/
inductive Value where
  | null
  | bool (b : Bool)
  | number (n : Number)
  | string (s : String)
  | array (items : List Value)
  | object (members : List (String × Value))

/-- The control methods. -/
inductive ControlMethod where
  | serviceStatus
  | serviceShutdown
  | coreStatus
  | pluginList
  | pluginReload
  | pluginDeploymentSet
  | pluginDeploymentClear
  | runnerList
  | runnerRestart
  | runnerStop
  | eventSourceList
  | eventSourceRestart
  | coreBeginDrain
  | taskSubmitBatch
  | taskList
  | taskCancel
  | taskOutcome
  | taskEventsAfter
  | healthCheck
  | logTail
  | taskOutcomesBatch
  | taskWait
  | runtimeStatistics
  | hostMetrics
  deriving DecidableEq, Repr

/-- `ControlMethod::opcode`. -/
def ControlMethod.opcode : ControlMethod → UInt16
  | .serviceStatus => 0x0001
  | .serviceShutdown => 0x0002
  | .coreStatus => 0x0003
  | .pluginList => 0x0004
  | .pluginReload => 0x0005
  | .pluginDeploymentSet => 0x0006
  | .pluginDeploymentClear => 0x0007
  | .runnerList => 0x0008
  | .runnerRestart => 0x0009
  | .runnerStop => 0x000A
  | .eventSourceList => 0x000B
  | .eventSourceRestart => 0x000C
  | .coreBeginDrain => 0x000D
  | .taskSubmitBatch => 0x000E
  | .taskList => 0x000F
  | .taskCancel => 0x0010
  | .taskOutcome => 0x0011
  | .taskEventsAfter => 0x0012
  | .healthCheck => 0x0013
  | .logTail => 0x0014
  | .taskOutcomesBatch => 0x0015
  | .taskWait => 0x0016
  | .runtimeStatistics => 0x0017
  | .hostMetrics => 0x0018

/-- `ControlMethod::from_opcode`. -/
def ControlMethod.fromOpcode (opcode : UInt16) : Option ControlMethod :=
  match opcode.toNat with
  | 0x0001 => some .serviceStatus
  | 0x0002 => some .serviceShutdown
  | 0x0003 => some .coreStatus
  | 0x0004 => some .pluginList
  | 0x0005 => some .pluginReload
  | 0x0006 => some .pluginDeploymentSet
  | 0x0007 => some .pluginDeploymentClear
  | 0x0008 => some .runnerList
  | 0x0009 => some .runnerRestart
  | 0x000A => some .runnerStop
  | 0x000B => some .eventSourceList
  | 0x000C => some .eventSourceRestart
  | 0x000D => some .coreBeginDrain
  | 0x000E => some .taskSubmitBatch
  | 0x000F => some .taskList
  | 0x0010 => some .taskCancel
  | 0x0011 => some .taskOutcome
  | 0x0012 => some .taskEventsAfter
  | 0x0013 => some .healthCheck
  | 0x0014 => some .logTail
  | 0x0015 => some .taskOutcomesBatch
  | 0x0016 => some .taskWait
  | 0x0017 => some .runtimeStatistics
  | 0x0018 => some .hostMetrics
  | _ => none

/-- `ControlMethod::is_mutating`. -/
def ControlMethod.isMutating : ControlMethod → Bool
  | .serviceShutdown
  | .pluginReload
  | .pluginDeploymentSet
  | .pluginDeploymentClear
  | .runnerRestart
  | .runnerStop
  | .eventSourceRestart
  | .coreBeginDrain
  | .taskSubmitBatch
  | .taskCancel => true
  | _ => false

/-- The opcode table and its reader agree. -/
theorem fromOpcode_opcode (m : ControlMethod) :
    ControlMethod.fromOpcode m.opcode = some m := by
  cases m <;> rfl

/-- `ControlRequest`. -/
structure ControlRequest where
  token : String
  method : ControlMethod
  params : Value

/-- `ControlErrorBody`. -/
structure ControlErrorBody where
  code : String
  message : String
  deriving DecidableEq, Repr

/-- `ControlResponse`. -/
structure ControlResponse where
  ok : Bool
  result : Option Value
  error : Option ControlErrorBody

/-- `ControlError`. -/
inductive ControlError where
  | unauthorized
  | unsupported (method : String)
  | badRequest (message : String)
  | failed (message : String)
  deriving DecidableEq, Repr

/-- `ControlResponse::err`. -/
def ControlResponse.err : ControlError → ControlResponse
  | .unauthorized =>
      ⟨false, none, some ⟨"unauthorized", "unauthorized control request"⟩⟩
  | .unsupported method =>
      ⟨false, none, some ⟨"unsupported",
        method ++ " is not supported by the current runtime API"⟩⟩
  | .badRequest message => ⟨false, none, some ⟨"bad_request", message⟩⟩
  | .failed message => ⟨false, none, some ⟨"failed", message⟩⟩

/-- `ControlResponse::ok` at a value that `serde_json::to_value` accepts. -/
def ControlResponse.okValue (result : Value) : ControlResponse :=
  ⟨true, some result, none⟩

/-- `ControlResponse::empty_ok`. -/
def ControlResponse.emptyOk : ControlResponse :=
  ⟨true, some .null, none⟩

end ServiceControl
