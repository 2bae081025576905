import SandboxMonitor.Machine.Basic

/-!
# Launching the sandbox

A `LaunchRequest` names where user mode is to start and what it is to find in its registers.
`LaunchContext.of` checks a request against the regions in force, and
`LaunchContext.enter` makes the one-way drop into the sandbox.
-/

namespace SandboxMonitor

/-- Where the sandbox is to start. -/
structure LaunchRequest where
  entry : UInt32
  stackTop : UInt32
  buffer : UInt32
  bufferLength : UInt32
deriving DecidableEq

/-- Why a sandbox is not launched. -/
inductive LaunchError where
  | protection (cause : ProtectionError)
  | alreadyLaunched
  | entryOutsideCode (entry : UInt32)
  | stackOutsideData (stackTop : UInt32)
  | misalignedStack (stackTop : UInt32)
  | bufferOutsideData (ptr length : UInt32)
  | serviceWindowOutsideData
deriving DecidableEq

/-- The text of a launch error. -/
def LaunchError.message : LaunchError → String
  | protection cause => "PMP setup failed: " ++ cause.message
  | alreadyLaunched => "sandbox already launched"
  | entryOutsideCode entry => "entry " ++ Text.word entry ++ " outside the code window"
  | stackOutsideData stackTop => "stack top " ++ Text.word stackTop ++ " outside the data window"
  | misalignedStack stackTop => "stack top " ++ Text.word stackTop ++ " not 16-byte aligned"
  | bufferOutsideData ptr length =>
    "buffer (" ++ Text.word ptr ++ ", len=" ++ toString length.toNat ++ ") outside the data window"
  | serviceWindowOutsideData => "service data window not covered by the sandbox data window"

/-- What the sandbox starts with, once a request has been found good. -/
structure LaunchContext where
  target : Privilege
  resume : UInt32
  stackTop : UInt32
  a0 : UInt32
  a1 : UInt32
deriving DecidableEq

namespace LaunchRequest

/-- Whether the first instruction can be fetched. -/
def entersCode (request : LaunchRequest) (ws : Windows) : Bool :=
  request.entry % 2 = 0 && ws.code.contains request.entry 2

/-- Whether the stack can grow down from its top; the first push lands below the top. -/
def stackInData (request : LaunchRequest) (ws : Windows) : Bool :=
  ws.data.base < request.stackTop && request.stackTop.toNat ≤ ws.data.stop

/-- Whether the sandbox may use its buffer; a buffer without bytes may be anywhere. -/
def bufferInData (request : LaunchRequest) (ws : Windows) : Bool :=
  request.bufferLength = 0 || ws.data.contains request.buffer request.bufferLength

end LaunchRequest

namespace LaunchContext

/-- The context for a request, if the regions in force allow it. -/
def of (installed : Installed) (request : LaunchRequest) : Except LaunchError LaunchContext :=
  if !request.entersCode installed.windows then .error (.entryOutsideCode request.entry)
  else if request.stackTop % 16 ≠ 0 then .error (.misalignedStack request.stackTop)
  else if !request.stackInData installed.windows then .error (.stackOutsideData request.stackTop)
  else if !request.bufferInData installed.windows then
    .error (.bufferOutsideData request.buffer request.bufferLength)
  else .ok ⟨.user, request.entry, request.stackTop, request.buffer, request.bufferLength⟩

/-- Makes the hart ready to return into the sandbox and answers what user mode then finds. -/
def enter {B : Type} (context : LaunchContext) : Action (Machine B) UserStart := do
  .log .info ("[LAUNCH] entering U-mode at " ++ Text.word context.resume
    ++ ", sp=" ++ Text.word context.stackTop)
  Machine.setResume context.resume
  Machine.setPrevious context.target
  let m ← .state
  return ⟨m.mepc, m.mpp, context.stackTop, context.a0, context.a1⟩

end LaunchContext

end SandboxMonitor
