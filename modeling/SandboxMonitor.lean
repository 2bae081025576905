import SandboxMonitor.Machine.Raise
import SandboxMonitor.Firmware.Session
import SandboxMonitor.Proofs.Protection.Atomicity
import SandboxMonitor.Proofs.Monitor.Resumption
import SandboxMonitor.Proofs.Protection.Sweeping
import SandboxMonitor.Proofs.Monitor.LaunchGate
import SandboxMonitor.Proofs.Monitor.Phases
import SandboxMonitor.Proofs.Hart.Execution
import SandboxMonitor.Proofs.Hart.TrapVector
import SandboxMonitor.Proofs.Monitor.BufferChecks
import SandboxMonitor.Proofs.Protection.Meaning
import SandboxMonitor.Proofs.Hart.Refinement
import SandboxMonitor.Proofs.Firmware.Transcript
import SandboxMonitor.Proofs.Hart.Handling
import SandboxMonitor.Proofs.Firmware.Services
import SandboxMonitor.Proofs.Firmware.Loaded
import SandboxMonitor.Proofs.Firmware.Calls
import SandboxMonitor.Proofs.Firmware.Sessions
import SandboxMonitor.Proofs.Monitor.Retrying
import SandboxMonitor.Proofs.Monitor.Permanence
import SandboxMonitor.Proofs.Monitor.Routing
import SandboxMonitor.Proofs.Action.Uniformity
import SandboxMonitor.Proofs.Machine.Agreement
import SandboxMonitor.Proofs.Service.Secrecy
import SandboxMonitor.Proofs.Monitor.Secrecy
import SandboxMonitor.Proofs.Protection.LeastBlock
import SandboxMonitor.Proofs.Protection.Decoding
import SandboxMonitor.Proofs.Action.Filtering
import SandboxMonitor.Proofs.Service.Logging
import SandboxMonitor.Proofs.Service.ScoreLines
import SandboxMonitor.Proofs.Service.Inference
import SandboxMonitor.Proofs.Service.Rejecting
import SandboxMonitor.Proofs.Monitor.Logging
import SandboxMonitor.Proofs.Monitor.Traffic
import SandboxMonitor.Proofs.Monitor.Rejecting
import SandboxMonitor.Proofs.Protection.Ranges
import SandboxMonitor.Proofs.Protection.Verdict
import SandboxMonitor.Proofs.Machine.Sampling
import SandboxMonitor.Proofs.Machine.Settling
import SandboxMonitor.Proofs.Service.Counting
import SandboxMonitor.Proofs.Protection.Fencing
import SandboxMonitor.Proofs.Protection.Building
