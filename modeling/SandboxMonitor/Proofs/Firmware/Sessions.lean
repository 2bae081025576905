import SandboxMonitor.Firmware.Session
import SandboxMonitor.Proofs.Firmware.Simulation
import SandboxMonitor.Proofs.Hart.PackedBank
import SandboxMonitor.Proofs.Monitor.LaunchGate

/-!
# Console sessions

A session on clear protection registers boots, and its program is then at the start of the
console.  What the session puts on the serial line is the transcript of the bytes that come in,
and between any two calls the firmware is `Orderly` (`Session.run_says_transcript`).
-/

namespace SandboxMonitor

namespace Firmware

open SandboxMonitor.Action TrapVector

/-- Between two calls all is well: the monitor has not halted; the program runs in user mode, on
a hart that is set up for it; it comes to a call before any of its accesses is refused, and stores
nothing outside its buffer on the way; and the desk accepts this call. -/
structure Orderly (fw : Firmware) : Prop where
  phase : fw.monitor.phase = .sandboxed
  ready : Ready fw.core fw.hart.machine.bank
  stores : ∀ e ∈ (runProgram.run logFilter fw).events, StoresInBuffer e
  accepts : ∃ addr called place frame handed call,
    Gives logFilter fw runProgram (some (addr, .call)) called
    ∧ Ready called.core called.hart.machine.bank
    ∧ Gives logFilter called (enterTrap addr .call) (place, frame) handed
    ∧ Call.ofId? (frame.get .a7) = some call
    ∧ ∀ rejection, ((Desk.dispatch call (frame.get .a0) (frame.get .a1)).run logFilter
      handed.monitor.desk).result ≠ .ok (.error rejection)

theorem Shows.orderly {c : Console} {fw : Firmware} (h : Shows c fw) :
  Orderly fw
  := by
  obtain ⟨called, handed, stores, spills, harrives⟩ := h.exists_arrives
  have harguments := harrives.calls.arguments
  rw [← Core.get_visible, ← Core.get_visible] at harguments
  constructor
  · apply h.phase
  · apply h.poised.ready
  · rw [harrives.run]
    apply harrives.inBuffer
  · refine ⟨Program.address (c.point.ask c.line).site, called, trapStackTop - frameSize,
      called.core.visible, handed, (c.point.ask c.line).call, ?_, harrives.calls.held.ready, ?_,
      harrives.ofId?_eq, ?_⟩
    · rw [Gives, harrives.run]
      exact ⟨rfl, rfl⟩
    · rw [Gives, harrives.enter]
      exact ⟨rfl, rfl⟩
    · intro rejection
      cases hstep : c.step with
      | none =>
        obtain ⟨hask, hqueue⟩ := Console.idle_of_step hstep
        have hline := harrives.serving.line
        rw [hqueue] at hline
        rw [hask, Ask.call, Desk.run_getByte_idle hline]
        rintro ⟨⟩
      | some next =>
        obtain ⟨d, events, hdispatch, -⟩ := exists_dispatch hstep harrives.serving
          harrives.trapped.handling.memory harguments
        rw [hdispatch]
        rintro ⟨⟩

/-- Where the sandbox starts. -/
def userStart : UserStart := ⟨sandboxBase, .user, userStackTop, userBuffer, userBufferLength⟩

/-- Once the launch is prepared, the registers grant what the program needs. -/
theorem grants_prepareLaunch (counters : Counters) :
  Grants ((Monitor.prepareLaunch launchRequest).run logFilter
    (ofHart (powerOn Program.code .clear counters)).monitor).state.desk.machine.bank
  := by
  have hguarded : (ofHart (powerOn Program.code .clear counters)).monitor.Guarded := by
    rintro _ ⟨⟩
  have hforce := hguarded.run_prepareLaunch logFilter launchRequest _ rfl
  apply grants_of_inForce rfl hforce

/-- The firmware boots into the sandbox, whose program is at its start. -/
theorem exists_boot (counters : Counters) :
  ∃ fw events, boot.run logFilter (ofHart (powerOn Program.code .clear counters))
      = ⟨.ok userStart, fw, events⟩
    ∧ Shows ⟨.start, [], [], counters⟩ fw
  := by
  refine ⟨(boot.run logFilter (ofHart (powerOn Program.code .clear counters))).state,
    (boot.run logFilter (ofHart (powerOn Program.code .clear counters))).events, rfl,
    rfl, ⟨rfl, rfl, rfl, rfl, rfl⟩, rfl, rfl, rfl,
    ⟨rfl, rfl, rfl, grants_prepareLaunch counters⟩, ?_⟩
  apply loaded_memory

end Firmware

namespace Session

open SandboxMonitor.Action
open Firmware (logFilter transmitted transcript endsLine utf8)

section Turn

variable {α : Type} {a : Action Firmware α} {fw fw' : Firmware} {events : List Event}

theorem run_turn_of_ok {v : α} (ha : a.run logFilter fw = ⟨.ok v, fw', events⟩) :
  (turn a).run logFilter ⟨fw, false⟩ = ⟨.ok (.ok v), ⟨fw', false⟩, events⟩
  := by
  have hattempt : (onFirmware a.attempt).run logFilter ⟨fw, false⟩
      = ⟨.ok (.ok v), ⟨fw', false⟩, events⟩ := by
    rw [onFirmware, run_on]
    dsimp only
    rw [run_attempt, ha]
  rw [turn, run_gets_bind ended _ logFilter (s := ⟨fw, false⟩) rfl, if_neg Bool.false_ne_true,
    run_bind, hattempt]
  simp only [run_pure, List.append_nil]

theorem run_turn_of_error {why : Stop} (ha : a.run logFilter fw = ⟨.error why, fw', events⟩) :
  (turn a).run logFilter ⟨fw, false⟩ = ⟨.ok (.error (.ofStop why)), ⟨fw', true⟩, events⟩
  := by
  have hattempt : (onFirmware a.attempt).run logFilter ⟨fw, false⟩
      = ⟨.ok (.error why), ⟨fw', false⟩, events⟩ := by
    rw [onFirmware, run_on]
    dsimp only
    rw [run_attempt, ha]
  rw [turn, run_gets_bind ended _ logFilter (s := ⟨fw, false⟩) rfl, if_neg Bool.false_ne_true,
    run_bind, hattempt]
  simp only [run_bind, run_modify, run_pure, List.append_nil]

/-- A session whose firmware stops has ended. -/
theorem run_none_of_error {why : Stop} {bytes : List UInt8}
    (hdry : (Firmware.feed bytes >>= fun _ => Firmware.runDry).run logFilter fw
      = ⟨.error why, fw', events⟩) :
  (run none bytes).run logFilter ⟨fw, false⟩ = ⟨.ok (.ofStop why), ⟨fw', true⟩, events⟩
  := by
  rw [run, ← List.append_nil events]
  apply run_bind_of_ok (run_turn_of_error hdry)
  rfl

end Turn

/-- A session on clear protection registers, whatever its counters say and whatever bytes come
in: it boots, what it puts on the serial line is the transcript of the bytes, and then it waits
for a byte.  Between any two calls all is well. -/
theorem run_says_transcript (counters : Counters) (bytes : List UInt8) :
  ∃ start booted log final talk,
    boot.run logFilter (powerOn .clear counters) = ⟨.ok (.ok start), booted, log⟩
    ∧ (run none bytes).run logFilter booted = ⟨.ok .idle, final, talk⟩
    ∧ transmitted talk = transcript counters (bytes.splitOnP endsLine)
    ∧ final.firmware.monitor.phase ≠ .halted
    ∧ ∀ n fw, Gives logFilter booted.firmware
        (Firmware.feed bytes >>= fun _ => Firmware.run n) () fw → fw.Orderly
  := by
  obtain ⟨fw, log, hboot, hshows⟩ := Firmware.exists_boot counters
  obtain ⟨fed, hfeed, hfed⟩ := hshows.exists_feed bytes
  obtain ⟨n, hn, htalk⟩ := Firmware.Console.says_transcript bytes counters
  have hbudget : n < Firmware.callsToRunDry fed.monitor.desk.line := by
    rw [Firmware.callsToRunDry, hfed.serving.line]
    dsimp only
    rw [List.nil_append]
    omega
  obtain ⟨fw', talk, hrun, hsaid, hphase⟩ := Firmware.exists_run_idle htalk hfed hbudget
  have hdry : (Firmware.feed bytes >>= fun _ => Firmware.runDry).run logFilter fw
      = ⟨.error .idle, fw', talk⟩ := by
    apply run_bind_of_ok hfeed
    rw [Firmware.runDry, run_gets_bind (fun fw : Firmware =>
      Firmware.callsToRunDry fw.monitor.desk.line) _ logFilter rfl, hrun]
  refine ⟨Firmware.userStart, ⟨fw, false⟩, log, ⟨fw', true⟩, talk, run_turn_of_ok hboot,
    run_none_of_error hdry, hsaid, ?_, ?_⟩
  · rw [hphase]
    decide
  · intro n fw'' hgives
    obtain ⟨_, _, hgives, hrest⟩ := gives_bind.mp hgives
    rw [Gives, hfeed] at hgives
    obtain ⟨-, rfl⟩ := hgives
    obtain ⟨c, hc⟩ := hfed.of_gives_run hrest
    apply hc.orderly

/-- One byte, the end of a line, and another byte: the first one is echoed and scored, the
other one is only echoed. -/
theorem run_says_transcript_shortLine :
  ∃ start booted log final talk,
    boot.run logFilter (powerOn .clear .silent) = ⟨.ok (.ok start), booted, log⟩
    ∧ (run none [65, 13, 66]).run logFilter booted = ⟨.ok .idle, final, talk⟩
    ∧ transmitted talk
      = utf8 "A\r\n65,5,20,80\r\nINFO  [SYSCALL] cycles=0 instret=0\r\nB"
    ∧ ∃ fw, Gives logFilter booted.firmware
        (Firmware.feed [65, 13, 66] >>= fun _ => Firmware.run 0) () fw ∧ fw.Orderly
  := by
  obtain ⟨start, booted, log, final, talk, hboot, hrun, hsaid, -, horderly⟩ :=
    run_says_transcript .silent [65, 13, 66]
  refine ⟨start, booted, log, final, talk, hboot, hrun, ?_, ?_⟩
  · rw [hsaid]
    decide +kernel
  · exact ⟨_, ⟨rfl, rfl⟩, horderly 0 _ ⟨rfl, rfl⟩⟩

end Session

end SandboxMonitor
