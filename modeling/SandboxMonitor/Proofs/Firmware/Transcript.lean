import Mathlib.Tactic.Use
import SandboxMonitor.Firmware.Program
import SandboxMonitor.Firmware.Console
import SandboxMonitor.Proofs.Service.Storing

/-!
# The transcript of a session

What a session puts on the console is determined by the bytes that come in and by what the
counters answer.  `transcript` says so line by line: a line is echoed as far as the buffer has
room for it, and when it has been ended and is not empty, it is followed by its scores and by
the counters.

`Console` is the sandbox program as a machine that makes one call in each step.  It says what
the transcript says and then waits for a byte (`Console.says_transcript`).
-/

namespace SandboxMonitor

/-- The counters after both of them have been read. -/
def Counters.afterSnapshot (cs : Counters) : Counters :=
  let read := cs.afterReading .cycle (cs.readWide .cycle)
  read.afterReading .instret (read.readWide .instret)

namespace Firmware

/-! ### What goes out, line by line -/

/-- Whether a byte ends a line. -/
def endsLine (b : UInt8) : Bool := b = 13 || b = 10

/-- The bytes of a line that the buffer has room for. -/
def kept (line : List UInt8) : List UInt8 := line.take userBufferLength.toNat

/-- The scores of an input: its digest, rotated to the left by 0, 2, 4 and 6 places, as signed
numbers. -/
def scoresOf (input : List UInt8) : List Int :=
  let d : BitVec 8 := input.foldl (fun d b => d.rotateLeft 1 ^^^ b.toBitVec) 0
  [0, 2, 4, 6].map fun count => (d.rotateLeft count).toInt

/-- The line with the scores of an input. -/
def scoreLine (input : List UInt8) : List UInt8 :=
  utf8 (",".intercalate ((scoresOf input).map toString) ++ lineEnd)

/-- The line of the log with the counters. -/
def countersLine (s : Snapshot) : List UInt8 :=
  logLine .info ("[SYSCALL] cycles=" ++ toString s.cycles.toNat
    ++ " instret=" ++ toString s.instret.toNat)

/-- What follows the end of a line. -/
def answered (cs : Counters) (line : List UInt8) : List UInt8 :=
  if line = [] then [] else scoreLine line ++ countersLine cs.snapshot

/-- The counters after a line has been answered. -/
def countersAfter (cs : Counters) (line : List UInt8) : Counters :=
  if line = [] then cs else cs.afterSnapshot

/-- What goes out on lines of which all but the last one are ended. -/
def transcript (cs : Counters) : List (List UInt8) → List UInt8
  | [] => []
  | [line] => kept line
  | line :: next :: rest =>
    kept line ++ [13, 10] ++ answered cs (kept line)
      ++ transcript (countersAfter cs (kept line)) (next :: rest)

theorem transcript_cons (cs : Counters) (line : List UInt8) {rest : List (List UInt8)}
    (h : rest ≠ []) :
  transcript cs (line :: rest)
    = kept line ++ [13, 10] ++ answered cs (kept line)
      ++ transcript (countersAfter cs (kept line)) rest
  := by
  cases rest with
  | nil => contradiction
  | cons next rest => rfl

/-! ### What goes out, byte by byte -/

/-- What goes out on bytes that come in while the buffer holds the beginning of a line. -/
def reading (cs : Counters) (line : List UInt8) : List UInt8 → List UInt8
  | [] => []
  | b :: rest =>
    if endsLine b then
      [13, 10] ++ answered cs line ++ reading (countersAfter cs line) [] rest
    else if line.length = userBufferLength.toNat then reading cs line rest
    else b :: reading cs (line ++ [b]) rest

/-- Behind a line that has begun, what goes out byte by byte completes the transcript. -/
theorem append_reading (cs : Counters) (begun bytes : List UInt8)
    (hbegun : ∀ b ∈ begun, endsLine b = false) :
  kept begun ++ reading cs (kept begun) bytes
    = transcript cs ((begun ++ bytes).splitOnP endsLine)
  := by
  induction bytes generalizing cs begun with
  | nil =>
    rw [reading, List.append_nil, List.append_nil, List.splitOnP_eq_singleton hbegun]
    rfl
  | cons b rest ih =>
    rw [reading]
    split
    · rename_i hends
      have hempty := ih (countersAfter cs (kept begun)) [] (List.forall_mem_nil _)
      rw [List.splitOnP_append_cons_of_forall_mem hbegun b hends,
        transcript_cons _ _ (List.splitOnP_ne_nil _ _), ← List.nil_append rest, ← hempty]
      simp [kept]
    · rename_i hgoes
      have hgrown := ih cs (begun ++ [b])
        (List.forall_mem_append.mpr ⟨hbegun, List.forall_mem_singleton.mpr (by simpa using hgoes)⟩)
      rw [List.append_assoc, List.singleton_append] at hgrown
      rw [← hgrown]
      -- What does not fit the buffer is a part of the line that is not kept.
      have hkept : kept (begun ++ [b])
          = if (kept begun).length = userBufferLength.toNat then kept begun
            else kept begun ++ [b] := by
        rw [kept, kept, List.take_append, List.length_take]
        split
        · rename_i hfull
          rw [Nat.sub_eq_zero_of_le (by omega), List.take_zero, List.append_nil]
        · rename_i hroom
          rw [List.take_of_length_le (l := [b])]
          rw [List.length_singleton]
          omega
      rw [hkept]
      split
      · rfl
      · rw [List.append_assoc, List.singleton_append]

/-! ### The program, call by call -/

/-- Where the program goes on after a call. -/
inductive Point where
  /-- At its first instruction. -/
  | start
  /-- After it has got a byte. -/
  | received (b : UInt8)
  /-- After it has echoed a byte. -/
  | echoed
  /-- After it has sent a carriage return. -/
  | returned
  /-- After it has sent a line feed. -/
  | ended
  /-- After the line has been scored. -/
  | scored
  /-- After the counters have been logged. -/
  | counted

/-- What the program calls for. -/
inductive Ask where
  | byte
  /-- Sends a byte, after which the program goes on elsewhere. -/
  | send (b : UInt8) (next : Point)
  | scores
  | counters

namespace Point

/-- What the program calls for next, when the buffer holds a line. -/
def ask (line : List UInt8) : Point → Ask
  | start => .byte
  | received b =>
    if endsLine b then .send 13 returned
    else if line.length = userBufferLength.toNat then .byte
    else .send b echoed
  | echoed => .byte
  | returned => .send 10 ended
  | ended => if line = [] then .byte else .scores
  | scored => .counters
  | counted => .byte

/-- The line that the buffer holds at the next call. -/
def grow (line : List UInt8) : Point → List UInt8
  | start => []
  | received b =>
    if endsLine b then line
    else if line.length = userBufferLength.toNat then line
    else line ++ [b]
  | counted => []
  | _ => line

/-- After a byte has been sent the program is at one of three points. -/
theorem next_of_ask {point next : Point} {line : List UInt8} {b : UInt8}
    (h : point.ask line = .send b next) :
  next = .echoed ∨ next = .returned ∨ next = .ended
  := by
  cases point with
  | received b =>
    rw [ask] at h
    split at h
    · cases h
      simp
    · split at h
      · cases h
      · cases h
        simp
  | returned =>
    cases h
    simp
  | ended =>
    rw [ask] at h
    split at h <;> cases h
  | _ => cases h

/-- Only a line that is not empty is scored. -/
theorem grow_ne_nil {point : Point} {line : List UInt8} (h : point.ask line = .scores) :
  point.grow line ≠ []
  := by
  cases point with
  | received b =>
    rw [ask] at h
    split at h
    · cases h
    · split at h <;> cases h
  | ended =>
    rw [ask] at h
    split at h
    · cases h
    · assumption
  | _ => cases h

end Point

/-- The program between two calls, with what it has to read. -/
structure Console where
  point : Point
  /-- The line that the buffer holds. -/
  line : List UInt8
  queue : List UInt8
  counters : Counters

namespace Console

/-- The line at the next call. -/
def grown (c : Console) : List UInt8 := c.point.grow c.line

/-- What the next call puts on the serial line, and where the program is after it; a program
that calls for a byte when there is none waits. -/
def step (c : Console) : Option (List UInt8 × Console) :=
  match c.point.ask c.line with
  | .byte =>
    match c.queue with
    | [] => none
    | b :: rest => some ([], ⟨.received b, c.grown, rest, c.counters⟩)
  | .send b next => some ([b], ⟨next, c.grown, c.queue, c.counters⟩)
  | .scores => some (scoreLine c.grown, ⟨.scored, c.grown, c.queue, c.counters⟩)
  | .counters =>
    some (countersLine c.counters.snapshot,
      ⟨.counted, c.grown, c.queue, c.counters.afterSnapshot⟩)

/-- A console that does not step calls for a byte that there is not. -/
theorem idle_of_step {c : Console} (h : c.step = none) :
  c.point.ask c.line = .byte ∧ c.queue = []
  := by
  rw [step] at h
  cases hask : c.point.ask c.line with
  | byte =>
    rw [hask] at h
    cases hqueue : c.queue with
    | nil => exact ⟨rfl, rfl⟩
    | cons b rest =>
      rw [hqueue] at h
      cases h
  | _ =>
    rw [hask] at h
    cases h

/-- The program makes some number of calls, which put bytes on the serial line, and then waits
for a byte. -/
inductive Says : Console → Nat → List UInt8 → Prop where
  | waits {c : Console} (h : c.step = none) : Says c 0 []
  | calls {c c' : Console} {said later : List UInt8} {n : Nat} (h : c.step = some (said, c'))
    (hlater : Says c' n later) : Says c (n + 1) (said ++ later)

/-- A program that calls for a byte makes at most five calls for each byte there is. -/
theorem says_reading (point : Point) (line queue : List UInt8) (cs : Counters)
    (h : point.ask line = .byte) :
  ∃ n ≤ 5 * queue.length, Says ⟨point, line, queue, cs⟩ n (reading cs (point.grow line) queue)
  := by
  induction queue generalizing point line cs with
  | nil =>
    use 0, Nat.zero_le _
    apply Says.waits
    simp [step, h]
  | cons b rest ih =>
    have hgets : step ⟨point, line, b :: rest, cs⟩
        = some ([], ⟨.received b, point.grow line, rest, cs⟩) := by
      simp [step, h, grown]
    generalize point.grow line = held at hgets ⊢
    rw [reading, List.length_cons]
    by_cases hends : endsLine b = true
    · have hreturns : step ⟨.received b, held, rest, cs⟩
          = some ([13], ⟨.returned, held, rest, cs⟩) := by
        simp [step, Point.ask, hends, grown, Point.grow]
      have hfeeds : step ⟨.returned, held, rest, cs⟩ = some ([10], ⟨.ended, held, rest, cs⟩) := rfl
      rw [if_pos hends]
      by_cases hempty : held = []
      · subst hempty
        obtain ⟨n, hn, htalk⟩ := ih .ended [] cs rfl
        use n + 3, by omega
        apply Says.calls hgets (.calls hreturns (.calls hfeeds htalk))
      · have hscores : step ⟨.ended, held, rest, cs⟩
            = some (scoreLine held, ⟨.scored, held, rest, cs⟩) := by
          simp [step, Point.ask, hempty, grown, Point.grow]
        have hcounts : step ⟨.scored, held, rest, cs⟩
            = some (countersLine cs.snapshot, ⟨.counted, held, rest, cs.afterSnapshot⟩) := rfl
        obtain ⟨n, hn, htalk⟩ := ih .counted held cs.afterSnapshot rfl
        use n + 5, by omega
        have hall := Says.calls hgets (.calls hreturns (.calls hfeeds (.calls hscores
          (.calls hcounts htalk))))
        simpa [answered, countersAfter, hempty, Point.grow] using hall
    · rw [if_neg hends]
      by_cases hfull : held.length = userBufferLength.toNat
      · obtain ⟨n, hn, htalk⟩ := ih (.received b) held cs
          (by simp [Point.ask, hends, hfull])
        use n + 1, by omega
        have hall := Says.calls hgets htalk
        simpa [hfull, hends, Point.grow] using hall
      · have hechoes : step ⟨.received b, held, rest, cs⟩
            = some ([b], ⟨.echoed, held ++ [b], rest, cs⟩) := by
          simp [step, Point.ask, hends, hfull, grown, Point.grow]
        obtain ⟨n, hn, htalk⟩ := ih .echoed (held ++ [b]) cs rfl
        use n + 2, by omega
        have hall := Says.calls hgets (.calls hechoes htalk)
        simpa [hfull, Point.grow] using hall

/-- From its start the program says what the transcript of the bytes says. -/
theorem says_transcript (bytes : List UInt8) (cs : Counters) :
  ∃ n ≤ 5 * bytes.length,
    Says ⟨.start, [], bytes, cs⟩ n (transcript cs (bytes.splitOnP endsLine))
  := by
  obtain ⟨n, hn, htalk⟩ := says_reading .start [] bytes cs rfl
  use n, hn
  have htranscript := append_reading cs [] bytes (List.forall_mem_nil _)
  rw [List.nil_append] at htranscript
  rw [← htranscript]
  apply htalk

end Console

end Firmware

end SandboxMonitor
