import HttpCloak.Transport.SpeculativeConn

/-!
# `SpeculativeConn.mu` under concurrent `Read` and `Write`

An HTTP/2 connection runs a frame-reader goroutine, which calls `Read` again as soon as the
previous call returned, and writes frames from other goroutines. This file models the
wrapper after the proxy's head was stripped (`httpResponseDone` is true), with both
goroutines and the server at the other end:

* `Read` takes `c.mu`, returns buffered bytes if `readBuffer` holds any, and otherwise calls
  `c.Conn.Read`, which blocks until the server has sent something, still holding `c.mu`
  (the `defer c.mu.Unlock()` runs only when `Read` returns);
* `Write` takes `c.mu`, calls `c.Conn.Write`, which blocks while the path to the server
  (the kernel's send buffer, the network, the server's receive buffer) holds `sendCap`
  frames the server has not taken, and releases `c.mu` when it returns;
* the server takes the frames sent to it and answers each request; the path back holds at
  most `recvCap` bytes the reader has not taken. A full-duplex server takes frames at any
  time; a half-duplex one only once it has answered every request it took.

`reachable_write_waits_on_read` replays four steps from an idle connection and ends in a
state where the writer waits for `c.mu`, the reader holds it inside `c.Conn.Read`, and no
step of any party is possible. Over every interleaving, `Inv` (the lock is held exactly by the
goroutine in its critical section) gives `reachable_mutex`, and `reachable_stuck_iff` gives
every state where no party can step: the blocked read, or its mirror, where `Write` holds
`c.mu` inside a `c.Conn.Write` that a half-duplex server does not drain because the reader,
waiting for `c.mu`, does not drain the server's answer.
-/

namespace HttpCloak.Transport
namespace SpeculativeLock

/-- The two goroutines that use the wrapper. -/
inductive Goroutine where
  | reader
  | writer
  deriving DecidableEq, Repr

/-- Where the frame reader is in `Read`. -/
inductive ReaderPc where
  | idle
  | locking
  | locked
  | inConnRead
  deriving DecidableEq, Repr

/-- Where the frame writer is in `Write`. -/
inductive WriterPc where
  | idle
  | locking
  | inConnWrite
  deriving DecidableEq, Repr

/-- The wrapper, its two callers and the server. `inbound` is what the server has sent and
the reader has not taken; `sent` counts the frames written that the server has not taken,
`requests` and `answers` the frames it took and the replies it sent. The capacities of the
two paths and the server's duplex never change. -/
structure Sys where
  mu : Option Goroutine
  reader : ReaderPc
  writer : WriterPc
  readBuffer : List Byte
  inbound : List Byte
  sent : Nat
  requests : Nat
  answers : Nat
  sendCap : Nat
  recvCap : Nat
  fullDuplex : Bool
  deriving DecidableEq, Repr

/-- No call in progress and nothing on either path; `readBuffer` holds what the first `Read`
left of the bytes behind the proxy's head. -/
def init (readBuffer : List Byte) (sendCap recvCap : Nat) (fullDuplex : Bool) : Sys :=
  ⟨none, .idle, .idle, readBuffer, [], 0, 0, 0, sendCap, recvCap, fullDuplex⟩

/-- The steps of the three parties. -/
inductive Label where
  /-- The frame reader calls `Read`. -/
  | readCall
  /-- `c.mu.Lock()` in `Read` succeeds. -/
  | readLock
  /-- `Read` with the lock: serve `readBuffer`, or enter `c.Conn.Read`. -/
  | readBody
  /-- `c.Conn.Read` returns what the server sent; `Read` returns and unlocks. -/
  | readReturn
  /-- A frame writer calls `Write`. -/
  | writeCall
  /-- `c.mu.Lock()` in `Write` succeeds. -/
  | writeLock
  /-- `c.Conn.Write` hands the frame to a path with room; `Write` returns and unlocks. -/
  | writeReturn
  /-- The server takes a frame sent to it. -/
  | serverRecv
  /-- The server answers a request it took, when the path back has room. -/
  | serverSend (reply : List Byte)
  deriving DecidableEq, Repr

/-- One step, `none` when it is not enabled. -/
def step (s : Sys) : Label → Option Sys
  | .readCall => if s.reader = .idle then some { s with reader := .locking } else none
  | .readLock =>
    if s.reader = .locking ∧ s.mu = none then some { s with reader := .locked, mu := some .reader }
    else none
  | .readBody =>
    if s.reader = .locked then
      if 0 < s.readBuffer.length then some { s with reader := .idle, mu := none, readBuffer := [] }
      else some { s with reader := .inConnRead }
    else none
  | .readReturn =>
    if s.reader = .inConnRead ∧ 0 < s.inbound.length then
      some { s with reader := .idle, mu := none, inbound := [] }
    else none
  | .writeCall => if s.writer = .idle then some { s with writer := .locking } else none
  | .writeLock =>
    if s.writer = .locking ∧ s.mu = none then some { s with writer := .inConnWrite, mu := some .writer }
    else none
  | .writeReturn =>
    if s.writer = .inConnWrite ∧ s.sent < s.sendCap then
      some { s with writer := .idle, mu := none, sent := s.sent + 1 }
    else none
  | .serverRecv =>
    if 0 < s.sent ∧ (s.fullDuplex ∨ s.answers = s.requests) then
      some { s with sent := s.sent - 1, requests := s.requests + 1 }
    else none
  | .serverSend reply =>
    if s.answers < s.requests ∧ 0 < reply.length ∧ s.inbound.length + reply.length ≤ s.recvCap then
      some { s with inbound := s.inbound ++ reply, answers := s.answers + 1 }
    else none

/-- The states the system reaches from an `init` with paths that hold something, in any
interleaving. -/
inductive Reachable : Sys → Prop where
  | init (readBuffer : List Byte) (sendCap recvCap : Nat) (fullDuplex : Bool) :
    0 < sendCap → 0 < recvCap → Reachable (init readBuffer sendCap recvCap fullDuplex)
  | step {s s' : Sys} (l : Label) : Reachable s → step s l = some s' → Reachable s'

/-- Steps one after another. -/
def run : Sys → List Label → Option Sys
  | s, [] => some s
  | s, l :: ls => (step s l).bind (run · ls)

theorem run_reachable : ∀ {s s' : Sys} {ls : List Label}, Reachable s → run s ls = some s' →
    Reachable s'
  | _, _, [], hs, h => by cases h; exact hs
  | s, _, l :: ls, hs, h => by
    cases hl : step s l with
    | none => simp [run, hl] at h
    | some s₁ => exact run_reachable (hs.step l hl) (by simpa [run, hl] using h)

/-- A `Write` waits for `c.mu` while the goroutine holding it is blocked in `c.Conn.Read`. -/
def WriteWaitsOnRead (s : Sys) : Prop :=
  s.writer = .locking ∧ s.mu = some .reader ∧ s.reader = .inConnRead ∧ s.inbound = []

/-- A `Read` waits for `c.mu` while the goroutine holding it is blocked in `c.Conn.Write`,
the path to the server being full. -/
def ReadWaitsOnWrite (s : Sys) : Prop :=
  s.reader = .locking ∧ s.mu = some .writer ∧ s.writer = .inConnWrite ∧ s.sendCap ≤ s.sent

/-- **The request write waits behind the blocked read.** After the frame reader entered
`c.Conn.Read` on an idle connection, a `Write` of the next request waits for `c.mu`; the
server has nothing to answer, so no party can take a step: the connection is deadlocked. -/
theorem reachable_write_waits_on_read :
    ∃ s, Reachable s ∧ WriteWaitsOnRead s ∧ ∀ l, step s l = none := by
  have hrun : run (init [] 1 1 true) [.readCall, .readLock, .readBody, .writeCall] =
      some ⟨some .reader, .inConnRead, .locking, [], [], 0, 0, 0, 1, 1, true⟩ := rfl
  refine ⟨_, run_reachable (.init [] 1 1 true (by decide) (by decide)) hrun, ⟨rfl, rfl, rfl, rfl⟩,
    fun l => ?_⟩
  cases l <;> simp [step]

/-! ## Mutual exclusion, and the two deadlocks -/

/-- `c.mu` is held exactly by the goroutine inside its critical section, the server has
answered only requests it took, and neither path holds more than it can. -/
structure Inv (s : Sys) : Prop where
  reader_holds : s.mu = some .reader ↔ (s.reader = .locked ∨ s.reader = .inConnRead)
  writer_holds : s.mu = some .writer ↔ s.writer = .inConnWrite
  answered : s.answers ≤ s.requests
  sent_le : s.sent ≤ s.sendCap
  inbound_le : s.inbound.length ≤ s.recvCap
  sendCap_pos : 0 < s.sendCap
  recvCap_pos : 0 < s.recvCap

theorem Inv.init (readBuffer : List Byte) (sendCap recvCap : Nat) (fullDuplex : Bool)
    (hs : 0 < sendCap) (hr : 0 < recvCap) : Inv (init readBuffer sendCap recvCap fullDuplex) :=
  ⟨by simp [SpeculativeLock.init], by simp [SpeculativeLock.init], le_rfl, Nat.zero_le _,
    Nat.zero_le _, hs, hr⟩

theorem Inv.step {s s' : Sys} (h : Inv s) (l : Label) (hs : step s l = some s') : Inv s' := by
  obtain ⟨hr, hw, ha, hsent, hin, hsc, hrc⟩ := h
  cases l <;> simp only [SpeculativeLock.step] at hs <;> split_ifs at hs with hg <;> cases hs
  all_goals refine ⟨?_, ?_, ?_, ?_, ?_, hsc, hrc⟩ <;> simp_all <;> omega

theorem Reachable.inv {s : Sys} (h : Reachable s) : Inv s := by
  induction h with
  | init rb sc rc fd hs hr => exact .init rb sc rc fd hs hr
  | step l _ hs ih => exact ih.step l hs

/-- **`c.mu` excludes.** In every state any interleaving reaches, `Write` is never inside
`c.Conn.Write` while `Read` is past its `c.mu.Lock()`. -/
theorem reachable_mutex {s : Sys} (h : Reachable s) :
    ¬ ((s.reader = .locked ∨ s.reader = .inConnRead) ∧ s.writer = .inConnWrite) := by
  rintro ⟨hr, hw⟩
  have := h.inv.reader_holds.2 hr
  rw [h.inv.writer_holds.2 hw] at this
  cases this

/-- The reader blocked in `c.Conn.Read` while a `Write` waits: only the reader is in its
critical section. -/
theorem reachable_mutex_blocked :
    Reachable ⟨some .reader, .inConnRead, .locking, [], [], 0, 0, 0, 1, 1, true⟩ ∧
      ¬ ((ReaderPc.inConnRead = .locked ∨ ReaderPc.inConnRead = .inConnRead) ∧
        WriterPc.locking = .inConnWrite) :=
  ⟨@run_reachable _ _ [.readCall, .readLock, .readBody, .writeCall]
      (.init [] 1 1 true (by decide) (by decide)) rfl,
    reachable_mutex (@run_reachable _ _ [.readCall, .readLock, .readBody, .writeCall]
      (.init [] 1 1 true (by decide) (by decide)) rfl)⟩

/-- With no lock held, a goroutine can always take it or call. -/
theorem step_free {s : Sys} (hi : Inv s) (hmu : s.mu = none) : ∃ l, step s l ≠ none := by
  have hr : s.reader ≠ .locked ∧ s.reader ≠ .inConnRead := by
    simpa [hmu, not_or] using hi.reader_holds
  cases hrd : s.reader
  · exact ⟨.readCall, by simp [step, hrd]⟩
  · exact ⟨.readLock, by simp [step, hrd, hmu]⟩
  · exact absurd hrd hr.1
  · exact absurd hrd hr.2

/-- **Every deadlock is one of two.** In every state any interleaving reaches, no party can
take a step exactly when either the writer waits for `c.mu` while the reader holds it inside
`c.Conn.Read` with nothing to read, nothing in flight to the server and every request
answered; or the reader waits for `c.mu` while the writer holds it inside `c.Conn.Write` on
a full path, and a half-duplex server holds an answer that the full path back does not take. -/
theorem reachable_stuck_iff {s : Sys} (h : Reachable s) :
    (∀ l, step s l = none) ↔
      (WriteWaitsOnRead s ∧ s.sent = 0 ∧ s.answers = s.requests) ∨
        (ReadWaitsOnWrite s ∧ s.fullDuplex = false ∧ s.answers < s.requests ∧
          s.recvCap ≤ s.inbound.length) := by
  obtain ⟨hr, hw, ha, -, -, hsc, hrc⟩ := h.inv
  constructor
  · intro hall
    have h1 := hall .readCall
    have h2 := hall .readBody
    have h3 := hall .writeCall
    have h4 := hall .writeReturn
    have h6 := hall .readReturn
    have h7 := hall .serverRecv
    have h8 := hall (.serverSend [0])
    simp only [step, ite_eq_right_iff, reduceCtorEq, imp_false, List.length_singleton]
      at h1 h2 h3 h4 h6 h7 h8
    rcases hm : s.mu with _ | _ | _
    · obtain ⟨l, hl⟩ := step_free h.inv hm
      exact absurd (hall l) hl
    · -- the reader holds the lock: it is blocked in `c.Conn.Read`
      have hrd : s.reader = .inConnRead :=
        (hr.1 hm).resolve_left fun hl => by have := h2 hl; split at this <;> cases this
      have hwl : s.writer = .locking := by
        cases hwr : s.writer <;> simp_all
      have hin : s.inbound = [] := List.eq_nil_of_length_eq_zero (by simpa [hrd] using h6)
      simp only [hin, List.length_nil, zero_add] at h8
      have hans : s.answers = s.requests := by omega
      have hsent : s.sent = 0 := Nat.eq_zero_of_not_pos fun hpos => h7 ⟨hpos, .inr hans⟩
      exact .inl ⟨⟨hwl, hm, hrd, hin⟩, hsent, hans⟩
    · -- the writer holds the lock: it is blocked in `c.Conn.Write`
      have hwc : s.writer = .inConnWrite := hw.1 hm
      have hrl : s.reader = .locking := by
        cases hrd : s.reader <;> simp_all
      have hfull : s.sendCap ≤ s.sent := by simpa [hwc] using h4
      simp only [show 0 < s.sent by omega, true_and, not_or, Bool.not_eq_true] at h7
      have hans : s.answers < s.requests := lt_of_le_of_ne ha h7.2
      exact .inr ⟨⟨hrl, hm, hwc, hfull⟩, h7.1, hans, by omega⟩
  · rintro (⟨⟨hwl, hmu, hrd, hin⟩, hsent, hans⟩ | ⟨⟨hrl, hmu, hwc, hfull⟩, hfd, hans, hrcv⟩) l
    · cases l <;> simp [step, hwl, hmu, hrd, hin, hsent, hans]
    · cases l <;> simp [step, hrl, hmu, hwc, hfd, hans.ne] <;> omega

/-- The blocked read, and its mirror behind a half-duplex server whose answer fills a path
back of one byte: both states are stuck, and they are the two deadlocks. -/
theorem reachable_stuck_blocked :
    (Reachable ⟨some .reader, .inConnRead, .locking, [], [], 0, 0, 0, 1, 1, true⟩ ∧
      ((∀ l, step ⟨some .reader, .inConnRead, .locking, [], [], 0, 0, 0, 1, 1, true⟩ l = none) ↔
        (WriteWaitsOnRead ⟨some .reader, .inConnRead, .locking, [], [], 0, 0, 0, 1, 1, true⟩ ∧
            0 = 0 ∧ 0 = 0) ∨
          (ReadWaitsOnWrite ⟨some .reader, .inConnRead, .locking, [], [], 0, 0, 0, 1, 1, true⟩ ∧
            true = false ∧ 0 < 0 ∧ 1 ≤ 0))) ∧
    (Reachable ⟨some .writer, .locking, .inConnWrite, [], [0], 1, 2, 1, 1, 1, false⟩ ∧
      ((∀ l, step ⟨some .writer, .locking, .inConnWrite, [], [0], 1, 2, 1, 1, 1, false⟩ l = none) ↔
        (WriteWaitsOnRead ⟨some .writer, .locking, .inConnWrite, [], [0], 1, 2, 1, 1, 1, false⟩ ∧
            1 = 0 ∧ 1 = 2) ∨
          (ReadWaitsOnWrite ⟨some .writer, .locking, .inConnWrite, [], [0], 1, 2, 1, 1, 1, false⟩ ∧
            false = false ∧ 1 < 2 ∧ 1 ≤ [0].length))) :=
  ⟨⟨@run_reachable _ _ [.readCall, .readLock, .readBody, .writeCall]
      (.init [] 1 1 true (by decide) (by decide)) rfl,
    reachable_stuck_iff (@run_reachable _ _ [.readCall, .readLock, .readBody, .writeCall]
      (.init [] 1 1 true (by decide) (by decide)) rfl)⟩,
   ⟨@run_reachable _ _ [.writeCall, .writeLock, .writeReturn, .serverRecv, .serverSend [0],
        .writeCall, .writeLock, .writeReturn, .serverRecv, .writeCall, .writeLock, .writeReturn,
        .writeCall, .writeLock, .readCall]
      (.init [] 1 1 false (by decide) (by decide)) rfl,
    reachable_stuck_iff (@run_reachable _ _ [.writeCall, .writeLock, .writeReturn, .serverRecv, .serverSend [0],
        .writeCall, .writeLock, .writeReturn, .serverRecv, .writeCall, .writeLock, .writeReturn,
        .writeCall, .writeLock, .readCall]
      (.init [] 1 1 false (by decide) (by decide)) rfl)⟩⟩

end SpeculativeLock
end HttpCloak.Transport
