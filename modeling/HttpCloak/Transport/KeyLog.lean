import Mathlib.Data.List.Basic

/-!
# The global TLS key-log writer

`keylog.go`. The package keeps one `io.Writer` in `globalKeyLogWriter`. `initKeyLogFromEnv`
opens `$SSLKEYLOGFILE` once; `SetKeyLogFile`, `SetKeyLogWriter` and `CloseKeyLog` first close
the installed writer whenever it implements `io.Closer`, whoever opened it.

`Globals` adds two ghost fields: how many files the package has opened (file `n` is the
`n`-th) and the writers it has closed. `Owned` says the package closed only its own files and
never the installed writer; `Owned.run` shows every run keeps it while callers install no
`io.Closer` (`owned_run_zero` from the start), and `setKeyLogWriter_closes_caller_writer` a
run with one that breaks it.
`noLeak_run` shows the other side of those closes: once `init` has run, no file the package
opened is ever dropped without being closed.
-/

namespace HttpCloak.Transport
namespace KeyLog

/-- A writer the package can hold. -/
inductive Writer where
  /-- The `*os.File` from the package's `n`-th `os.OpenFile`. -/
  | file (n : Nat)
  /-- A writer a caller passed to `SetKeyLogWriter`, which may implement `io.Closer`. -/
  | caller (id : Nat) (isCloser : Bool)
  deriving DecidableEq, Repr

/-- Whether the writer implements `io.Closer`. -/
def Writer.isCloser : Writer → Bool
  | .file _ => true
  | .caller _ c => c

/-- The package variables, and the ghost fields `opened` and `closed`. -/
structure Globals where
  globalKeyLogWriter : Option Writer
  keyLogInitialized : Bool
  opened : Nat
  closed : List Writer
  deriving DecidableEq, Repr

/-- Before `init`. -/
def Globals.zero : Globals := ⟨none, false, 0, []⟩

/-- `if closer, ok := globalKeyLogWriter.(io.Closer); ok { closer.Close() }`. -/
def closeIfCloser (g : Globals) : Globals :=
  match g.globalKeyLogWriter with
  | some w => if w.isCloser then { g with closed := w :: g.closed } else g
  | none => g

/-- `globalKeyLogWriter = f` after a successful `os.OpenFile`. -/
def installOpened (g : Globals) : Globals :=
  { g with globalKeyLogWriter := some (.file g.opened), opened := g.opened + 1 }

/-- `initKeyLogFromEnv()`, with the value of `SSLKEYLOGFILE` and the error `os.OpenFile`
returns. -/
def initKeyLogFromEnv (g : Globals) (sslKeyLogFile : String) (openErr : Option String) :
    Globals :=
  if g.keyLogInitialized then g
  else
    let g := { g with keyLogInitialized := true }
    if sslKeyLogFile = "" then g
    else
      match openErr with
      | some _ => g
      | none => installOpened g

/-- `GetKeyLogWriter()`. -/
def getKeyLogWriter (g : Globals) : Option Writer := g.globalKeyLogWriter

/-- `SetKeyLogFile(path)`, with the error `os.OpenFile` returns. -/
def setKeyLogFile (g : Globals) (path : String) (openErr : Option String) :
    Option String × Globals :=
  let g := { closeIfCloser g with globalKeyLogWriter := none }
  if path = "" then (none, g)
  else
    match openErr with
    | some err => (some err, g)
    | none => (none, installOpened g)

/-- `SetKeyLogWriter(w)`; `none` is a nil writer. -/
def setKeyLogWriter (g : Globals) (w : Option Writer) : Globals :=
  { closeIfCloser g with globalKeyLogWriter := w }

/-- `CloseKeyLog()`, with the error the writer's `Close` returns. -/
def closeKeyLog (g : Globals) (closeErr : Option String) : Option String × Globals :=
  match g.globalKeyLogWriter with
  | some w =>
    if w.isCloser then (closeErr, { g with globalKeyLogWriter := none, closed := w :: g.closed })
    else (none, { g with globalKeyLogWriter := none })
  | none => (none, { g with globalKeyLogWriter := none })

theorem closeKeyLog_state (g : Globals) (closeErr : Option String) :
    (closeKeyLog g closeErr).2 = { closeIfCloser g with globalKeyLogWriter := none } := by
  unfold closeKeyLog closeIfCloser
  split <;> [split; rfl] <;> rfl

/-- A call of the package's API, with the outcomes of the system calls it makes. -/
inductive Call where
  | initKeyLogFromEnv (sslKeyLogFile : String) (openErr : Option String)
  | setKeyLogFile (path : String) (openErr : Option String)
  | setKeyLogWriter (w : Option Writer)
  | closeKeyLog (closeErr : Option String)
  deriving DecidableEq, Repr

/-- The package variables after a call. -/
def step (g : Globals) : Call → Globals
  | .initKeyLogFromEnv p e => initKeyLogFromEnv g p e
  | .setKeyLogFile p e => (setKeyLogFile g p e).2
  | .setKeyLogWriter w => setKeyLogWriter g w
  | .closeKeyLog e => (closeKeyLog g e).2

/-- Calls one after another. -/
def run (g : Globals) (calls : List Call) : Globals := calls.foldl step g

/-! ## What the package closes -/

/-- Every writer the package closed is a file it opened. -/
def ClosedOwn (g : Globals) : Prop := ∀ w ∈ g.closed, ∃ n < g.opened, w = .file n

/-- The package closed only its own files, and never the installed writer; an installed
`io.Closer` is a file the package opened. -/
structure Owned (g : Globals) : Prop where
  closedOwn : ClosedOwn g
  /-- The installed writer is not closed. -/
  live : ∀ w, g.globalKeyLogWriter = some w → w ∉ g.closed
  /-- The installed writer is the package's own file, or no `io.Closer`. -/
  own : ∀ w, g.globalKeyLogWriter = some w → w.isCloser → ∃ n < g.opened, w = .file n

theorem Owned.zero : Owned .zero :=
  ⟨fun _ h => (List.not_mem_nil _ h).elim, fun _ h => (by cases h), fun _ h => (by cases h)⟩

theorem Owned.closeIfCloser {g : Globals} (h : Owned g) : ClosedOwn (closeIfCloser g) := by
  unfold KeyLog.closeIfCloser
  split
  · rename_i w hw
    split
    · intro v hv
      rcases List.mem_cons.mp hv with rfl | hv
      · exact h.own v hw ‹_›
      · exact h.closedOwn v hv
    · exact h.closedOwn
  · exact h.closedOwn

theorem ClosedOwn.installOpened {g : Globals} (h : ClosedOwn g) : Owned (installOpened g) := by
  refine ⟨fun w hw => ?_, ?_, ?_⟩
  · obtain ⟨n, hn, rfl⟩ := h w hw; exact ⟨n, by simp only [KeyLog.installOpened]; omega, rfl⟩
  · rintro w ⟨⟩ hw
    obtain ⟨n, hn, hwn⟩ := h _ hw
    cases hwn; exact Nat.lt_irrefl _ hn
  · rintro w ⟨⟩ -; exact ⟨_, Nat.lt_succ_self _, rfl⟩

theorem ClosedOwn.install {g : Globals} (h : ClosedOwn g) {w : Option Writer}
    (hw : ∀ v, w = some v → v.isCloser = false) : Owned { g with globalKeyLogWriter := w } := by
  refine ⟨h, fun v hv hc => ?_, fun v hv hc => ?_⟩ <;> have := hw v hv
  · obtain ⟨n, -, rfl⟩ := h v hc; cases this
  · simp_all

/-- Every call that installs no `io.Closer` of a caller keeps `Owned`. -/
theorem Owned.step {g : Globals} (h : Owned g) (c : Call)
    (hc : ∀ w, c = .setKeyLogWriter (some w) → w.isCloser = false) : Owned (KeyLog.step g c) := by
  cases c with
  | initKeyLogFromEnv p e =>
    show Owned (initKeyLogFromEnv g p e)
    unfold initKeyLogFromEnv
    split
    · exact h
    · split
      · exact ⟨h.1, h.2, h.3⟩
      · split
        · exact ⟨h.1, h.2, h.3⟩
        · exact ClosedOwn.installOpened (g := { g with keyLogInitialized := true }) h.1
  | setKeyLogFile p e =>
    show Owned (setKeyLogFile g p e).2
    unfold setKeyLogFile
    have := h.closeIfCloser.install (w := none) (by simp)
    split
    · exact this
    · split
      · exact this
      · exact ClosedOwn.installOpened h.closeIfCloser
  | setKeyLogWriter w => exact h.closeIfCloser.install fun v hv => hc v (by rw [hv])
  | closeKeyLog e =>
    show Owned (closeKeyLog g e).2
    rw [closeKeyLog_state]
    exact h.closeIfCloser.install (by simp)

/-- Runs in which callers install no `io.Closer` keep `Owned`. -/
theorem Owned.run {g : Globals} (h : Owned g) :
    ∀ calls : List Call, (∀ w, .setKeyLogWriter (some w) ∈ calls → w.isCloser = false) →
      Owned (KeyLog.run g calls)
  | [], _ => h
  | c :: cs, hc =>
    (h.step c fun w hw => hc w (hw ▸ List.mem_cons_self _ _)).run cs
      fun w hw => hc w (List.mem_cons_of_mem _ hw)

/-- **Without a caller's `io.Closer`, the package closes only its own files.** From the
package's zero state, over every run in which callers install no writer that implements
`io.Closer`, every writer the package closed is a file it opened, and the installed writer has
not been closed. -/
theorem owned_run_zero (calls : List Call)
    (hc : ∀ w, .setKeyLogWriter (some w) ∈ calls → w.isCloser = false) :
    Owned (run .zero calls) :=
  Owned.zero.run calls hc

/-- A file from `SSLKEYLOGFILE`, replaced by a caller's plain writer, then by another file,
then closed. -/
theorem owned_run_zero_replaced :
    (∀ w, Call.setKeyLogWriter (some w) ∈ [.initKeyLogFromEnv "keys.log" none,
        .setKeyLogWriter (some (.caller 0 false)), .setKeyLogFile "more.log" none,
        .closeKeyLog none] → w.isCloser = false) ∧
      Owned (run .zero [.initKeyLogFromEnv "keys.log" none,
        .setKeyLogWriter (some (.caller 0 false)), .setKeyLogFile "more.log" none,
        .closeKeyLog none]) := by
  have hc : ∀ w, Call.setKeyLogWriter (some w) ∈ [.initKeyLogFromEnv "keys.log" none,
      .setKeyLogWriter (some (.caller 0 false)), .setKeyLogFile "more.log" none,
      .closeKeyLog none] → w.isCloser = false := fun w hw => by simp at hw; rw [hw]; rfl
  exact ⟨hc, owned_run_zero _ hc⟩

/-- A caller's writer that implements `io.Closer`, installed twice after `init` found no
`SSLKEYLOGFILE`. -/
def installTwice : List Call :=
  [.initKeyLogFromEnv "" none, .setKeyLogWriter (some (.caller 0 true)),
    .setKeyLogWriter (some (.caller 0 true))]

/-- **The package closes a caller's writer and keeps serving it.** `SetKeyLogWriter(w)` twice
with the same caller-supplied `io.Closer`: the second call closes `w`, which the package did
not open, and installs it again, so `GetKeyLogWriter` returns the closed `w`. -/
theorem setKeyLogWriter_closes_caller_writer :
    (run .zero installTwice).closed = [.caller 0 true] ∧
      getKeyLogWriter (run .zero installTwice) = some (.caller 0 true) :=
  ⟨rfl, rfl⟩

/-! ## No file is dropped open -/

/-- After `init`, every file the package opened is installed or closed. -/
structure NoLeak (g : Globals) : Prop where
  initialized : g.keyLogInitialized = true
  held : ∀ n < g.opened, g.globalKeyLogWriter = some (.file n) ∨ Writer.file n ∈ g.closed

theorem closeIfCloser_fields (g : Globals) :
    (closeIfCloser g).keyLogInitialized = g.keyLogInitialized ∧
      (closeIfCloser g).opened = g.opened := by
  unfold KeyLog.closeIfCloser
  split <;> [split; skip] <;> exact ⟨rfl, rfl⟩

/-- Closing the installed writer closes every file the package opened. -/
theorem NoLeak.closeIfCloser {g : Globals} (h : NoLeak g) :
    ∀ n < g.opened, Writer.file n ∈ (closeIfCloser g).closed := by
  intro n hn
  unfold KeyLog.closeIfCloser
  rcases h.held n hn with hw | hc
  · simp [hw, Writer.isCloser]
  · split <;> [split; skip] <;> simp [hc]

/-- Once every opened file is closed, any writer may be installed, and so may a new file. -/
theorem noLeak_install {g : Globals} (hi : g.keyLogInitialized = true)
    (hc : ∀ n < g.opened, Writer.file n ∈ g.closed) :
    (∀ w, NoLeak { g with globalKeyLogWriter := w }) ∧ NoLeak (installOpened g) := by
  refine ⟨fun w => ⟨hi, fun n hn => .inr (hc n hn)⟩, hi, fun n hn => ?_⟩
  rcases Nat.lt_succ_iff_lt_or_eq.1 hn with hn | rfl
  · exact .inr (hc n hn)
  · exact .inl rfl

/-- The step lemma: after `init`, every call keeps `NoLeak`. -/
theorem NoLeak.step {g : Globals} (h : NoLeak g) (c : Call) : NoLeak (KeyLog.step g c) := by
  obtain ⟨hi, ho⟩ := closeIfCloser_fields g
  have hclosed := noLeak_install (hi.trans h.initialized) fun n hn => h.closeIfCloser n (ho ▸ hn)
  cases c with
  | initKeyLogFromEnv p e =>
    show NoLeak (initKeyLogFromEnv g p e)
    rwa [initKeyLogFromEnv, if_pos h.initialized]
  | setKeyLogFile p e =>
    show NoLeak (setKeyLogFile g p e).2
    unfold setKeyLogFile
    split
    · exact hclosed.1 none
    · split
      · exact hclosed.1 none
      · exact hclosed.2
  | setKeyLogWriter w => exact hclosed.1 w
  | closeKeyLog e =>
    show NoLeak (closeKeyLog g e).2
    rw [closeKeyLog_state]
    exact hclosed.1 none

/-- The run lemma. -/
theorem NoLeak.run {g : Globals} (h : NoLeak g) : ∀ calls : List Call, NoLeak (KeyLog.run g calls)
  | [] => h
  | c :: cs => (h.step c).run cs

/-- **No key-log file is dropped open.** Go runs `init`, and so `initKeyLogFromEnv`, before
any other call of the package: after every run that starts so, with any `SSLKEYLOGFILE`, any
calls and any outcomes of their system calls, every file the package opened is the installed
writer or has been closed. -/
theorem noLeak_run (sslKeyLogFile : String) (openErr : Option String) (calls : List Call) :
    NoLeak (run .zero (.initKeyLogFromEnv sslKeyLogFile openErr :: calls)) := by
  have hi := noLeak_install (g := { Globals.zero with keyLogInitialized := true }) rfl
    fun n hn => absurd hn (Nat.not_lt_zero n)
  have h₀ : NoLeak (initKeyLogFromEnv .zero sslKeyLogFile openErr) := by
    unfold initKeyLogFromEnv
    split
    · contradiction
    · split
      · exact hi.1 none
      · split
        · exact hi.1 none
        · exact hi.2
  exact h₀.run calls

end KeyLog
end HttpCloak.Transport
