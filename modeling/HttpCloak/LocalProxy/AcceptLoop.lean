import Mathlib.Algebra.Group.Int
import Mathlib.Data.List.Basic

/-!
# The connection limit of `LocalProxy.acceptLoop`

`local_proxy.go`. The accept loop is the only goroutine that increments `activeConns`: after
`Accept` returns a connection it loads the counter, closes the connection when the value is
at least `maxConnections`, and otherwise adds one and starts the handler goroutine, whose
deferred `p.activeConns.Add(-1)` runs when `handleConnection` returns.

The loop's load and its add are separate atomic steps, and handlers exit in between, so the
state records where the loop is (`LoopPc`) and the value it loaded. `handlers` is a ghost
list of the accepted connections whose handler has not exited. `activeConns` is an
`atomic.Int64`; `wrap64` is its wrapping arithmetic and `maxConnections` a Go `int`.

`Inv.step` shows every event keeps the invariant, and `activeConns_eq_handlers` that every
reachable state has `activeConns` equal to the number of running handlers and at most
`max(maxConnections, 0)`.
-/

namespace HttpCloak.AcceptLoop

/-- `int64` addition as `atomic.Int64.Add` performs it: two's complement, wrapping. -/
def wrap64 (x : Int) : Int := Int.bmod x (2 ^ 64)

theorem wrap64_of_range {x : Int} (h1 : -2 ^ 63 ≤ x) (h2 : x < 2 ^ 63) : wrap64 x = x := by
  unfold wrap64; rw [Int.bmod_def]; split <;> omega

/-- A Go `int` on a 64-bit platform; `int64(p.maxConnections)` is the same value. -/
abbrev GoInt := { x : Int // -2 ^ 63 ≤ x ∧ x < 2 ^ 63 }

/-- Where `acceptLoop` is. -/
inductive LoopPc where
  /-- Waiting in `p.listener.Accept()`. -/
  | accepting
  /-- `Accept` returned the connection `conn`. -/
  | accepted (conn : Nat)
  /-- `p.activeConns.Load()` returned `active`. -/
  | loaded (conn : Nat) (active : Int)
  /-- Returned after an `Accept` error during shutdown. -/
  | stopped
  deriving DecidableEq, Repr

/-- The fields of `LocalProxy` the accept loop and the handlers touch, with two ghost fields:
the connections whose handler has not exited, and how many connections were accepted. -/
structure LocalProxy where
  maxConnections : GoInt
  activeConns : Int
  shuttingDown : Bool
  loop : LoopPc
  handlers : List Nat
  accepted : Nat

/-- The proxy `start` leaves behind: no connection yet, the loop in `Accept`. -/
def started (maxConnections : GoInt) : LocalProxy :=
  ⟨maxConnections, 0, false, .accepting, [], 0⟩

/-- What can happen next. -/
inductive Event where
  /-- `Accept` returns a new connection. -/
  | accept
  /-- `Accept` returns an error: the loop returns during shutdown and continues otherwise. -/
  | acceptError
  /-- The limit check loads `activeConns`. -/
  | load
  /-- The loaded value is compared with the limit: the connection is closed, or counted and
  handed to a new handler goroutine. -/
  | check
  /-- The handler of `conn` returns: `p.activeConns.Add(-1)`, then `p.wg.Done()`. -/
  | exit (conn : Nat)
  /-- `Stop` sets `shuttingDown`. -/
  | stop
  deriving DecidableEq, Repr

/-- One event, `none` when it cannot happen. -/
def step (p : LocalProxy) : Event → Option LocalProxy
  | .accept =>
    match p.loop with
    | .accepting => some { p with loop := .accepted p.accepted, accepted := p.accepted + 1 }
    | _ => none
  | .acceptError =>
    match p.loop with
    | .accepting => some { p with loop := if p.shuttingDown then .stopped else .accepting }
    | _ => none
  | .load =>
    match p.loop with
    | .accepted conn => some { p with loop := .loaded conn p.activeConns }
    | _ => none
  | .check =>
    match p.loop with
    | .loaded conn active =>
      if p.maxConnections.val ≤ active then some { p with loop := .accepting }
      else
        some { p with loop := .accepting, activeConns := wrap64 (p.activeConns + 1),
                      handlers := conn :: p.handlers }
    | _ => none
  | .exit conn =>
    if conn ∈ p.handlers then
      some { p with activeConns := wrap64 (p.activeConns - 1), handlers := p.handlers.erase conn }
    else none
  | .stop => some { p with shuttingDown := true }

/-- The states reachable from `started m` through any interleaving of events. -/
inductive Reachable (m : GoInt) : LocalProxy → Prop where
  | init : Reachable m (started m)
  | step {p p' : LocalProxy} (e : Event) : Reachable m p → step p e = some p' → Reachable m p'

/-- The counter is the number of running handlers, within the limit; a value the loop has
loaded is still at least the counter. -/
structure Inv (m : GoInt) (p : LocalProxy) : Prop where
  config : p.maxConnections = m
  counts : p.activeConns = p.handlers.length
  bound : (p.handlers.length : Int) ≤ max m.val 0
  loaded : ∀ conn active, p.loop = .loaded conn active → p.activeConns ≤ active

theorem Inv.init (m : GoInt) : Inv m (started m) :=
  ⟨rfl, rfl, Int.le_max_right m.val 0, fun _ _ h => by cases h⟩

/-- Every event keeps the invariant. -/
theorem Inv.step {m : GoInt} {p p' : LocalProxy} (h : Inv m p) (e : Event)
    (hs : AcceptLoop.step p e = some p') : Inv m p' := by
  obtain ⟨hm, hc, hb, hl⟩ := h
  have hrange := m.property
  cases e <;> simp only [AcceptLoop.step] at hs
  case accept => split at hs <;> cases hs; exact ⟨hm, hc, hb, fun _ _ h => by cases h⟩
  case acceptError =>
    split at hs <;> cases hs
    exact ⟨hm, hc, hb, fun _ _ h => by split at h <;> cases h⟩
  case load =>
    split at hs <;> cases hs
    exact ⟨hm, hc, hb, fun _ _ h => by cases h; exact Int.le_refl _⟩
  case check =>
    split at hs
    · rename_i conn active hloop
      have hle := hl conn active hloop
      split at hs <;> cases hs
      · exact ⟨hm, hc, hb, fun _ _ h => by cases h⟩
      · rename_i hlt
        rw [hm] at hlt
        have hlen : (p.handlers.length : Int) + 1 ≤ m.val := by omega
        refine ⟨hm, ?_, ?_, fun _ _ h => by cases h⟩ <;> dsimp only <;>
          simp only [List.length_cons]
        · rw [wrap64_of_range (by omega) (by omega), hc]; omega
        · omega
    · cases hs
  case exit conn =>
    split at hs
    · rename_i hmem
      cases hs
      have hpos := List.length_pos_of_mem hmem
      have herase := List.length_erase_of_mem hmem
      have hw : wrap64 (p.activeConns - 1) = p.activeConns - 1 :=
        wrap64_of_range (by omega) (by omega)
      refine ⟨hm, ?_, ?_, fun c a h => ?_⟩
      · show wrap64 (p.activeConns - 1) = ((p.handlers.erase conn).length : Int)
        rw [hw, herase, hc]; omega
      · show ((p.handlers.erase conn).length : Int) ≤ max m.val 0
        rw [herase]; omega
      · have := hl c a h
        show wrap64 (p.activeConns - 1) ≤ a
        rw [hw]; omega
    · cases hs
  case stop => cases hs; exact ⟨hm, hc, hb, hl⟩

theorem Reachable.inv {m : GoInt} {p : LocalProxy} (h : Reachable m p) : Inv m p := by
  induction h with
  | init => exact Inv.init m
  | step e _ hs ih => exact ih.step e hs

/-- **The connection counter.** In every state reachable through any interleaving of
accept-loop iterations and handler exits, `activeConns` is the number of accepted
connections whose handler has not exited, and it is at most `max(maxConnections, 0)`. -/
theorem activeConns_eq_handlers (m : GoInt) {p : LocalProxy} (h : Reachable m p) :
    p.activeConns = p.handlers.length ∧ p.activeConns ≤ max m.val 0 := by
  obtain ⟨-, hc, hb, -⟩ := h.inv
  exact ⟨hc, hc ▸ hb⟩

/-- With the default limit of 1000, the first connection is admitted and counted. -/
theorem activeConns_eq_handlers_first :
    (1 : Int) = [0].length ∧ (1 : Int) ≤ max 1000 0 :=
  activeConns_eq_handlers ⟨1000, by decide, by decide⟩
    (.step .check (.step .load (.step .accept .init rfl) rfl) rfl)

end HttpCloak.AcceptLoop
