import Mathlib.Algebra.Order.Ring.Nat
import HttpCloak.Bytes

/-!
# Connections

A `net.Conn` as the code sees it: the bytes the peer has sent and nobody has read yet, in
the segments successive reads see (a read into a buffer of `n` bytes returns the first `n`
bytes of the first segment), and the bytes written to it so far. Every way a real
connection can cut a stream into read results is one such list of segments.
-/

namespace HttpCloak

/-- The errors of the underlying connection: the peer's stream is exhausted (`io.EOF`),
or a write failed. -/
inductive ConnError where
  | eof
  | reset
  deriving DecidableEq, Repr

/-- The text of a connection error, as `err.Error()` gives it. -/
def ConnError.text : ConnError → String
  | .eof => "EOF"
  | .reset => "connection reset by peer"

/-- The underlying `net.Conn`: unread inbound segments and every byte written. -/
structure Conn where
  inbound : List (List Byte)
  written : List Byte
  deriving DecidableEq, Repr

namespace Conn

/-- `c.Conn.Read(b)` with `len(b) = n`: the first `n` bytes of the first segment, or
`io.EOF` once the stream is exhausted. -/
def read (c : Conn) (n : Nat) : (List Byte × Option ConnError) × Conn :=
  match c.inbound with
  | [] => (([], some .eof), c)
  | seg :: rest =>
    ((seg.take n, none), { c with inbound := if n < seg.length then seg.drop n :: rest else rest })

/-- `c.Conn.Write(b)`: the network takes all of `b` (`fail = none`), or its first `k` bytes
and then fails (`fail = some k`). -/
def write (c : Conn) (b : List Byte) : Option Nat → (Nat × Option ConnError) × Conn
  | none => ((b.length, none), { c with written := c.written ++ b })
  | some k => (((b.take k).length, some .reset), { c with written := c.written ++ b.take k })

/-- The bytes the peer has sent that no read has returned yet. -/
def pending (c : Conn) : List Byte := c.inbound.flatten

/-- A measure that every read into a non-empty buffer lowers, unless it reports `io.EOF`. -/
def size (c : Conn) : Nat := (c.inbound.map (·.length + 1)).sum

/-- A read returns a prefix of the pending bytes and leaves the rest pending. -/
theorem read_pending (c : Conn) (n : Nat) : (c.read n).1.1 ++ (c.read n).2.pending = c.pending := by
  unfold read pending
  split
  · simp [*]
  · rename_i seg rest h
    rw [h]
    split
    · simp [← List.append_assoc]
    · simp [List.take_of_length_le (show seg.length ≤ n by omega)]

/-- A read that does not report `io.EOF` consumes from a non-empty stream. -/
theorem size_read_lt (c : Conn) {n : Nat} (hn : 0 < n) (h : (c.read n).1.2 = none) :
    (c.read n).2.size < c.size := by
  unfold read size at *
  split at *
  · simp at h
  · rename_i seg rest hin
    rw [hin]
    split <;> simp
    omega

/-- A read fails only with `io.EOF`, only on an exhausted stream, and then changes nothing. -/
theorem read_error (c : Conn) (n : Nat) {e : ConnError} (h : (c.read n).1.2 = some e) :
    e = .eof ∧ c.inbound = [] ∧ (c.read n).1.1 = [] ∧ (c.read n).2 = c := by
  unfold read at *
  split at * <;> simp_all

/-- A read into a buffer that holds the whole first segment returns it. -/
theorem read_whole {seg : List Byte} {rest : List (List Byte)} {written : List Byte} {n : Nat}
    (hn : seg.length ≤ n) : (Conn.mk (seg :: rest) written).read n = ((seg, none), ⟨rest, written⟩) := by
  simp [read, List.take_of_length_le hn, Nat.not_lt.mpr hn]

@[simp] theorem read_written (c : Conn) (n : Nat) : (c.read n).2.written = c.written := by
  unfold read; split <;> rfl

@[simp] theorem write_inbound (c : Conn) (b : List Byte) (f : Option Nat) :
    (c.write b f).2.inbound = c.inbound := by
  cases f <;> rfl

/-- The measure counts the pending bytes and the segments. -/
theorem size_eq (c : Conn) : c.size = c.pending.length + c.inbound.length := by
  unfold size pending
  induction c.inbound with
  | nil => rfl
  | cons seg rest ih => simp only [List.map_cons, List.sum_cons, ih, List.flatten_cons,
      List.length_append, List.length_cons]; omega

/-- A read returns at most as many bytes as the buffer holds. -/
theorem read_length_le (c : Conn) (n : Nat) : (c.read n).1.1.length ≤ n := by
  unfold read; split <;> simp

/-- A read leaves no more segments than it found. -/
theorem read_inbound_length (c : Conn) (n : Nat) :
    (c.read n).2.inbound.length ≤ c.inbound.length := by
  unfold read; split
  · exact le_rfl
  · rename_i hin; rw [hin]; split <;> simp

/-- Every read into a non-empty buffer returns at least one byte or an error: no inbound
segment is empty. -/
def Progressing (c : Conn) : Prop := ∀ seg ∈ c.inbound, seg ≠ []

instance (c : Conn) : Decidable c.Progressing :=
  inferInstanceAs (Decidable (∀ seg ∈ c.inbound, seg ≠ []))

/-- A read leaves a connection whose later reads still progress. -/
theorem Progressing.read {c : Conn} (h : c.Progressing) (n : Nat) : (c.read n).2.Progressing := by
  unfold Conn.read
  split
  · exact h
  · rename_i seg rest hin
    have hrest : ∀ s ∈ rest, s ≠ [] := fun s hs => h s (by simp [hin, hs])
    intro s hs
    split at hs
    · rcases List.mem_cons.1 hs with rfl | hs
      · exact List.ne_nil_of_length_pos (by simp; omega)
      · exact hrest s hs
    · exact hrest s hs

/-- A read into a non-empty buffer that reports no error returns a byte at least. -/
theorem Progressing.read_ne_nil {c : Conn} (h : c.Progressing) {n : Nat} (hn : 0 < n)
    (he : (c.read n).1.2 = none) : (c.read n).1.1 ≠ [] := by
  unfold Conn.read at *
  split at *
  · simp at he
  · rename_i seg rest hin
    have hseg := h seg (by simp [hin])
    simp only [ne_eq, List.take_eq_nil_iff, not_or]
    exact ⟨Nat.pos_iff_ne_zero.1 hn, hseg⟩

end Conn

end HttpCloak
