/-! Go expressions that can panic. -/
namespace RtcPlugin.Go

inductive Panic where
  | nilDereference
  | sliceBounds
  deriving DecidableEq, Repr

/-- The value of an expression, or the panic that ends the process. -/
abbrev Checked := Except Panic

/-- `*p` -/
def deref {α : Type} (p : Option α) : Checked α :=
  match p with
  | some v => .ok v
  | none => .error .nilDereference

/-- `s[:n]`, in bytes. -/
def slicePrefix (s : String) (n : Nat) : Checked (List UInt8) :=
  if n ≤ s.utf8ByteSize then .ok (s.toUTF8.toList.take n) else .error .sliceBounds

variable {α β : Type}

@[simp] theorem isOk_ok (v : α) : (Except.ok v : Checked α).isOk = true := rfl

@[simp] theorem isOk_error (p : Panic) : (Except.error p : Checked α).isOk = false := rfl

/-- Where what follows cannot panic, only the first expression can. -/
theorem isOk_bind {x : Checked α} {f : α → Checked β} (hf : ∀ v, (f v).isOk = true) : (x >>= f).isOk = x.isOk := by
  cases x with
  | ok v => exact hf v
  | error p => rfl

@[simp] theorem isOk_deref (p : Option α) : (deref p).isOk = p.isSome := by
  cases p <;> rfl

@[simp] theorem isOk_slicePrefix (s : String) (n : Nat) : (slicePrefix s n).isOk = decide (n ≤ s.utf8ByteSize) := by
  unfold slicePrefix
  split
  · next h => rw [decide_eq_true h, isOk_ok]
  · next h => rw [decide_eq_false h, isOk_error]

/-- A bound cut down to the length is in range. -/
theorem isOk_slicePrefix_min (s : String) (n : Nat) : (slicePrefix s (min n s.utf8ByteSize)).isOk = true := by
  rw [isOk_slicePrefix, decide_eq_true (Nat.min_le_right ..)]

end RtcPlugin.Go
