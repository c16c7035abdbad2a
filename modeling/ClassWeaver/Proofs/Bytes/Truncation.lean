import ClassWeaver.Proofs.Bytes.Guarantees

/-!
# Where reading stops

A decoder that goes from the front to the back has read a value once it has taken the bytes of that value, whatever
stands behind them. A byte run that it uses up is told apart from its own beginnings: on each of them the decoder runs
out of bytes. Where it runs out is never behind the end of what it was given, so the offset of the failure can be
computed as a difference.

## Contents

* `Sequential` — decoders that go from the front to the back.
* `Sequential.bind`, `Sequential.map`, … — one lemma for each way to build a decoder.
* `Sequential.covers` — the same value in front of more bytes.
* `Sequential.error_of_prefix` — no value from a proper prefix of what was used up.
-/

namespace ClassWeaver.Bytes.Decoder

variable {α β : Type}

/-- A value is read of the bytes that are taken, and where the decoder gives up no more bytes are left than it was
given. -/
structure Sequential (d : Decoder α) : Prop where
  taken : ∀ {bytes rest x}, d bytes = .ok (x, rest) → ∃ taken, bytes = taken ++ rest ∧ Reads d taken x
  left_le : ∀ {bytes e}, d bytes = .error e → e.left ≤ bytes.length

/-! ## Building decoders -/

/-- A sequence fails in its first step, or in its second one on what the first one left. -/
theorem bind_eq_error {d : Decoder α} {f : α → Decoder β} {bytes : List UInt8} {e : Shortfall}
    (h : (d >>= f) bytes = .error e) :
    d bytes = .error e ∨ ∃ x middle, d bytes = .ok (x, middle) ∧ f x middle = .error e := by
  cases hd : d bytes with
  | ok p =>
    rw [bind_of_eq_ok hd] at h
    exact .inr ⟨p.1, p.2, rfl, h⟩
  | error e' =>
    rw [bind_of_eq_error hd] at h
    cases h
    exact .inl rfl

theorem sequential_pure (x : α) : Sequential (pure x) where
  taken h := by
    obtain ⟨rfl, rfl⟩ := pure_eq_ok.mp h
    exact ⟨[], rfl, Reads.pure _⟩
  left_le h := nomatch h

theorem sequential_stop : Sequential (stop : Decoder α) where
  taken h := nomatch h
  left_le h := by
    cases h
    exact Nat.le_refl _

theorem Sequential.bind {d : Decoder α} {f : α → Decoder β} (hd : Sequential d) (hf : ∀ x, Sequential (f x)) :
    Sequential (d >>= f) where
  taken h := by
    obtain ⟨x, middle, hx, hy⟩ := bind_eq_ok.mp h
    obtain ⟨taken, rfl, hreads⟩ := hd.taken hx
    obtain ⟨taken', rfl, hreads'⟩ := (hf x).taken hy
    exact ⟨taken ++ taken', (List.append_assoc ..).symm, hreads.bind hreads'⟩
  left_le h := by
    rcases bind_eq_error h with hd' | ⟨x, middle, hx, hf'⟩
    · exact hd.left_le hd'
    · -- the second step was given what the first one left
      obtain ⟨taken, rfl, -⟩ := hd.taken hx
      rw [List.length_append]
      exact Nat.le_add_left_of_le ((hf x).left_le hf')

theorem Sequential.map {d : Decoder α} (hd : Sequential d) (g : α → β) : Sequential (g <$> d) := by
  rw [map_eq_pure_bind]
  exact hd.bind fun x => sequential_pure (g x)

theorem sequential_u1 : Sequential u1 where
  taken {bytes rest x} h := ⟨[x], spelled_u1 bytes x rest h, reads_u1 x⟩
  left_le {bytes e} h := by
    cases bytes <;> cases h
    exact Nat.le_refl _

theorem sequential_u2 : Sequential u2 where
  taken {bytes rest x} h := ⟨u16 x, spelled_u2 bytes x rest h, reads_u2 x⟩
  left_le {bytes e} h := by
    unfold u2 at h
    split at h <;> cases h
    exact Nat.le_refl _

theorem sequential_u4 : Sequential u4 where
  taken {bytes rest x} h := ⟨u32 x, spelled_u4 bytes x rest h, reads_u4 x⟩
  left_le {bytes e} h := by
    unfold u4 at h
    split at h <;> cases h
    exact Nat.le_refl _

theorem sequential_i4 : Sequential i4 :=
  sequential_u4.bind fun _ => sequential_pure _

theorem sequential_u8 : Sequential u8 :=
  sequential_u4.bind fun _ => sequential_u4.bind fun _ => sequential_pure _

theorem sequential_run (n : Nat) : Sequential (run n) where
  taken h := by
    obtain ⟨hlen, hbytes⟩ := run_eq_ok h
    exact ⟨_, hbytes, reads_run hlen⟩
  left_le h := by
    simp only [run] at h
    split at h <;> cases h
    exact Nat.le_refl _

theorem sequential_sizedRun : Sequential sizedRun :=
  sequential_u4.bind fun n => sequential_run n.toNat

theorem Sequential.repeatedFrom {item : Decoder α} (h : Sequential item) (n : Nat) (read : List α) :
    Sequential (repeatedFrom item read n) := by
  induction n generalizing read with
  | zero => exact sequential_pure read.reverse
  | succ n ih =>
    rw [repeatedFrom_succ]
    exact h.bind fun x => ih (x :: read)

theorem Sequential.counted {item : Decoder α} (h : Sequential item) : Sequential (counted item) :=
  sequential_u2.bind fun n => h.repeatedFrom n.toNat []

/-! ## More bytes and fewer -/

section

variable {d : Decoder α}

/-- **More bytes** are left where they are. -/
theorem Sequential.covers (hd : Sequential d) : Covers d d := by
  intro bytes x rest h more
  obtain ⟨taken, rfl, hreads⟩ := hd.taken h
  rw [List.append_assoc]
  exact hreads (rest ++ more)

/-- **Fewer bytes** than were used up are too few. -/
theorem Sequential.error_of_prefix (hd : Sequential d) {bytes front : List UInt8} {x : α} (h : d bytes = .ok (x, []))
    (hfront : front <+: bytes) (hne : front ≠ bytes) : ∃ e, d front = .error e ∧ e.left ≤ front.length := by
  cases hd' : d front with
  | error e => exact ⟨e, rfl, hd.left_le hd'⟩
  | ok p =>
    -- a value read of the front would be read of the whole run too, with the missing bytes left over
    obtain ⟨missing, rfl⟩ := hfront
    have hwhole := hd.covers front p.1 p.2 hd' missing
    rw [h] at hwhole
    obtain ⟨-, hnil⟩ := Prod.mk.inj (Except.ok.inj hwhole)
    have hmissing : missing = [] := (List.append_eq_nil_iff.mp hnil.symm).2
    exact absurd (by rw [hmissing, List.append_nil]) hne

end

end ClassWeaver.Bytes.Decoder
