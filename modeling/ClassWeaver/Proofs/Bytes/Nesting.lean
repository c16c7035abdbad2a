import ClassWeaver.Proofs.Bytes.Truncation

/-!
# Decoders that call themselves

Where a value may hold values of its own kind, its decoder calls itself, and how often is bounded by a number that is
given to it. The number must not show in the answer. It does not when a call takes a byte before it goes on to the next
one: then the calls are nowhere deeper than there are bytes, and what is done below that depth does not matter. So two
decoders are compared on short runs only, and each call that is looked into makes the runs longer by a byte.

## Contents

* `AgreeBelow` — decoders with the same answers on short runs.
* `AgreeBelow.bind`, `AgreeBelow.ite`, `AgreeBelow.counted`, … — one lemma for each way to build a decoder.
* `AgreeBelow.behind` — a step that takes a byte.
-/

namespace ClassWeaver.Bytes.Decoder

variable {α β : Type}

/-- On runs of fewer than `n` bytes the decoders give the same answer, and leave no more bytes than they were given. -/
def AgreeBelow (n : Nat) (d e : Decoder α) : Prop :=
  ∀ bytes, bytes.length < n → d bytes = e bytes ∧ ∀ x rest, d bytes = .ok (x, rest) → rest.length ≤ bytes.length

variable {n : Nat} {d e : Decoder α}

theorem agreeBelow_zero : AgreeBelow 0 d e :=
  fun _ h => absurd h (Nat.not_lt_zero _)

theorem AgreeBelow.of_le {m : Nat} (h : AgreeBelow n d e) (hm : m ≤ n) : AgreeBelow m d e :=
  fun bytes hlt => h bytes (Nat.lt_of_lt_of_le hlt hm)

theorem Sequential.agreeBelow (h : Sequential d) : AgreeBelow n d d := by
  refine fun bytes _ => ⟨rfl, fun x rest hx => ?_⟩
  obtain ⟨taken, rfl, -⟩ := h.taken hx
  rw [List.length_append]
  exact Nat.le_add_left _ _

theorem AgreeBelow.ite {c : Prop} [Decidable c] {d' e' : Decoder α} (h : AgreeBelow n d e) (h' : AgreeBelow n d' e') :
    AgreeBelow n (if c then d else d') (if c then e else e') := by
  split
  · exact h
  · exact h'

theorem AgreeBelow.bind {f g : α → Decoder β} (h : AgreeBelow n d e) (hf : ∀ x, AgreeBelow n (f x) (g x)) :
    AgreeBelow n (d >>= f) (e >>= g) := by
  intro bytes hn
  obtain ⟨hsame, hleft⟩ := h bytes hn
  cases hd : d bytes with
  | error failure =>
    rw [bind_of_eq_error hd, bind_of_eq_error (hsame.symm.trans hd)]
    exact ⟨rfl, nofun⟩
  | ok p =>
    have hmiddle := hleft p.1 p.2 hd
    obtain ⟨hsame', hleft'⟩ := hf p.1 p.2 (by omega)
    rw [bind_of_eq_ok hd, bind_of_eq_ok (hsame.symm.trans hd)]
    exact ⟨hsame', fun y rest hy => Nat.le_trans (hleft' y rest hy) hmiddle⟩

/-- **Behind a step that takes a byte** it is enough to agree on runs that are shorter by a byte. -/
theorem AgreeBelow.behind {f g : α → Decoder β}
    (hd : ∀ bytes x rest, d bytes = .ok (x, rest) → rest.length < bytes.length) (hf : ∀ x, AgreeBelow n (f x) (g x)) :
    AgreeBelow (n + 1) (d >>= f) (d >>= g) := by
  intro bytes hn
  cases hx : d bytes with
  | error failure =>
    rw [bind_of_eq_error hx, bind_of_eq_error hx]
    exact ⟨rfl, nofun⟩
  | ok p =>
    have hshorter := hd bytes p.1 p.2 hx
    obtain ⟨hsame, hleft⟩ := hf p.1 p.2 (by omega)
    rw [bind_of_eq_ok hx, bind_of_eq_ok hx]
    exact ⟨hsame, fun y rest hy => Nat.le_trans (hleft y rest hy) (Nat.le_of_lt hshorter)⟩

theorem length_lt_of_u1 {bytes rest : List UInt8} {x : UInt8} (h : u1 bytes = .ok (x, rest)) :
    rest.length < bytes.length := by
  rw [spelled_u1 bytes x rest h]
  exact Nat.lt_succ_self _

theorem length_lt_of_u2 {bytes rest : List UInt8} {x : UInt16} (h : u2 bytes = .ok (x, rest)) :
    rest.length < bytes.length := by
  rw [spelled_u2 bytes x rest h]
  exact Nat.lt_succ_of_lt (Nat.lt_succ_self _)

theorem AgreeBelow.repeatedFrom (h : AgreeBelow n d e) (k : Nat) (read : List α) :
    AgreeBelow n (repeatedFrom d read k) (repeatedFrom e read k) := by
  induction k generalizing read with
  | zero => exact Sequential.agreeBelow (sequential_pure read.reverse)
  | succ k ih =>
    rw [repeatedFrom_succ, repeatedFrom_succ]
    exact h.bind fun x => ih (x :: read)

theorem AgreeBelow.counted (h : AgreeBelow n d e) : AgreeBelow (n + 1) (counted d) (Decoder.counted e) :=
  .behind (fun _ _ _ => length_lt_of_u2) fun k => h.repeatedFrom k.toNat []

end ClassWeaver.Bytes.Decoder
