import ClassWeaver.Proofs.Bytes.Reading

/-!
# What decoders guarantee

A decoder that accepts a byte run has checked something of it. What it has checked is stated of its results, whatever
the bytes were, and goes through a sequence of steps. A decoder that looks only at what it takes reads the same value
when more bytes follow; decoders that differ in how deep they go read the same values where the shallow one succeeds.

## Contents

* `Ensures` — what holds of every value that is read.
* `Covers` — a decoder that reads what another one reads, also in front of more bytes.
* `repeated_succ` — one item more.
-/

namespace ClassWeaver.Bytes.Decoder

/-! ## Properties of results -/

variable {α β : Type} {holds : α → Prop} {holds' : β → Prop}

/-- Every value that is read has the property. -/
def Ensures (d : Decoder α) (holds : α → Prop) : Prop :=
  ∀ bytes x rest, d bytes = .ok (x, rest) → holds x

theorem ensures_true (d : Decoder α) : Ensures d fun _ => True :=
  fun _ _ _ _ => trivial

theorem Ensures.pure {x : α} (h : holds x) : Ensures (pure x) holds := by
  intro bytes y rest hx
  obtain ⟨rfl, -⟩ := pure_eq_ok.mp hx
  exact h

theorem Ensures.bind {d : Decoder α} {f : α → Decoder β} (hd : Ensures d holds)
    (hf : ∀ x, holds x → Ensures (f x) holds') : Ensures (d >>= f) holds' := by
  intro bytes y rest hy
  obtain ⟨x, middle, hx, hy⟩ := bind_eq_ok.mp hy
  exact hf x (hd bytes x middle hx) middle y rest hy

/-- The last step only assembles the value. -/
theorem Ensures.bind_pure {d : Decoder α} {g : α → β} (hd : Ensures d holds) (hg : ∀ x, holds x → holds' (g x)) :
    Ensures (d >>= fun x => Pure.pure (g x)) holds' :=
  hd.bind fun x hx => .pure (hg x hx)

theorem Ensures.ite {c : Prop} [Decidable c] {d e : Decoder α} (hd : c → Ensures d holds) (he : ¬c → Ensures e holds) :
    Ensures (if c then d else e) holds := by
  by_cases h : c
  · rw [if_pos h]
    exact hd h
  · rw [if_neg h]
    exact he h

theorem ensures_stop : Ensures (stop : Decoder α) holds :=
  fun _ _ _ h => nomatch h

theorem ensures_repeatedFrom {item : Decoder α} (h : Ensures item holds) {n : Nat} (read : List α)
    (hread : ∀ x ∈ read, holds x) :
    Ensures (repeatedFrom item read n) fun xs => xs.length = read.length + n ∧ ∀ x ∈ xs, holds x := by
  induction n generalizing read with
  | zero =>
    intro bytes xs rest hx
    cases hx
    exact ⟨List.length_reverse, fun x hx => hread x (List.mem_reverse.mp hx)⟩
  | succ n ih =>
    intro bytes xs rest hx
    cases hitem : item bytes with
    | error e =>
      rw [repeatedFrom_of_eq_error hitem] at hx
      cases hx
    | ok p =>
      rw [repeatedFrom_of_eq_ok hitem] at hx
      obtain ⟨hlen, hall⟩ := ih (p.1 :: read) (List.forall_mem_cons.mpr ⟨h bytes p.1 p.2 hitem, hread⟩) p.2 xs rest hx
      rw [List.length_cons] at hlen
      exact ⟨by omega, hall⟩

theorem ensures_repeated {item : Decoder α} (h : Ensures item holds) (n : Nat) :
    Ensures (repeated item n) fun xs => xs.length = n ∧ ∀ x ∈ xs, holds x := by
  intro bytes xs rest hx
  obtain ⟨hlen, hall⟩ := ensures_repeatedFrom h [] nofun bytes xs rest hx
  exact ⟨by rw [hlen, List.length_nil, Nat.zero_add], hall⟩

/-- A count of two bytes is at most 65535. -/
theorem ensures_counted {item : Decoder α} (h : Ensures item holds) :
    Ensures (counted item) fun xs => xs.length ≤ 65535 ∧ ∀ x ∈ xs, holds x := by
  refine (ensures_true u2).bind fun n _ bytes xs rest hx => ?_
  obtain ⟨hlen, hall⟩ := ensures_repeated h n.toNat bytes xs rest hx
  have := n.toNat_lt
  exact ⟨by omega, hall⟩

theorem Ensures.parse {d : Decoder α} (h : Ensures d holds) {payload : List UInt8} {x : α}
    (hx : Decoder.parse d payload = .ok x) : holds x := by
  rw [Decoder.parse] at hx
  split at hx
  · rename_i y rest hy
    cases hx
    exact h payload x rest hy
  · cases hx

/-! ## More bytes -/

section

variable {d e : Decoder α}

/-- Where `d` reads a value, `e` reads it too, whatever stands behind the bytes. -/
def Covers (e d : Decoder α) : Prop :=
  ∀ bytes x rest, d bytes = .ok (x, rest) → ∀ more, e (bytes ++ more) = .ok (x, rest ++ more)

theorem covers_u1 : Covers u1 u1 := by
  intro bytes x rest h more
  rw [spelled_u1 bytes x rest h, List.append_assoc]
  exact reads_u1 x (rest ++ more)

theorem covers_u2 : Covers u2 u2 := by
  intro bytes x rest h more
  rw [spelled_u2 bytes x rest h, List.append_assoc]
  exact reads_u2 x (rest ++ more)

theorem covers_pure (x : α) : Covers (pure x) (pure x) := by
  intro bytes y rest h more
  obtain ⟨rfl, rfl⟩ := pure_eq_ok.mp h
  rfl

/-- Nothing is read, so there is nothing to cover. -/
theorem covers_stop : Covers e stop :=
  fun _ _ _ h => nomatch h

theorem Covers.bind {f g : α → Decoder β} (h : Covers e d) (hf : ∀ x, Covers (g x) (f x)) :
    Covers (e >>= g) (d >>= f) := by
  intro bytes y rest hy more
  obtain ⟨x, middle, hx, hy⟩ := bind_eq_ok.mp hy
  rw [bind_of_eq_ok (h bytes x middle hx more)]
  exact hf x middle y rest hy more

theorem Covers.ite {c : Prop} [Decidable c] {d' e' : Decoder α} (h : Covers e d) (h' : Covers e' d') :
    Covers (if c then e else e') (if c then d else d') := by
  split
  · exact h
  · exact h'

theorem Covers.repeatedFrom (h : Covers e d) (n : Nat) (read : List α) :
    Covers (repeatedFrom e read n) (Decoder.repeatedFrom d read n) := by
  induction n generalizing read with
  | zero => exact covers_pure read.reverse
  | succ n ih =>
    rw [repeatedFrom_succ, repeatedFrom_succ]
    exact h.bind fun x => ih (x :: read)

theorem Covers.counted (h : Covers e d) : Covers (counted e) (Decoder.counted d) :=
  covers_u2.bind fun n => h.repeatedFrom n.toNat []

/-- **One item more** is read behind the others. -/
theorem repeated_succ {n : Nat} {bytes middle rest : List UInt8} {xs : List α} {x : α}
    (h : repeated d n bytes = .ok (xs, middle)) (hx : d middle = .ok (x, rest)) :
    repeated d (n + 1) bytes = .ok (xs ++ [x], rest) := by
  have hbehind : ∀ (n : Nat) (read : List α) (bytes : List UInt8),
      Decoder.repeatedFrom d read n bytes = .ok (xs, middle) →
        Decoder.repeatedFrom d read (n + 1) bytes = .ok (xs ++ [x], rest) := by
    intro n
    induction n with
    | zero =>
      intro read bytes h
      cases h
      rw [repeatedFrom_of_eq_ok hx, Decoder.repeatedFrom, List.reverse_cons]
    | succ n ih =>
      intro read bytes h
      cases hitem : d bytes with
      | error failure =>
        rw [repeatedFrom_of_eq_error hitem] at h
        cases h
      | ok p =>
        rw [repeatedFrom_of_eq_ok hitem] at h ⊢
        exact ih (p.1 :: read) p.2 h
  exact hbehind n [] bytes h

end

end ClassWeaver.Bytes.Decoder
