import ClassWeaver.Bytes.Decoder

/-!
# Reading back what was written

A format has two directions: a decoder that reads values off the front of a byte run, and a writer that spells
them. This file states the two halves of "they mirror each other", each in a form that composes along the
decoder's `do` block, and proves both for every number and list that class data is made of.

## Contents

* `Decoder.Reads` — the decoder takes exactly these bytes for this value, whatever follows them. This is the half
  that gives "reading what was written".
* `Decoder.Spelled` — whatever the decoder took is what the writer spells. This is the half that gives "writing
  what was read".
* `Reads.bind`, `bind_eq_ok` — how the two halves go through a sequence of steps.
* one lemma of each half for `u1` … `u8`, `run`, `sizedRun`, `repeated`, `counted`.
-/

namespace ClassWeaver.Bytes

/-! ## Numbers and their bytes -/

theorem doubleWord_u32 (n : UInt32) :
    doubleWord (UInt8.ofNat (n.toNat / 16777216)) (UInt8.ofNat (n.toNat / 65536))
      (UInt8.ofNat (n.toNat / 256)) (UInt8.ofNat n.toNat) = n := by
  have := n.toNat_lt
  apply UInt32.toNat.inj
  simp only [doubleWord, UInt8.toNat_ofNat', UInt32.toNat_ofNat']
  omega

theorem quadWord_halves (n : UInt64) :
    quadWord (UInt32.ofNat (n.toNat / 4294967296)) (UInt32.ofNat n.toNat) = n := by
  have := n.toNat_lt
  apply UInt64.toNat.inj
  simp only [quadWord, UInt32.toNat_ofNat', UInt64.toNat_ofNat']
  omega

theorem u64_quadWord (high low : UInt32) : u64 (quadWord high low) = u32 high ++ u32 low := by
  have hh := high.toNat_lt
  have hl := low.toNat_lt
  have hhigh : UInt32.ofNat ((quadWord high low).toNat / 4294967296) = high := by
    apply UInt32.toNat.inj
    simp only [quadWord, UInt64.toNat_ofNat', UInt32.toNat_ofNat']
    omega
  have hlow : UInt32.ofNat (quadWord high low).toNat = low := by
    apply UInt32.toNat.inj
    simp only [quadWord, UInt64.toNat_ofNat', UInt32.toNat_ofNat']
    omega
  rw [u64, hhigh, hlow]

/-- A number that fits in a byte keeps its value. -/
theorem toNat_ofNat8 {n : Nat} (h : n < 256) : (UInt8.ofNat n).toNat = n := by
  rw [UInt8.toNat_ofNat', Nat.mod_eq_of_lt h]

/-- A count that fits in two bytes keeps its value. -/
theorem toNat_ofNat16 {n : Nat} (h : n < 65536) : (UInt16.ofNat n).toNat = n := by
  rw [UInt16.toNat_ofNat', Nat.mod_eq_of_lt h]

/-- A length that fits in four bytes keeps its value. -/
theorem toNat_ofNat32 {n : Nat} (h : n < 4294967296) : (UInt32.ofNat n).toNat = n := by
  rw [UInt32.toNat_ofNat', Nat.mod_eq_of_lt h]

/-- The bytes of a count that was itself read. -/
theorem count16_toNat (n : UInt16) : count16 n.toNat = u16 n := by
  rw [count16, UInt16.ofNat_toNat]

namespace Decoder

variable {α β : Type}

/-! ## The two halves -/

/-- The decoder takes exactly `bytes`, for the value `x`, whatever follows them. -/
def Reads (d : Decoder α) (bytes : List UInt8) (x : α) : Prop :=
  ∀ rest, d (bytes ++ rest) = .ok (x, rest)

/-- What the decoder took for a value is what `write` spells for it. -/
def Spelled (d : Decoder α) (write : α → List UInt8) : Prop :=
  ∀ bytes x rest, d bytes = .ok (x, rest) → bytes = write x ++ rest

/-! ## Sequences of steps -/

theorem bind_of_eq_ok {d : Decoder α} {f : α → Decoder β} {bytes rest : List UInt8} {x : α}
    (h : d bytes = .ok (x, rest)) : (d >>= f) bytes = f x rest := by
  show StateT.bind d f bytes = f x rest
  simp only [StateT.bind, h]
  rfl

theorem bind_of_eq_error {d : Decoder α} {f : α → Decoder β} {bytes : List UInt8} {e : Shortfall}
    (h : d bytes = .error e) : (d >>= f) bytes = .error e := by
  show StateT.bind d f bytes = .error e
  simp only [StateT.bind, h]
  rfl

/-- A sequence succeeds when its steps do, the second one on what the first one left. -/
theorem bind_eq_ok {d : Decoder α} {f : α → Decoder β} {bytes rest : List UInt8} {y : β} :
    (d >>= f) bytes = .ok (y, rest) ↔ ∃ x middle, d bytes = .ok (x, middle) ∧ f x middle = .ok (y, rest) := by
  constructor
  · intro h
    cases hd : d bytes with
    | error e =>
      rw [bind_of_eq_error hd] at h
      cases h
    | ok p =>
      rw [bind_of_eq_ok (f := f) hd] at h
      exact ⟨p.1, p.2, rfl, h⟩
  · rintro ⟨x, middle, hd, hf⟩
    rw [bind_of_eq_ok hd, hf]

theorem pure_eq_ok {x y : α} {bytes rest : List UInt8} :
    (pure x : Decoder α) bytes = .ok (y, rest) ↔ x = y ∧ bytes = rest := by
  show Except.ok (x, bytes) = Except.ok (y, rest) ↔ x = y ∧ bytes = rest
  simp

theorem map_eq_ok {d : Decoder α} {g : α → β} {bytes rest : List UInt8} {y : β} :
    (g <$> d) bytes = .ok (y, rest) ↔ ∃ x, d bytes = .ok (x, rest) ∧ g x = y := by
  rw [map_eq_pure_bind, bind_eq_ok]
  constructor
  · rintro ⟨x, middle, hd, hp⟩
    obtain ⟨rfl, rfl⟩ := pure_eq_ok.mp hp
    exact ⟨x, hd, rfl⟩
  · rintro ⟨x, hd, rfl⟩
    exact ⟨x, rest, hd, pure_eq_ok.mpr ⟨rfl, rfl⟩⟩

theorem map_apply (g : α → β) (d : Decoder α) (bytes : List UInt8) :
    (g <$> d) bytes = (fun p => (g p.1, p.2)) <$> d bytes := by
  show StateT.map g d bytes = _
  cases h : d bytes <;> simp only [StateT.map, h] <;> rfl

theorem Reads.pure (x : α) : Reads (pure x : Decoder α) [] x :=
  fun _ => rfl

theorem Reads.bind {d : Decoder α} {f : α → Decoder β} {bytes bytes' : List UInt8} {x : α} {y : β}
    (hd : Reads d bytes x) (hf : Reads (f x) bytes' y) : Reads (d >>= f) (bytes ++ bytes') y := by
  intro rest
  rw [List.append_assoc, bind_of_eq_ok (hd (bytes' ++ rest)), hf rest]

/-- The last step of a sequence only assembles the value. -/
theorem Reads.map {d : Decoder α} {bytes : List UInt8} {x : α} (g : α → β) (hd : Reads d bytes x) :
    Reads (g <$> d) bytes (g x) := by
  intro rest
  exact map_eq_ok.mpr ⟨x, hd rest, rfl⟩

theorem parse_eq_ok {d : Decoder α} {payload : List UInt8} {x : α} :
    Decoder.parse d payload = .ok x ↔ ∃ rest, d payload = .ok (x, rest) := by
  rw [Decoder.parse]
  cases d payload with
  | ok p =>
    constructor
    · intro h
      cases h
      exact ⟨p.2, rfl⟩
    · rintro ⟨rest, h⟩
      cases h
      rfl
  | error e => exact iff_of_false nofun fun ⟨_, h⟩ => nomatch h

theorem parse_map (g : α → β) (d : Decoder α) (payload : List UInt8) :
    Decoder.parse (g <$> d) payload = g <$> Decoder.parse d payload := by
  rw [Decoder.parse, Decoder.parse, map_apply]
  cases d payload with
  | error e => rfl
  | ok p => rfl

/-- A payload that is read to its end. -/
theorem Reads.parse {d : Decoder α} {payload : List UInt8} {x : α} (hd : Reads d payload x) :
    Decoder.parse d payload = .ok x := by
  have h := hd []
  rw [List.append_nil] at h
  rw [Decoder.parse, h]

/-- As `Reads.map`, for a step written as a bind. -/
theorem Reads.bind_pure {d : Decoder α} {bytes : List UInt8} {x : α} (g : α → β) (hd : Reads d bytes x) :
    Reads (d >>= fun x => Pure.pure (g x)) bytes (g x) := by
  have := hd.bind (f := fun x => Pure.pure (g x)) (Reads.pure (g x))
  rwa [List.append_nil] at this

/-! ## Numbers -/

theorem reads_u1 (n : UInt8) : Reads u1 [n] n :=
  fun _ => rfl

theorem reads_u2 (n : UInt16) : Reads u2 (u16 n) n := by
  intro rest
  show Except.ok (word (UInt8.ofNat (n.toNat / 256)) (UInt8.ofNat n.toNat), rest) = .ok (n, rest)
  rw [word_div_mod]

/-- A count or an offset in front of what depends on it. -/
theorem reads_count16_bind {n : Nat} (hn : n < 65536) (f : Nat → Decoder α) {bytes : List UInt8} {x : α}
    (hf : Reads (f n) bytes x) : Reads (u2 >>= fun k => f k.toNat) (count16 n ++ bytes) x := by
  refine (reads_u2 (UInt16.ofNat n)).bind ?_
  rwa [toNat_ofNat16 hn]

theorem reads_count16 {n : Nat} (hn : n < 65536) (g : Nat → α) :
    Reads (u2 >>= fun k => Pure.pure (g k.toNat)) (count16 n) (g n) := by
  have := reads_count16_bind hn (fun n => Pure.pure (g n)) (Reads.pure (g n))
  rwa [List.append_nil] at this

theorem reads_u4 (n : UInt32) : Reads u4 (u32 n) n := by
  intro rest
  show Except.ok (doubleWord _ _ _ _, rest) = .ok (n, rest)
  rw [doubleWord_u32]

theorem reads_i4 (n : Int32) : Reads i4 (i32 n) n := by
  have := (reads_u4 n.toUInt32).bind_pure UInt32.toInt32
  rwa [Int32.toInt32_toUInt32] at this

theorem reads_u8_halves (high low : UInt32) : Reads u8 (u32 high ++ u32 low) (quadWord high low) :=
  (reads_u4 high).bind ((reads_u4 low).bind_pure (quadWord high))

theorem reads_u8 (n : UInt64) : Reads u8 (u64 n) n := by
  have := reads_u8_halves (UInt32.ofNat (n.toNat / 4294967296)) (UInt32.ofNat n.toNat)
  rwa [quadWord_halves] at this

theorem spelled_u1 : Spelled u1 fun n => [n] := by
  intro bytes x rest h
  cases bytes with
  | nil => cases h
  | cons b bytes =>
    cases h
    rfl

theorem spelled_u2 : Spelled u2 u16 := by
  intro bytes x rest h
  match bytes, h with
  | a :: b :: rest', h =>
    cases h
    rw [u16_word]
    rfl

theorem spelled_u4 : Spelled u4 u32 := by
  intro bytes x rest h
  match bytes, h with
  | a :: b :: c :: d :: rest', h =>
    cases h
    rw [u32_doubleWord]
    rfl

theorem spelled_i4 : Spelled i4 i32 := by
  intro bytes x rest h
  obtain ⟨n, middle, hn, hp⟩ := bind_eq_ok.mp h
  obtain ⟨rfl, rfl⟩ := pure_eq_ok.mp hp
  rw [i32, UInt32.toUInt32_toInt32]
  exact spelled_u4 bytes n middle hn

theorem spelled_u8 : Spelled u8 u64 := by
  intro bytes x rest h
  obtain ⟨high, middle, hhigh, h⟩ := bind_eq_ok.mp h
  obtain ⟨low, middle', hlow, hp⟩ := bind_eq_ok.mp h
  obtain ⟨rfl, rfl⟩ := pure_eq_ok.mp hp
  rw [u64_quadWord, List.append_assoc, ← spelled_u4 middle low middle' hlow]
  exact spelled_u4 bytes high middle hhigh

/-! ## Byte runs -/

theorem reads_run {bytes : List UInt8} {n : Nat} (h : bytes.length = n) : Reads (run n) bytes bytes := by
  intro rest
  simp only [run, ← h, List.take_left, List.drop_left, if_true]

theorem run_eq_ok {n : Nat} {bytes taken rest : List UInt8} (h : run n bytes = .ok (taken, rest)) :
    taken.length = n ∧ bytes = taken ++ rest := by
  simp only [run] at h
  split at h
  · rename_i hlen
    cases h
    exact ⟨hlen, (List.take_append_drop n bytes).symm⟩
  · cases h

theorem reads_sizedRun {bytes : List UInt8} (h : bytes.length < 4294967296) :
    Reads sizedRun (sized bytes) bytes :=
  (reads_u4 _).bind (reads_run (toNat_ofNat32 h).symm)

theorem spelled_sizedRun : Spelled sizedRun sized := by
  intro bytes x rest h
  obtain ⟨n, middle, hn, hrun⟩ := bind_eq_ok.mp h
  obtain ⟨hlen, rfl⟩ := run_eq_ok hrun
  rw [sized, hlen, UInt32.ofNat_toNat, List.append_assoc]
  exact spelled_u4 bytes n (x ++ rest) hn

/-! ## Lists -/

theorem repeatedFrom_of_eq_ok {item : Decoder α} {bytes rest : List UInt8} {x : α}
    (h : item bytes = .ok (x, rest)) (read : List α) (n : Nat) :
    repeatedFrom item read (n + 1) bytes = repeatedFrom item (x :: read) n rest := by
  simp only [repeatedFrom, h]

theorem repeatedFrom_of_eq_error {item : Decoder α} {bytes : List UInt8} {e : Shortfall}
    (h : item bytes = .error e) (read : List α) (n : Nat) :
    repeatedFrom item read (n + 1) bytes = .error e := by
  simp only [repeatedFrom, h]

/-- Several items are one item and the others. -/
theorem repeatedFrom_succ (item : Decoder α) (read : List α) (n : Nat) :
    repeatedFrom item read (n + 1) = item >>= fun x => repeatedFrom item (x :: read) n := by
  funext bytes
  cases hitem : item bytes with
  | error e => rw [repeatedFrom_of_eq_error hitem, bind_of_eq_error hitem]
  | ok p => rw [repeatedFrom_of_eq_ok hitem, bind_of_eq_ok hitem]

/-- Items that are read one by one are read together, behind those read before. -/
theorem reads_repeatedFrom {item : Decoder α} {write : α → List UInt8} {xs : List α}
    (h : ∀ x ∈ xs, Reads item (write x) x) (read : List α) :
    Reads (repeatedFrom item read xs.length) (xs.flatMap write) (read.reverse ++ xs) := by
  induction xs generalizing read with
  | nil =>
    intro rest
    simp [repeatedFrom]
  | cons x xs ih =>
    intro rest
    have hx := h x (List.mem_cons_self ..) (xs.flatMap write ++ rest)
    rw [List.flatMap_cons, List.append_assoc, List.length_cons, repeatedFrom_of_eq_ok hx]
    have := ih (fun y hy => h y (List.mem_cons_of_mem x hy)) (x :: read) rest
    rw [List.reverse_cons, List.append_assoc] at this
    exact this

theorem reads_repeated {item : Decoder α} {write : α → List UInt8} {xs : List α} {n : Nat}
    (hn : xs.length = n) (h : ∀ x ∈ xs, Reads item (write x) x) :
    Reads (repeated item n) (xs.flatMap write) xs := by
  subst hn
  exact reads_repeatedFrom h []

theorem reads_counted {item : Decoder α} {write : α → List UInt8} {xs : List α} (hn : xs.length < 65536)
    (h : ∀ x ∈ xs, Reads item (write x) x) :
    Reads (counted item) (count16 xs.length ++ xs.flatMap write) xs :=
  (reads_u2 _).bind (reads_repeated (toNat_ofNat16 hn).symm h)

theorem spelled_repeatedFrom {item : Decoder α} {write : α → List UInt8} (h : Spelled item write) {n : Nat} :
    ∀ {read xs : List α} {bytes rest : List UInt8}, repeatedFrom item read n bytes = .ok (xs, rest) →
      ∃ added, xs = read.reverse ++ added ∧ added.length = n ∧ bytes = added.flatMap write ++ rest := by
  induction n with
  | zero =>
    intro read xs bytes rest hx
    cases hx
    exact ⟨[], by simp, rfl, rfl⟩
  | succ n ih =>
    intro read xs bytes rest hx
    cases hitem : item bytes with
    | error e =>
      rw [repeatedFrom_of_eq_error hitem] at hx
      cases hx
    | ok p =>
      rw [repeatedFrom_of_eq_ok hitem] at hx
      obtain ⟨added, rfl, hlen, hbytes⟩ := ih hx
      refine ⟨p.1 :: added, by simp, by simp [hlen], ?_⟩
      rw [List.flatMap_cons, List.append_assoc, ← hbytes]
      exact h bytes p.1 p.2 hitem

theorem spelled_repeated {item : Decoder α} {write : α → List UInt8} (h : Spelled item write) {n : Nat}
    {xs : List α} {bytes rest : List UInt8} (hx : repeated item n bytes = .ok (xs, rest)) :
    xs.length = n ∧ bytes = xs.flatMap write ++ rest := by
  obtain ⟨added, rfl, hlen, hbytes⟩ := spelled_repeatedFrom h hx
  exact ⟨hlen, hbytes⟩

theorem spelled_counted {item : Decoder α} {write : α → List UInt8} (h : Spelled item write) :
    Spelled (counted item) fun xs => count16 xs.length ++ xs.flatMap write := by
  intro bytes xs rest hx
  obtain ⟨n, middle, hn, hrep⟩ := bind_eq_ok.mp hx
  obtain ⟨hlen, hmiddle⟩ := spelled_repeated h hrep
  show bytes = (count16 xs.length ++ xs.flatMap write) ++ rest
  rw [hlen, count16_toNat, List.append_assoc, ← hmiddle]
  exact spelled_u2 bytes n middle hn

end Decoder

end ClassWeaver.Bytes
