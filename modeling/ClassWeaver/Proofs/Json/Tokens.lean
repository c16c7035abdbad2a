import ClassWeaver.Json.Parser
import ClassWeaver.Json.Printer
import ClassWeaver.Proofs.Json.Lawful

/-!
# Tokens that are read back

A printed text, integer or word is read as what it was, and what stands behind it is left over. Numbers have no mark at
their end, so what stands behind one must not go on with it. An integer is read back if it fits in 64 bits. Of other
numbers that cannot be told in general: a double is read with more than one rounding, and the decimal that is printed for
it may be read as its neighbour.

## Contents

* `text?_quote` — quoted texts.
* `Stops`, `number?_append` — what stands behind a number.
* `number?_integer`, `Decimal.ReadsBack` — integers, and other numbers that are read back.
* `exists_head_of_number?`, `isNumber_of_number?` — how numbers begin, and what they are.
-/

namespace ClassWeaver

namespace Json

variable {c : Char} {cs ds rest read : List Char} {fuel n : Nat}

/-! ## Quoted texts -/

theorem text?_of_plain (hquote : c ≠ '"') (hbackslash : c ≠ '\\') (hcontrol : ¬c.toNat < 32) :
    text? read (fuel + 1) (c :: rest) = text? (c :: read) fuel rest := by
  rw [text?.eq_def]
  simp [hbackslash, hcontrol]

/-- The two digits of a control character's number are its number. -/
theorem unit?_control : ∀ n < 32, unit? '0' '0' (Bytes.hexDigit (n / 16)) (Bytes.hexDigit n) = some n := by
  decide

/-- **A character is read from its escaped form.** -/
theorem text?_escapeChar (c : Char) : text? read (fuel + 1) (escapeChar c ++ rest) = text? (c :: read) fuel rest := by
  have hnumber {n : Nat} (h : (c.toNat == n) = true) : c = Char.ofNat n := by
    rw [← eq_of_beq h, Char.ofNat_toNat]
  unfold escapeChar
  split
  · rename_i h
    rw [eq_of_beq h]
    rfl
  rename_i hquote
  split
  · rename_i h
    rw [eq_of_beq h]
    rfl
  rename_i hbackslash
  split
  · rename_i h
    rw [eq_of_beq h]
    rfl
  split
  · rename_i h
    rw [eq_of_beq h]
    rfl
  split
  · rename_i h
    rw [eq_of_beq h]
    rfl
  split
  · rename_i h
    rw [hnumber h]
    rfl
  split
  · rename_i h
    rw [hnumber h]
    rfl
  split
  · rename_i h
    show text? read (fuel + 1)
      ('\\' :: 'u' :: '0' :: '0' :: Bytes.hexDigit (c.toNat / 16) :: Bytes.hexDigit c.toNat :: rest) = _
    rw [text?, unit?_control c.toNat h]
    dsimp only
    rw [if_pos (.inl (by omega)), Char.ofNat_toNat]
  · rename_i hcontrol
    exact text?_of_plain (by simpa using hquote) (by simpa using hbackslash) hcontrol

/-- Escaping a text makes it no shorter. -/
theorem length_le_length_escaped (cs : List Char) : cs.length ≤ (cs.flatMap escapeChar).length := by
  have hpositive (c : Char) : 1 ≤ (escapeChar c).length := by
    unfold escapeChar
    repeat' split
    all_goals simp
  induction cs with
  | nil => exact Nat.le_refl 0
  | cons c cs ih =>
    rw [List.flatMap_cons, List.length_append, List.length_cons]
    have hc := hpositive c
    omega

theorem text?_escaped (h : cs.length < fuel) :
    text? read fuel (cs.flatMap escapeChar ++ '"' :: rest) = some (String.ofList (read.reverse ++ cs), rest) := by
  induction cs generalizing read fuel with
  | nil =>
    obtain ⟨fuel, rfl⟩ : ∃ k, fuel = k + 1 := ⟨fuel - 1, by simp at h; omega⟩
    rw [List.append_nil]
    rfl
  | cons c cs ih =>
    obtain ⟨fuel, rfl⟩ : ∃ k, fuel = k + 1 := ⟨fuel - 1, by simp at h; omega⟩
    rw [List.flatMap_cons, List.append_assoc, text?_escapeChar, ih (by simpa using h), List.reverse_cons, List.append_assoc]
    rfl

/-- **A quoted text is read as the text.** -/
theorem text?_quote {s : String} (h : (quote s).toList.length ≤ fuel) :
    ∃ front, (quote s).toList = '"' :: front ∧ text? [] fuel (front ++ rest) = some (s, rest) := by
  unfold quote at h ⊢
  rw [String.toList_ofList] at h ⊢
  refine ⟨_, rfl, ?_⟩
  have hlength := length_le_length_escaped s.toList
  simp only [List.length_cons, List.length_append, List.length_nil] at h
  rw [List.append_assoc, List.singleton_append, text?_escaped (by omega), List.reverse_nil, List.nil_append,
    String.ofList_toList]

/-! ## Behind numbers -/

/-- Whether a number may go on with a character. -/
def isNumberChar (c : Char) : Bool :=
  c.isDigit || c == '.' || c == 'e' || c == 'E' || c == '+' || c == '-'

/-- A number does not go on in what stands behind it. -/
def Stops (rest : List Char) : Prop :=
  ∀ c ∈ rest.head?, isNumberChar c = false

theorem Stops.cons (h : isNumberChar c = false) : Stops (c :: rest) := by
  rintro d ⟨⟩
  exact h

theorem Stops.ne (h : Stops (c :: rest)) {d : Char} (hd : isNumberChar d = true) : c ≠ d := by
  rintro rfl
  rw [h c rfl] at hd
  cases hd

theorem Stops.isDigit (h : Stops (c :: rest)) : c.isDigit = false := by
  have hc := h c rfl
  unfold isNumberChar at hc
  simp only [Bool.or_eq_false_iff] at hc
  exact hc.1.1.1.1.1

theorem digits_append (h : Stops rest) (cs : List Char) : digits (cs ++ rest) = ((digits cs).1, (digits cs).2 ++ rest) := by
  unfold digits
  induction cs with
  | nil =>
    cases rest with
    | nil => rfl
    | cons c rest => simp [h.isDigit]
  | cons c cs ih =>
    by_cases hc : c.isDigit = true
    · simp only [List.cons_append, List.takeWhile_cons_of_pos hc, List.dropWhile_cons_of_pos hc]
      rw [(Prod.mk.inj ih).1, (Prod.mk.inj ih).2]
    · simp only [List.cons_append, List.takeWhile_cons_of_neg hc, List.dropWhile_cons_of_neg hc]

theorem digits_of_forall (h : ∀ c ∈ cs, c.isDigit = true) : digits cs = (cs, []) := by
  unfold digits
  induction cs with
  | nil => rfl
  | cons c cs ih =>
    obtain ⟨hc, hcs⟩ := List.forall_mem_cons.mp h
    obtain ⟨htake, hdrop⟩ := Prod.mk.inj (ih hcs)
    rw [List.takeWhile_cons_of_pos hc, List.dropWhile_cons_of_pos hc, htake, hdrop]

theorem fraction?_of_ne (h : c ≠ '.') : fraction? (c :: cs) = some ([], c :: cs) := by
  rw [fraction?.eq_def]
  split
  · rename_i heq
    exact absurd (List.cons.inj heq).1 h
  · rfl

theorem fraction?_append (h : Stops rest) (cs : List Char) :
    fraction? (cs ++ rest) = (fraction? cs).map fun found => (found.1, found.2 ++ rest) := by
  cases cs with
  | nil =>
    cases rest with
    | nil => rfl
    | cons c rest => exact fraction?_of_ne (h.ne rfl)
  | cons c cs =>
    by_cases hpoint : c = '.'
    · rw [hpoint, List.cons_append, fraction?, fraction?, digits_append h]
      rcases digits cs with ⟨_ | ⟨d, ds⟩, after⟩
      · rfl
      · rfl
    · rw [List.cons_append, fraction?_of_ne hpoint, fraction?_of_ne hpoint]
      rfl

theorem exponent?_of_ne (h : c ≠ 'e') (h' : c ≠ 'E') : exponent? (c :: cs) = some (none, c :: cs) := by
  rw [exponent?.eq_def]
  dsimp only
  rw [if_neg (by simp [h, h'])]

/-- The digits of an exponent, behind its sign. -/
def exponentDigits? (negative : Bool) (cs : List Char) : Option (Option Int × List Char) :=
  match digits cs with
  | ([], _) => none
  | (ds, after) => some (some (if negative then -(digitsValue ds : Int) else digitsValue ds), after)

theorem exponentDigits?_append (h : Stops rest) (negative : Bool) (cs : List Char) : exponentDigits? negative (cs ++ rest) =
    (exponentDigits? negative cs).map fun found => (found.1, found.2 ++ rest) := by
  unfold exponentDigits?
  rw [digits_append h]
  rcases digits cs with ⟨_ | ⟨d, ds⟩, after⟩
  · rfl
  · rfl

theorem exponent?_minus (h : (c == 'e' || c == 'E') = true) : exponent? (c :: '-' :: cs) = exponentDigits? true cs := by
  rw [exponent?, if_pos h]
  rfl

theorem exponent?_plus (h : (c == 'e' || c == 'E') = true) : exponent? (c :: '+' :: cs) = exponentDigits? false cs := by
  rw [exponent?, if_pos h]
  rfl

theorem exponent?_unsigned (h : (c == 'e' || c == 'E') = true) (hsign : ∀ d ∈ cs.head?, d ≠ '-' ∧ d ≠ '+') :
    exponent? (c :: cs) = exponentDigits? false cs := by
  rw [exponent?, if_pos h]
  · rfl
  · rintro r rfl
    exact (hsign '-' rfl).1 rfl
  · rintro r rfl
    exact (hsign '+' rfl).2 rfl

theorem exponent?_append (h : Stops rest) (cs : List Char) :
    exponent? (cs ++ rest) = (exponent? cs).map fun found => (found.1, found.2 ++ rest) := by
  cases cs with
  | nil =>
    cases rest with
    | nil => rfl
    | cons c rest => exact exponent?_of_ne (h.ne rfl) (h.ne rfl)
  | cons c cs =>
    rw [List.cons_append]
    by_cases hmark : (c == 'e' || c == 'E') = true
    · cases cs with
      | nil =>
        have hrest : ∀ d ∈ rest.head?, d ≠ '-' ∧ d ≠ '+' := by
          intro d hd
          have hstop := h d hd
          constructor
          · rintro rfl
            cases hstop
          · rintro rfl
            cases hstop
        rw [List.nil_append, exponent?_unsigned hmark hrest, exponent?_unsigned hmark (by simp)]
        exact exponentDigits?_append h false []
      | cons d cs =>
        rw [List.cons_append]
        by_cases hminus : d = '-'
        · rw [hminus, exponent?_minus hmark, exponent?_minus hmark, exponentDigits?_append h]
        by_cases hplus : d = '+'
        · rw [hplus, exponent?_plus hmark, exponent?_plus hmark, exponentDigits?_append h]
        · have hsign (ds : List Char) : ∀ d' ∈ (d :: ds).head?, d' ≠ '-' ∧ d' ≠ '+' := by
            intro d' hd'
            cases hd'
            exact ⟨hminus, hplus⟩
          rw [exponent?_unsigned hmark (hsign _), exponent?_unsigned hmark (hsign _), ← List.cons_append,
            exponentDigits?_append h]
    · simp only [Bool.or_eq_true, beq_iff_eq, not_or] at hmark
      rw [exponent?_of_ne hmark.1 hmark.2, exponent?_of_ne hmark.1 hmark.2]
      rfl

/-- A number without its sign. -/
def unsigned? (negative : Bool) (cs : List Char) : Option (Json × List Char) := do
  let (whole, rest) := digits cs
  if whole.isEmpty || (whole.head? == some '0' && 1 < whole.length) then none
  else
    let (frac, rest) ← fraction? rest
    let (exp, rest) ← exponent? rest
    let value ← numberValue? negative whole frac exp
    return (value, rest)

theorem unsigned?_append (h : Stops rest) (negative : Bool) (cs : List Char) :
    unsigned? negative (cs ++ rest) = (unsigned? negative cs).map fun found => (found.1, found.2 ++ rest) := by
  unfold unsigned?
  rw [digits_append h]
  rcases digits cs with ⟨whole, behind⟩
  dsimp only
  split
  · rfl
  rw [fraction?_append h]
  rcases fraction? behind with _ | ⟨frac, behind⟩
  · rfl
  dsimp only [Option.map_some, Option.bind_eq_bind, Option.bind_some]
  rw [exponent?_append h]
  rcases exponent? behind with _ | ⟨exp, behind⟩
  · rfl
  dsimp only [Option.map_some, Option.bind_some]
  cases numberValue? negative whole frac exp with
  | none => rfl
  | some value => rfl

theorem number?_minus : number? ('-' :: cs) = unsigned? true cs :=
  rfl

theorem number?_of_ne (h : ∀ c ∈ cs.head?, c ≠ '-') : number? cs = unsigned? false cs := by
  rw [number?.eq_def]
  split
  rename_i negative cs' hsplit
  split at hsplit
  · exact absurd rfl (h '-' rfl)
  · cases hsplit
    rfl

/-- **A number that stops is read as if nothing stood behind it.** -/
theorem number?_append (h : Stops rest) (cs : List Char) :
    number? (cs ++ rest) = (number? cs).map fun found => (found.1, found.2 ++ rest) := by
  cases cs with
  | nil =>
    have hrest : ∀ c ∈ rest.head?, c ≠ '-' := by
      rintro c hc rfl
      cases h _ hc
    rw [List.nil_append, number?_of_ne hrest, number?_of_ne (by simp)]
    exact unsigned?_append h false []
  | cons c cs =>
    rw [List.cons_append]
    by_cases hminus : c = '-'
    · rw [hminus, number?_minus, number?_minus, unsigned?_append h]
    · have hsign (cs : List Char) : ∀ d ∈ (c :: cs).head?, d ≠ '-' := by
        intro d hd
        cases hd
        exact hminus
      rw [number?_of_ne (hsign _), number?_of_ne (hsign _), ← List.cons_append, unsigned?_append h]

/-- A number begins with a minus or a digit. -/
theorem exists_head_of_number? {found : Json × List Char} (h : number? cs = some found) :
    ∃ c more, cs = c :: more ∧ (c = '-' ∨ c.isDigit = true) := by
  cases cs with
  | nil => cases h
  | cons c cs =>
    refine ⟨c, cs, rfl, ?_⟩
    by_cases hminus : c = '-'
    · exact .inl hminus
    refine .inr (Decidable.byContradiction fun hdigit => ?_)
    have hsign : ∀ d ∈ (c :: cs).head?, d ≠ '-' := by
      intro d hd
      cases hd
      exact hminus
    rw [number?_of_ne hsign] at h
    unfold unsigned? digits at h
    rw [List.takeWhile_cons_of_neg hdigit] at h
    cases h

/-! ## Printed numbers -/

theorem digitsValue_toDigits (n : Nat) : digitsValue (Nat.toDigits 10 n) = n := by
  have hfold (cs : List Char) : digitsValue cs = Nat.ofDigitChars 10 cs 0 := by
    unfold digitsValue Nat.ofDigitChars
    simp only [Nat.mul_comm]
    rfl
  rw [hfold, Nat.ofDigitChars_ten_toDigits]

/-- No zero stands in front of other digits. -/
theorem head?_toDigits_ne (h : 0 < n) : (Nat.toDigits 10 n).head? ≠ some '0' := by
  induction n using Nat.strongRecOn with
  | ind n ih =>
    rw [Nat.toDigits_eq_if (by decide)]
    by_cases hn : n < 10
    · rw [if_pos hn]
      have hdigit : ∀ n < 10, 0 < n → [n.digitChar].head? ≠ some '0' := by decide
      exact hdigit n hn h
    · have hfront := ih (n / 10) (by omega) (by omega)
      have hne : Nat.toDigits 10 (n / 10) ≠ [] := List.ne_nil_of_length_pos Nat.length_toDigits_pos
      obtain ⟨c, more, hcs⟩ := List.exists_cons_of_ne_nil hne
      rw [if_neg hn, hcs]
      rw [hcs] at hfront
      exact hfront

/-- Digits are read as a number without a fraction or an exponent. -/
theorem unsigned?_toDigits (negative : Bool) (n : Nat) : unsigned? negative (Nat.toDigits 10 n) =
    (numberValue? negative (Nat.toDigits 10 n) [] none).map fun value => (value, []) := by
  have hall : ∀ c ∈ Nat.toDigits 10 n, c.isDigit = true :=
    fun c hc => Nat.isDigit_of_mem_toDigits (by decide) (by decide) hc
  have hshape : ¬((Nat.toDigits 10 n).isEmpty || ((Nat.toDigits 10 n).head? == some '0' &&
      decide (1 < (Nat.toDigits 10 n).length))) = true := by
    have hne : Nat.toDigits 10 n ≠ [] := List.ne_nil_of_length_pos Nat.length_toDigits_pos
    rcases Nat.eq_zero_or_pos n with rfl | hpos
    · decide
    · simp [hne, head?_toDigits_ne hpos]
  unfold unsigned?
  rw [digits_of_forall hall]
  dsimp only
  rw [if_neg hshape]
  show (numberValue? negative (Nat.toDigits 10 n) [] none).bind _ = _
  cases numberValue? negative (Nat.toDigits 10 n) [] none with
  | none => rfl
  | some value => rfl

/-- **An integer that fits in 64 bits is read back.** -/
theorem number?_integer {n : Int} (h : FitsWord n) : number? (toString n).toList = some (integer n, []) := by
  obtain ⟨hlow, hhigh⟩ := h
  cases n with
  | ofNat n =>
    have htext : (toString (Int.ofNat n)).toList = Nat.toDigits 10 n := by
      show (toString n).toList = _
      rw [Nat.toString_eq_repr, Nat.toList_repr]
    have hsign : ∀ c ∈ (Nat.toDigits 10 n).head?, c ≠ '-' := by
      rintro c hc rfl
      exact absurd (Nat.isDigit_of_mem_toDigits (by decide) (by decide) (List.mem_of_mem_head? hc)) (by decide)
    have hsmall : n < Nat.pow 2 64 := by
      have hcast : (n : Int) < 2 ^ 64 := hhigh
      rw [Nat.pow_eq]
      omega
    rw [htext, number?_of_ne hsign, unsigned?_toDigits]
    unfold numberValue?
    rw [digitsValue_toDigits, if_pos (by simpa using hsmall)]
    rfl
  | negSucc n =>
    have htext : (toString (Int.negSucc n)).toList = '-' :: Nat.toDigits 10 (n + 1) := by
      show ("-" ++ toString (n + 1)).toList = _
      rw [Nat.toString_eq_repr, String.toList_append, Nat.toList_repr]
      rfl
    have hsmall : n + 1 ≤ Nat.pow 2 63 := by
      rw [Nat.pow_eq]
      omega
    rw [htext, number?_minus, unsigned?_toDigits]
    unfold numberValue?
    rw [digitsValue_toDigits, if_neg (by simp), if_pos (by simpa using hsmall)]
    rfl

/-- A number as documents have them: an integer that fits in 64 bits, or a double. -/
def IsNumber (v : Json) : Prop :=
  (∃ n, v = integer n ∧ FitsWord n) ∨ ∃ d, v = decimal d

theorem isNumber_of_numberValue? {v : Json} {negative : Bool} {whole frac : List Char} {exp : Option Int}
    (h : numberValue? negative whole frac exp = some v) : IsNumber v := by
  unfold numberValue? at h
  dsimp only at h
  split at h
  · rename_i hsmall
    cases h
    simp only [Bool.and_eq_true, decide_eq_true_eq, Nat.pow_eq] at hsmall
    refine .inl ⟨_, rfl, ?_, ?_⟩
    · omega
    · omega
  split at h
  · rename_i hsmall
    cases h
    simp only [Bool.and_eq_true, decide_eq_true_eq, Nat.pow_eq] at hsmall
    refine .inl ⟨_, rfl, ?_, ?_⟩
    · omega
    · omega
  · obtain ⟨d, -, rfl⟩ := Option.map_eq_some_iff.mp h
    exact .inr ⟨d, rfl⟩

theorem isNumber_of_unsigned? {v : Json} {negative : Bool} (h : unsigned? negative cs = some (v, rest)) : IsNumber v := by
  unfold unsigned? at h
  dsimp only at h
  split at h
  · cases h
  obtain ⟨⟨frac, behind⟩, -, h⟩ := Option.bind_eq_some_iff.mp h
  obtain ⟨⟨exp, behind'⟩, -, h⟩ := Option.bind_eq_some_iff.mp h
  obtain ⟨value, hvalue, h⟩ := Option.bind_eq_some_iff.mp h
  cases h
  exact isNumber_of_numberValue? hvalue

/-- **What is read as a number is one.** -/
theorem isNumber_of_number? {v : Json} (h : number? cs = some (v, rest)) : IsNumber v := by
  by_cases hsign : ∀ c ∈ cs.head?, c ≠ '-'
  · rw [number?_of_ne hsign] at h
    exact isNumber_of_unsigned? h
  · obtain ⟨more, rfl⟩ : ∃ more, cs = '-' :: more := by
      cases cs with
      | nil => exact absurd (by simp) hsign
      | cons c more =>
        refine ⟨more, ?_⟩
        simpa using hsign
    rw [number?_minus] at h
    exact isNumber_of_unsigned? h

end Json

/-- The printed form of a number that is no integer is read as the number. -/
def Decimal.ReadsBack (d : Decimal) : Prop :=
  Json.number? d.toDocument.toList = some (.decimal d, [])

end ClassWeaver
