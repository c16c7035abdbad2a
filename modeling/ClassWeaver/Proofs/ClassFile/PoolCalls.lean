import ClassWeaver.Proofs.ClassFile.WithinLimits

/-!
# Calls that grow a pool

All that can be asked of a pool is made of single additions. So what single additions keep is kept by every sequence of
calls, also where a call of several steps fails between them: what it had added by then is as good as anything else in
the pool. In a pool that was begun empty no usable constant is there twice. A pool that was read may have repeats; calls
then use the first of equal constants and leave the others alone.

## Contents

* `Call`, `Call.run`, `Call.trace` — what a pool can be asked to add, and what a sequence of calls answers and leaves.
* `Call.closed` — what holds of single additions and goes through sequences holds of every call.
* `Tidy`, `tidy_add`, `tidy_trace` — pools without gaps and repeats, and that calls leave no others.
* `add_eq_error_iff` — when a single addition fails.
* `Call.Means`, `means_of_run` — what the index stands for that a call answers.
* `growth` — all of this together.
-/

namespace ClassWeaver.ConstantPool

variable {p q r : ConstantPool}

/-! ## Calls -/

/-- What a pool can be asked to add. -/
inductive Call
  | constant (c : Constant)
  | utf8 (text : String)
  | classRef (internalName : String)
  | string (text : String)
  | integer (value : Int32)
  | nameAndType (name descriptor : String)
  | fieldRef (owner name descriptor : String)
  | methodRef (owner name descriptor : String) (ofInterface : Bool)

namespace Call

/-- The addition that the call asks for. -/
def run : Call → Addition UInt16
  | constant c => add c
  | utf8 text => addUtf8 text
  | classRef internalName => addClass internalName
  | string text => addString text
  | integer value => addInteger value
  | nameAndType name descriptor => addNameAndType name descriptor
  | fieldRef owner name descriptor => addFieldRef owner name descriptor
  | methodRef owner name descriptor ofInterface => addMethodRef owner name descriptor ofInterface

/-- The text constants that the call asks for, those included that it needs on the way. -/
def texts : Call → List Utf8Constant
  | constant (.utf8 value) => [value]
  | constant _ | integer _ => []
  | utf8 text | classRef text | string text => [.ofText text]
  | nameAndType name descriptor => [.ofText name, .ofText descriptor]
  | fieldRef owner name descriptor | methodRef owner name descriptor _ =>
    [.ofText owner, .ofText name, .ofText descriptor]

/-- The answers to calls in a row, whether they succeed or fail, and the pool behind the last of them. -/
def trace : List Call → ConstantPool → List (Except Defect UInt16) × ConstantPool
  | [], p => ([], p)
  | call :: rest, p =>
    let (answer, q) := call.run p
    let (answers, r) := trace rest q
    (answer :: answers, r)

theorem trace_cons {call : Call} {rest : List Call} {answer : Except Defect UInt16} (h : call.run p = (answer, q)) :
    trace (call :: rest) p = (answer :: (trace rest q).1, (trace rest q).2) := by
  rw [trace, h]

/-- **What is closed under sequences holds of a call** if it holds of the single additions that calls are made of. -/
theorem closed {Q : Addition UInt16 → Prop} (call : Call)
    (hbind : ∀ (m : Addition UInt16) (f : UInt16 → Addition UInt16), Q m → (∀ x, Q (f x)) → Q (m >>= f))
    (hother : ∀ c, (∀ value, c ≠ .utf8 value) → Q (add c)) (htexts : ∀ value ∈ call.texts, Q (add (.utf8 value))) :
    Q call.run := by
  have hclass {name : String} (h : Q (addUtf8 name)) : Q (addClass name) :=
    hbind _ _ h fun _ => hother _ nofun
  have hpair {name descriptor : String} (hn : Q (addUtf8 name)) (hd : Q (addUtf8 descriptor)) :
      Q (addNameAndType name descriptor) :=
    hbind _ _ hn fun _ => hbind _ _ hd fun _ => hother _ nofun
  cases call with
  | constant c =>
    cases c with
    | utf8 value => exact htexts value List.mem_cons_self
    | _ => exact hother _ nofun
  | utf8 text => exact htexts _ List.mem_cons_self
  | classRef internalName => exact hclass (htexts _ List.mem_cons_self)
  | string text => exact hbind _ _ (htexts _ List.mem_cons_self) fun _ => hother _ nofun
  | integer value => exact hother _ nofun
  | nameAndType name descriptor => exact hpair (htexts _ (by simp [texts])) (htexts _ (by simp [texts]))
  | fieldRef owner name descriptor =>
    refine hbind _ _ (hclass (htexts _ (by simp [texts]))) fun _ => hbind _ _ (hpair ?_ ?_) fun _ => hother _ nofun
    · exact htexts _ (by simp [texts])
    · exact htexts _ (by simp [texts])
  | methodRef owner name descriptor ofInterface =>
    refine hbind _ _ (hclass (htexts _ (by simp [texts]))) fun _ => hbind _ _ (hpair ?_ ?_) fun _ => hother _ ?_
    · exact htexts _ (by simp [texts])
    · exact htexts _ (by simp [texts])
    · cases ofInterface <;> exact nofun

/-- **A call appends, takes no slot behind the last one there may be, and finds everything again.** -/
theorem stable (call : Call) : Addition.Stable call.run :=
  call.closed (fun _ _ hm hf => hm.bind hf) (fun c _ => Addition.stable_add c) fun _ _ => Addition.stable_add _

theorem keeps {P : ConstantPool → Prop} (call : Call) (hother : ∀ c, (∀ value, c ≠ .utf8 value) → Addition.Keeps P (add c))
    (htexts : ∀ value ∈ call.texts, Addition.Keeps P (add (.utf8 value))) : Addition.Keeps P call.run :=
  call.closed (fun _ _ hm hf => hm.bind hf) hother htexts

/-- What each call of a sequence keeps is kept by the sequence. -/
theorem trace_keeps {P : ConstantPool → Prop} {calls : List Call} (h : ∀ call ∈ calls, Addition.Keeps P call.run)
    (hp : P p) : P (trace calls p).2 := by
  induction calls generalizing p with
  | nil => exact hp
  | cons call rest ih =>
    obtain ⟨hcall, hrest⟩ := List.forall_mem_cons.mp h
    exact ih hrest (hcall hp rfl)

end Call

/-! ## Pools without gaps and repeats -/

/-- Slot 0 is unusable, the others are tiled, no two usable constants are equal, and there are at most 65535 slots. -/
structure Tidy (p : ConstantPool) : Prop where
  tiled : ∃ added, p.slots.toList = .unusable :: added ∧ Tiled added
  distinct : (p.slots.toList.filter (· ≠ .unusable)).Nodup
  count_le : p.count ≤ 65535

theorem tidy_empty : empty.Tidy :=
  ⟨⟨[], rfl, .nil⟩, by simp [empty], by decide⟩

/-- A constant that is there is not added. -/
theorem pool_of_add_of_mem {c : Constant} (h : c ∈ p.slots) : (add c p).2 = p := by
  rw [add]
  split
  · rfl
  · rename_i hnone
    have := Array.findIdx?_eq_none_iff.mp hnone c h
    rw [beq_self_eq_true] at this
    cases this

/-- A constant that is new is appended, a wide one with its second slot, or there is no room for it. -/
theorem pool_of_add_of_notMem {c : Constant} (h : c ∉ p.slots) :
    add c p = (.error .poolOverflow, p) ∧ 65535 < p.count + c.width ∨
      ∃ i q, add c p = (.ok i, q) ∧ p.count + c.width ≤ 65535 ∧
        q.slots.toList = p.slots.toList ++ (if c.isWide then [c, .unusable] else [c]) := by
  have hnone : p.slots.findIdx? (· == c) = none := by
    refine Array.findIdx?_eq_none_iff.mpr fun x hx => ?_
    rw [beq_eq_false_iff_ne]
    rintro rfl
    exact h hx
  rw [add, hnone]
  dsimp only
  by_cases hroom : p.count + c.width > 65535
  · rw [if_pos hroom]
    exact .inl ⟨rfl, hroom⟩
  · rw [if_neg hroom]
    refine .inr ⟨_, _, rfl, Nat.le_of_not_lt hroom, ?_⟩
    split <;> simp

/-- **An addition leaves a tidy pool tidy**, whatever constant it is and whether there is room for it. -/
theorem tidy_add (c : Constant) : Addition.Keeps Tidy (add c) := by
  intro p q result hp h
  have hcount := count_of_add h
  have hle := hp.count_le
  by_cases hmem : c ∈ p.slots
  · have hsame := pool_of_add_of_mem hmem
    rw [h] at hsame
    obtain rfl : q = p := hsame
    exact hp
  · obtain ⟨added, hslots, htiled⟩ := hp.tiled
    -- slot 0 is unusable, so a constant that is new is usable
    have hne : c ≠ .unusable := by
      rintro rfl
      exact hmem (Array.mem_def.mpr (hslots ▸ List.mem_cons_self))
    rcases pool_of_add_of_notMem hmem with ⟨hfull, -⟩ | ⟨i, q', hok, -, hnew⟩
    · rw [hfull] at h
      cases h
      exact hp
    · rw [hok] at h
      cases h
      have hblock : Tiled (if c.isWide then [c, .unusable] else [c]) := by
        split
        · rename_i hwide
          exact .wide hwide .nil
        · rename_i hnarrow
          exact .narrow (Bool.eq_false_iff.mpr hnarrow) hne .nil
      have husable : (if c.isWide then [c, .unusable] else [c]).filter (· ≠ .unusable) = [c] := by
        split <;> simp [hne]
      refine ⟨⟨_, by rw [hnew, hslots, List.cons_append], htiled.append hblock⟩, ?_, by omega⟩
      rw [hnew, List.filter_append, husable, List.nodup_append]
      refine ⟨hp.distinct, by simp, fun a ha b hb => ?_⟩
      rw [List.mem_singleton.mp hb]
      rintro rfl
      exact hmem (Array.mem_def.mpr (List.mem_filter.mp ha).1)

/-- **Calls leave a tidy pool tidy**, those that fail included. -/
theorem tidy_trace (calls : List Call) (hp : p.Tidy) : (Call.trace calls p).2.Tidy :=
  Call.trace_keeps (fun call _ => call.keeps (fun c _ => tidy_add c) fun _ _ => tidy_add _) hp

/-! ## Answers -/

/-- **A single addition fails** for a constant that is new and has no room, and only then. -/
theorem add_eq_error_iff {c : Constant} {e : Defect} :
    add c p = (.error e, q) ↔ e = .poolOverflow ∧ q = p ∧ c ∉ p.slots ∧ 65535 < p.count + c.width := by
  by_cases hmem : c ∈ p.slots
  · refine iff_of_false ?_ fun h => h.2.2.1 hmem
    intro h
    rw [add] at h
    split at h
    · cases h
    · rename_i hnone
      have := Array.findIdx?_eq_none_iff.mp hnone c hmem
      rw [beq_self_eq_true] at this
      cases this
  · rcases pool_of_add_of_notMem hmem with ⟨hfull, hroom⟩ | ⟨i, q', hok, hroom, -⟩
    · rw [hfull, Prod.mk.injEq, Except.error.injEq]
      constructor
      · rintro ⟨rfl, rfl⟩
        exact ⟨rfl, rfl, hmem, hroom⟩
      · rintro ⟨rfl, rfl, -, -⟩
        exact ⟨rfl, rfl⟩
    · rw [hok]
      refine iff_of_false (fun h => ?_) fun h => absurd h.2.2.2 (Nat.not_lt_of_le hroom)
      cases h

namespace Call

/-- What an index stands for that the call answers: the constant, or the texts, that it was asked for. -/
def Means (q : ConstantPool) (i : UInt16) : Call → Prop
  | constant c => c ≠ .unusable → q.get? i = some c
  | utf8 text => q.utf8 i = .ok text
  | classRef internalName => q.className i = .ok internalName
  | string text => ∃ value, q.get? i = some (.string value) ∧ q.utf8 value = .ok text
  | integer value => q.get? i = some (.integer value)
  | nameAndType name descriptor => q.nameAndType i = .ok (name, descriptor)
  | fieldRef owner name descriptor =>
    (∃ o m, q.get? i = some (.fieldRef o m)) ∧ q.memberRef i = .ok ⟨owner, name, descriptor⟩
  | methodRef owner name descriptor ofInterface =>
    (∃ o m, q.get? i = some (if ofInterface then .interfaceMethodRef o m else .methodRef o m)) ∧
      q.memberRef i = .ok ⟨owner, name, descriptor⟩

/-- **The index that a call answers stands for what was asked for.** -/
theorem means_of_run {call : Call} {i : UInt16} (hp : p.count ≤ 65536) (h : call.run p = (.ok i, q)) : call.Means q i := by
  cases call with
  | constant c => exact fun hc => get?_of_add hc hp h
  | utf8 text => exact utf8_of_addUtf8 hp h
  | classRef internalName => exact className_of_addClass hp h
  | string text =>
    obtain ⟨value, middle, hvalue, hstring⟩ := Addition.bind_eq_ok.mp h
    have hmiddle := (Addition.stable_addUtf8 text).count_le hvalue
    exact ⟨value, get?_of_add nofun (by omega) hstring,
      ((Addition.stable_add _).appends hstring).utf8 (utf8_of_addUtf8 hp hvalue)⟩
  | integer value => exact get?_of_add nofun hp h
  | nameAndType name descriptor => exact nameAndType_of_addNameAndType hp h
  | fieldRef owner name descriptor => exact reference_of_addFieldRef hp h
  | methodRef owner name descriptor ofInterface => exact reference_of_addMethodRef hp h

/-- What a call does in a pool: it appends, so what was there keeps its index, and the index that it answers stands for
what was asked for, and is answered again, without a change, when the call is made once more. -/
structure Answered (p : ConstantPool) (call : Call) : Prop where
  appends : p.Extends (call.run p).2
  count_le : (call.run p).2.count ≤ 65535
  keeps : ∀ i c, p.get? i = some c → (call.run p).2.get? i = some c
  means : ∀ i q, call.run p = (.ok i, q) → call.Means q i
  again : ∀ i q, call.run p = (.ok i, q) → call.run q = (.ok i, q)

theorem answered (hp : p.count ≤ 65535) (call : Call) : call.Answered p where
  appends := call.stable.appends rfl
  count_le := Nat.le_trans (call.stable.count_le rfl) (Nat.max_le.mpr ⟨hp, Nat.le_refl _⟩)
  keeps _ _ h := (call.stable.appends rfl : p.Extends (call.run p).2).get? h
  means _ _ h := means_of_run (Nat.le_succ_of_le hp) h
  again _ q h := call.stable.again h (.refl q)

end Call

/-- **How pools grow.** Whatever is asked of a pool that was begun empty, it is left tidy. In a pool of any origin each call
only appends and answers an index that stands for what was asked for, and a single addition fails exactly for a new constant
that has no room. -/
theorem growth (hp : p.count ≤ 65535) (call : Call) (c : Constant) (calls : List Call) :
    (Call.trace calls .empty).2.Tidy ∧ call.Answered p ∧
      ∀ e q, add c p = (.error e, q) ↔ e = .poolOverflow ∧ q = p ∧ c ∉ p.slots ∧ 65535 < p.count + c.width :=
  ⟨tidy_trace calls tidy_empty, call.answered hp, fun _ _ => add_eq_error_iff⟩

/-- A pool in which one text is there twice, as a class that was read may have it. -/
def repeated : ConstantPool :=
  ⟨#[.unusable, .utf8 (.ofText "A"), .utf8 (.ofText "A")]⟩

/-- A class that is added refers to the first of two equal texts; the pool keeps both. -/
theorem growth_repeated :
    repeated.count ≤ 65535 ∧ (Call.classRef "A").Answered repeated ∧
      (Call.classRef "A").run repeated = (.ok 3, ⟨repeated.slots.push (.classRef 1)⟩) ∧
      (Call.trace [.constant (.long 5), .constant .unusable, .string "A", .utf8 "A"] .empty).2.Tidy := by
  have hcount : repeated.count ≤ 65535 := by decide
  obtain ⟨htidy, hanswered, -⟩ := growth hcount (.classRef "A") .unusable
    [.constant (.long 5), .constant .unusable, .string "A", .utf8 "A"]
  have hrun : (Call.classRef "A").run repeated = (.ok 3, ⟨repeated.slots.push (.classRef 1)⟩) :=
    Addition.bind_eq_ok.mpr ⟨1, repeated, (add_eq _ _).trans rfl, (add_eq _ _).trans rfl⟩
  exact ⟨hcount, hanswered, hrun, htidy⟩

end ClassWeaver.ConstantPool
