import ClassWeaver.Proofs.ClassFile.PoolCalls

/-!
# Pools that survive being written

Additions count slots. The bytes of a pool have one limit more: a text stands behind the number of its bytes, and that
number has 16 bits. So a pool that was begun empty is read back exactly if every text that it was asked for takes at most
65535 bytes. A longer text is added like any other and is cut when it is written.

## Contents

* `Call.keepsLimits` — calls whose texts fit keep a pool within the limits of the format.
* `Addition.Brings`, `mem_slots_of_trace` — a call that succeeds has left all its texts in the pool.
* `decode_toBytes_iff` — which tidy pools are read back.
* `trace_reads_back_iff` — the same in terms of what was asked for.
-/

namespace ClassWeaver.ConstantPool

open Bytes

variable {p q : ConstantPool}

/-! ## Within the limits -/

theorem wellFormed_empty : empty.WellFormed :=
  ⟨⟨[], rfl, .nil⟩, fun c hc => by rw [List.mem_singleton.mp hc]; trivial, by decide⟩

/-- Only texts have a limit of their own. -/
theorem writable_of_ne_utf8 {c : Constant} (h : ∀ value, c ≠ .utf8 value) : c.Writable := by
  cases c with
  | utf8 value => exact absurd rfl (h value)
  | _ => trivial

theorem keepsLimits_of_ne_utf8 {c : Constant} (h : ∀ value, c ≠ .utf8 value) : Addition.KeepsLimits (add c) := by
  by_cases hc : c = .unusable
  · subst hc
    intro p q result hp hadd
    obtain ⟨added, hslots, -⟩ := hp.tiled
    have hsame := pool_of_add_of_mem (p := p) (Array.mem_def.mpr (hslots ▸ List.mem_cons_self))
    rw [hadd] at hsame
    obtain rfl : q = p := hsame
    exact hp
  · exact Addition.keepsLimits_add (writable_of_ne_utf8 h) hc

/-- **A call whose texts fit keeps a pool within the limits.** -/
theorem Call.keepsLimits {call : Call} (h : ∀ value ∈ call.texts, (Constant.utf8 value).Writable) :
    Addition.KeepsLimits call.run :=
  call.keeps (fun _ => keepsLimits_of_ne_utf8) fun value hvalue => Addition.keepsLimits_add (h value hvalue) nofun

/-- A tidy pool is read back if all its constants can be written, and only then. -/
theorem decode_toBytes_iff (hp : p.Tidy) : decode p.toBytes = .ok (p, []) ↔ ∀ c ∈ p.slots.toList, c.Writable := by
  constructor
  · intro h
    obtain ⟨-, -, -, hwritable⟩ := pool_eq_ok h
    exact hwritable
  · intro h
    have hread := reads_pool ⟨hp.tiled, h, hp.count_le⟩ []
    rwa [List.append_nil] at hread

/-! ## Texts that were asked for -/

namespace Addition

variable {α β : Type} {c : Constant}

/-- When the addition succeeds the constant is in the pool. -/
def Brings (c : Constant) (m : Addition α) : Prop :=
  ∀ ⦃p q : ConstantPool⦄ ⦃x⦄, m p = (.ok x, q) → c ∈ q.slots

theorem brings_add (c : Constant) : Brings c (add c) := by
  intro p q i h
  by_cases hmem : c ∈ p.slots
  · have hsame := pool_of_add_of_mem hmem
    rw [h] at hsame
    obtain rfl : q = p := hsame
    exact hmem
  · rcases pool_of_add_of_notMem hmem with ⟨hfull, -⟩ | ⟨j, q', hok, -, hnew⟩
    · rw [hfull] at h
      cases h
    · rw [hok] at h
      cases h
      refine Array.mem_def.mpr (hnew ▸ List.mem_append_right _ ?_)
      split <;> exact List.mem_cons_self

/-- What an earlier step brought stays. -/
theorem Brings.before {m : Addition α} {f : α → Addition β} (hm : Brings c m) (hf : ∀ x, Stable (f x)) :
    Brings c (m >>= f) := by
  intro p q y h
  obtain ⟨x, middle, hx, hy⟩ := bind_eq_ok.mp h
  exact Array.mem_def.mpr (((hf x).appends hy).subset (Array.mem_def.mp (hm hx)))

theorem Brings.behind {m : Addition α} {f : α → Addition β} (hf : ∀ x, Brings c (f x)) : Brings c (m >>= f) := by
  intro p q y h
  obtain ⟨x, middle, -, hy⟩ := bind_eq_ok.mp h
  exact hf x hy

end Addition

namespace Call

open Addition

/-- **A call that succeeds leaves all its texts in the pool.** -/
theorem brings {call : Call} {value : Utf8Constant} (h : value ∈ call.texts) : Brings (.utf8 value) call.run := by
  have hclass (name : String) : Brings (.utf8 (.ofText name)) (addClass name) :=
    (brings_add _).before fun _ => stable_add _
  have hpair {name descriptor : String} (h : value ∈ [Utf8Constant.ofText name, .ofText descriptor]) :
      Brings (.utf8 value) (addNameAndType name descriptor) := by
    rcases List.mem_cons.mp h with rfl | h
    · exact (brings_add _).before fun _ => (stable_addUtf8 descriptor).bind fun _ => stable_add _
    · rw [List.mem_singleton.mp h]
      exact .behind fun _ => (brings_add _).before fun _ => stable_add _
  have hmember {owner name descriptor : String} (refer : UInt16 → UInt16 → Constant)
      (h : value ∈ [Utf8Constant.ofText owner, .ofText name, .ofText descriptor]) : Brings (.utf8 value)
        (addClass owner >>= fun o => addNameAndType name descriptor >>= fun m => add (refer o m)) := by
    rcases List.mem_cons.mp h with rfl | h
    · exact (hclass owner).before fun _ => (stable_addNameAndType name descriptor).bind fun _ => stable_add _
    · exact .behind fun _ => (hpair h).before fun _ => stable_add _
  cases call with
  | constant c =>
    cases c with
    | utf8 _ =>
      rw [List.mem_singleton.mp h]
      exact brings_add _
    | _ => cases h
  | utf8 text =>
    rw [List.mem_singleton.mp h]
    exact brings_add _
  | classRef internalName =>
    rw [List.mem_singleton.mp h]
    exact hclass internalName
  | string text =>
    rw [List.mem_singleton.mp h]
    exact (brings_add _).before fun _ => stable_add _
  | integer _ => cases h
  | nameAndType name descriptor => exact hpair h
  | fieldRef owner name descriptor => exact hmember .fieldRef h
  | methodRef owner name descriptor ofInterface =>
    exact hmember (fun o m => if ofInterface then .interfaceMethodRef o m else .methodRef o m) h

theorem trace_extends (calls : List Call) (p : ConstantPool) : p.Extends (trace calls p).2 :=
  trace_keeps (P := p.Extends) (fun call _ _ _ _ hp h => hp.of_extends (call.stable.appends h)) (.refl p)

/-- **When all calls succeed, all their texts are in the pool** that they leave. -/
theorem mem_slots_of_trace {calls : List Call} {p : ConstantPool} (hok : ∀ answer ∈ (trace calls p).1, ∃ i, answer = .ok i)
    {call : Call} (hcall : call ∈ calls) {value : Utf8Constant} (hvalue : value ∈ call.texts) :
    .utf8 value ∈ (trace calls p).2.slots := by
  induction calls generalizing p with
  | nil => cases hcall
  | cons first rest ih =>
    obtain ⟨⟨i, hfirst⟩, hrest⟩ := List.forall_mem_cons.mp hok
    rcases List.mem_cons.mp hcall with rfl | hcall
    · have hmem : .utf8 value ∈ (call.run p).2.slots := brings hvalue (Prod.ext hfirst rfl)
      exact Array.mem_def.mpr ((trace_extends rest _).subset (Array.mem_def.mp hmem))
    · exact ih hrest hcall

/-- The texts of calls are spelled by their bytes, as far as the constants are that are handed over ready-made. -/
theorem spelled_of_mem_texts {call : Call} {value : Utf8Constant} (h : value ∈ call.texts)
    (hconstant : call = .constant (.utf8 value) → Utf8Constant.ofRaw value.raw = .ok value) :
    Utf8Constant.ofRaw value.raw = .ok value := by
  have htexts (ts : List String) (h : value ∈ ts.map Utf8Constant.ofText) : Utf8Constant.ofRaw value.raw = .ok value := by
    obtain ⟨text, -, rfl⟩ := List.mem_map.mp h
    exact Utf8Constant.ofRaw_ofText text
  cases call with
  | constant c =>
    cases c with
    | utf8 _ =>
      rw [List.mem_singleton.mp h] at hconstant ⊢
      exact hconstant rfl
    | _ => cases h
  | integer _ => cases h
  | utf8 text => exact htexts [text] h
  | classRef internalName => exact htexts [internalName] h
  | string text => exact htexts [text] h
  | nameAndType name descriptor => exact htexts [name, descriptor] h
  | fieldRef owner name descriptor => exact htexts [owner, name, descriptor] h
  | methodRef owner name descriptor _ => exact htexts [owner, name, descriptor] h

end Call

/-! ## Grown pools -/

/-- **A pool that was begun empty and grown by calls that succeed is read back** exactly if every text that was asked for
takes at most 65535 bytes. -/
theorem trace_reads_back_iff {calls : List Call} (hok : ∀ answer ∈ (Call.trace calls .empty).1, ∃ i, answer = .ok i)
    (hspelled : ∀ value, .constant (.utf8 value) ∈ calls → Utf8Constant.ofRaw value.raw = .ok value) :
    decode (Call.trace calls .empty).2.toBytes = .ok ((Call.trace calls .empty).2, []) ↔
      ∀ call ∈ calls, ∀ value ∈ call.texts, value.raw.length ≤ 65535 := by
  rw [decode_toBytes_iff (tidy_trace calls tidy_empty)]
  constructor
  · intro h call hcall value hvalue
    exact Nat.le_of_lt_succ (h _ (Array.mem_def.mp (Call.mem_slots_of_trace hok hcall hvalue))).1
  · intro h
    have hkeeps : ∀ call ∈ calls, Addition.Keeps WellFormed call.run := by
      refine fun call hcall => Call.keepsLimits fun value hvalue => ⟨Nat.lt_succ_of_le (h call hcall value hvalue), ?_⟩
      exact Call.spelled_of_mem_texts hvalue fun heq => hspelled value (heq ▸ hcall)
    exact (Call.trace_keeps hkeeps wellFormed_empty).writable

/-- A string with a character that takes two bytes, and a constant that takes two slots. -/
def greeting : List Call :=
  [.string "hello\x00", .constant (.double 0x3FF8000000000000), .utf8 "hello\x00"]

/-- What they leave. -/
def greetingPool : ConstantPool :=
  ⟨#[.unusable, .utf8 (.ofText "hello\x00"), .string 1, .double 0x3FF8000000000000, .unusable]⟩

/-- The later request for the text is answered with its first index, and the pool is read back. -/
theorem trace_reads_back_greeting :
    Call.trace greeting .empty = ([.ok 2, .ok 3, .ok 1], greetingPool) ∧
      decode (Call.trace greeting .empty).2.toBytes = .ok ((Call.trace greeting .empty).2, []) := by
  have hstring : (Call.string "hello\x00").run .empty = (.ok 2, ⟨#[.unusable, .utf8 (.ofText "hello\x00"), .string 1]⟩) :=
    Addition.bind_eq_ok.mpr ⟨1, _, (add_eq _ _).trans rfl, (add_eq _ _).trans rfl⟩
  have hdouble : (Call.constant (.double 0x3FF8000000000000)).run ⟨#[.unusable, .utf8 (.ofText "hello\x00"), .string 1]⟩ =
      (.ok 3, greetingPool) := (add_eq _ _).trans rfl
  have htext : (Call.utf8 "hello\x00").run greetingPool = (.ok 1, greetingPool) := (add_eq _ _).trans rfl
  have htrace : Call.trace greeting .empty = ([.ok 2, .ok 3, .ok 1], greetingPool) := by
    rw [greeting, Call.trace_cons hstring, Call.trace_cons hdouble, Call.trace_cons htext, Call.trace]
  refine ⟨htrace, (trace_reads_back_iff ?_ ?_).mpr ?_⟩
  · rw [htrace]
    simp
  · simp [greeting]
  · simp [greeting, Call.texts]
    decide

/-- A text of `n` letters. -/
def letters (n : Nat) : String :=
  String.ofList (List.replicate n 'a')

theorem encode_letters (n : Nat) : ModifiedUtf8.encode (letters n) = List.replicate n 97 := by
  rw [ModifiedUtf8.encode, letters, String.toList_ofList, List.flatMap_replicate]
  exact List.flatten_replicate_singleton

theorem length_encode_letters (n : Nat) : (ModifiedUtf8.encode (letters n)).length = n := by
  rw [encode_letters, List.length_replicate]

theorem addUtf8_empty (text : String) : addUtf8 text .empty = (.ok 1, ⟨#[.unusable, .utf8 (.ofText text)]⟩) :=
  (add_eq _ _).trans rfl

/-- A text whose length is written as zero leaves its bytes to whatever is read next. -/
theorem decode_of_length_eq (text : String) {raw : List UInt8} (h : raw.length = 65536) :
    decode (toBytes ⟨#[.unusable, .utf8 ⟨text, raw⟩]⟩) = .ok (⟨#[.unusable, .utf8 ⟨"", []⟩]⟩, raw) := by
  have hbytes : toBytes ⟨#[.unusable, .utf8 ⟨text, raw⟩]⟩ = [0, 2] ++ (1 :: (count16 raw.length ++ raw)) := by
    show count16 2 ++ ([] ++ ((1 :: (count16 raw.length ++ raw)) ++ [])) = _
    rw [List.append_nil]
    rfl
  rw [hbytes, h]
  rfl

/-- Such a text is added like any other, and the pool is not read back. -/
theorem not_reads_back_of_length_eq {text : String} (h : (ModifiedUtf8.encode text).length = 65536) :
    ∃ p, Call.trace [.utf8 text] .empty = ([.ok 1], p) ∧ p.utf8 1 = .ok text ∧
      decode p.toBytes = .ok (⟨#[.unusable, .utf8 ⟨"", []⟩]⟩, ModifiedUtf8.encode text) ∧ decode p.toBytes ≠ .ok (p, []) := by
  have hadd : (Call.utf8 text).run .empty = (.ok 1, ⟨#[.unusable, .utf8 (.ofText text)]⟩) := addUtf8_empty text
  have hread := decode_of_length_eq text h
  refine ⟨⟨#[.unusable, .utf8 (.ofText text)]⟩, ?_, utf8_of_addUtf8 (by decide) hadd, hread, ?_⟩
  · rw [Call.trace_cons hadd, Call.trace]
  · intro hback
    have hleft : ModifiedUtf8.encode text = [] := congrArg Prod.snd (Except.ok.inj (hread.symm.trans hback))
    rw [hleft] at h
    cases h

/-- The shortest such text of letters is read as an empty one, and its bytes are left over. -/
theorem letters_are_cut :
    ∃ p, Call.trace [.utf8 (letters 65536)] .empty = ([.ok 1], p) ∧ p.utf8 1 = .ok (letters 65536) ∧
      decode p.toBytes = .ok (⟨#[.unusable, .utf8 ⟨"", []⟩]⟩, ModifiedUtf8.encode (letters 65536)) ∧
      decode p.toBytes ≠ .ok (p, []) :=
  not_reads_back_of_length_eq (length_encode_letters 65536)

end ClassWeaver.ConstantPool
