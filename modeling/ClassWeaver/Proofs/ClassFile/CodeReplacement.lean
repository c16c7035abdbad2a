import ClassWeaver.Proofs.ClassFile.ClassEdits

/-!
# Giving one method a body

Writing a body adds to the pool that all members share, and it may fail after it has added something. Neither matters to
anything but the method that is meant: names that were found are found again in a larger pool, so the other bodies are read
as they were read before. A failure leaves the additions behind and nothing else.

## Contents

* `Listing.decode_of_extends`, `MethodBody.decode_of_extends` — a body that was read is read again in a larger pool.
* `ClassFile.code_of_extends` — the body of a method that is left alone.
* `ClassEdit.BodyGiven`, `setCode_local` — what giving a method a body does, and that it does no more.
-/

namespace ClassWeaver

variable {p q : ConstantPool}

/-! ## Reading a body in a larger pool -/

/-- The pool is asked for names only, and a name that it has it keeps. -/
theorem Listing.decode_of_extends (hpool : p.Extends q) {info : List UInt8} {l : Listing}
    (h : Listing.decode p info = .ok l) : Listing.decode q info = .ok l := by
  unfold Listing.decode at h ⊢
  obtain ⟨raw, hraw, h⟩ := except_bind_eq_ok.mp h
  obtain ⟨steps, hsteps, h⟩ := except_bind_eq_ok.mp h
  obtain ⟨_, hoffsets, h⟩ := except_bind_eq_ok.mp h
  obtain ⟨attributes, hattributes, h⟩ := except_bind_eq_ok.mp h
  have hagain : raw.attributes.mapM (BodyAttribute.decode q raw.code.length) = .ok attributes := by
    refine mapM_eq_ok_of_imp ?_ hattributes
    intro a content ha
    unfold BodyAttribute.decode at ha ⊢
    obtain ⟨name, hname, ha⟩ := except_bind_eq_ok.mp ha
    exact except_bind_eq_ok.mpr ⟨name, hpool.utf8 hname, ha⟩
  refine except_bind_eq_ok.mpr ⟨raw, hraw, except_bind_eq_ok.mpr ⟨steps, hsteps, ?_⟩⟩
  exact except_bind_eq_ok.mpr ⟨_, hoffsets, except_bind_eq_ok.mpr ⟨attributes, hagain, h⟩⟩

/-- **A body that was read is read again in a larger pool.** -/
theorem MethodBody.decode_of_extends (hpool : p.Extends q) {info : List UInt8} {b : MethodBody}
    (h : MethodBody.decode p info = .ok b) : MethodBody.decode q info = .ok b := by
  unfold MethodBody.decode at h ⊢
  obtain ⟨l, hl, h⟩ := except_bind_eq_ok.mp h
  exact except_bind_eq_ok.mpr ⟨l, Listing.decode_of_extends hpool hl, h⟩

theorem ClassFile.code_eq_error {c : ClassFile} {index : Nat} (hm : c.methods[index]? = none) :
    c.code index = .error (.malformed (.noMethod index)) := by
  have hmethod : c.method index = .error (.malformed (.noMethod index)) := by
    unfold method
    rw [hm]
  unfold code
  rw [hmethod]
  rfl

theorem Member.NamesResolve.codePayload?_eq {m : Member} (h : m.NamesResolve p) (hpool : p.Extends q) :
    m.codePayload? q = m.codePayload? p := by
  unfold codePayload?
  rw [h.codePosition?_eq hpool]

/-- **A method that is left alone keeps its body**, or has none as before, if its body could be read at all. -/
theorem ClassFile.code_of_extends {c c' : ClassFile} {index : Nat} {body : Option MethodBody}
    (hnames : ∀ m ∈ c.methods, m.NamesResolve c.pool) (hpool : c.pool.Extends c'.pool)
    (hsame : c'.methods[index]? = c.methods[index]?) (h : c.code index = .ok body) : c'.code index = .ok body := by
  cases hm : c.methods[index]? with
  | none =>
    rw [code_eq_error hm] at h
    cases h
  | some m =>
    have hpayload := (hnames m (List.mem_of_getElem? hm)).codePayload?_eq hpool
    rw [code_eq hm] at h
    rw [code_eq (hsame.trans hm), hpayload]
    cases hinfo : m.codePayload? c.pool with
    | none =>
      rw [hinfo] at h
      exact h
    | some info =>
      rw [hinfo] at h
      obtain ⟨b, hb, rfl⟩ := except_map_eq_ok.mp h
      exact except_map_eq_ok.mpr ⟨b, MethodBody.decode_of_extends hpool hb, rfl⟩

namespace ClassEdit

variable {c c' : ClassFile} {index : Nat} {body : MethodBody} {info : List UInt8}

/-! ## One method -/

/-- What giving a method a body leaves: the pool has grown, the body of this method is the new payload, and all the rest
of the class is as it was. -/
structure BodyGiven (index : Nat) (info : List UInt8) (c c' : ClassFile) : Prop where
  pool : c.pool.Extends c'.pool
  /-- The header, the interfaces, the fields and the attributes of the class are what they were. -/
  frame : c' = { c with pool := c'.pool, methods := c'.methods }
  /-- Of the methods only the one that is meant has other attributes: its first body has the new payload, or it has got
  a body in front of its attributes. -/
  method : ∃ m attributes, c.methods[index]? = some m ∧ c'.methods = c.methods.set index { m with attributes } ∧
    Member.BodyReplaced c'.pool info m.attributes attributes
  /-- The other methods have the bodies that they had. -/
  others : ∀ j, j ≠ index → ∀ b, c.code j = .ok b → c'.code j = .ok b
  /-- The method has the body that the payload says. -/
  code : c'.code index = some <$> MethodBody.decode c'.pool info

/-- A failure comes before any member is touched. -/
theorem setCode_eq_error {e : Defect} (h : setCode index body c = (.error e, c')) :
    c.pool.Extends c'.pool ∧ c' = c.withPool c'.pool := by
  unfold setCode at h
  rw [Edits.get_bind] at h
  rcases Edits.bind_eq_error h with h | ⟨m, u, hm, h⟩
  · obtain rfl : c = c' := congrArg Prod.snd h
    exact ⟨.refl _, rfl⟩
  obtain ⟨-, rfl⟩ := Edits.lift_eq_ok.mp hm
  have hbody := MethodBody.stable_encode body
  rcases Edits.bind_eq_error h with h | ⟨info, u, hinfo, h⟩
  · -- the body could not be written, but some names of its tables may have been added
    have hpool : (body.encode c.pool).2 = c'.pool := congrArg (ClassFile.pool ∘ Prod.snd) h
    refine ⟨hpool ▸ hbody.appends rfl, ?_⟩
    exact (congrArg Prod.snd h).symm.trans (congrArg c.withPool hpool)
  · obtain ⟨pool, hpool, rfl⟩ := onPool_eq_ok.mp hinfo
    have hwritten : c.pool.Extends pool := hbody.appends hpool
    cases hposition : m.codePosition? c.pool with
    | some position =>
      rw [hposition] at h
      cases h
    | none =>
      rw [hposition] at h
      rcases Edits.bind_eq_error h with h | ⟨nameIndex, u, -, h⟩
      · -- the body is written, but there is no room for the name that it is to be put under
        have hlater : (ConstantPool.addUtf8 codeName pool).2 = c'.pool := congrArg (ClassFile.pool ∘ Prod.snd) h
        refine ⟨hwritten.of_extends (hlater ▸ (ConstantPool.Addition.stable_addUtf8 codeName).appends rfl), ?_⟩
        exact (congrArg Prod.snd h).symm.trans (congrArg c.withPool hlater)
      · cases h

theorem bodyGiven_of_setCode (hnames : ∀ m ∈ c.methods, m.NamesResolve c.pool) (hcount : c.pool.count ≤ 65536)
    (h : setCode index body c = (.ok (), c')) :
    ∃ info, (body.encode c.pool).1 = .ok info ∧ BodyGiven index info c c' := by
  obtain ⟨hpool, hcount', m, info, hm, hsettled⟩ := setCode_settled hnames hcount h
  obtain ⟨hagain, hready, heq⟩ := hsettled c'.pool (.refl _) hcount'
  have hwritten : (body.encode c.pool).1 = .ok info := by
    obtain ⟨_, _, info', pool, hencode, hcases⟩ := setCode_eq_ok.mp h
    have hextends : pool.Extends c'.pool := by
      rcases hcases with ⟨_, -, rfl⟩ | ⟨-, _, later, hname, rfl⟩
      · exact .refl _
      · exact (ConstantPool.Addition.stable_addUtf8 codeName).appends hname
    have hsame := (MethodBody.stable_encode body).again hencode hextends
    rw [hagain] at hsame
    rw [hencode]
    exact (congrArg Prod.fst hsame).symm
  have hmethods : c'.methods = c.methods.modify index (·.withCode c'.pool info) := congrArg ClassFile.methods heq
  have hnew : c'.methods[index]? = some (m.withCode c'.pool info) := by
    rw [hmethods, List.getElem?_modify_eq, hm]
    rfl
  refine ⟨info, hwritten, hpool, ?_, ⟨m, (m.withCode c'.pool info).attributes, hm, ?_, ?_⟩, ?_, ?_⟩
  · rw [hmethods]
    exact heq
  · rw [← Member.withCode_eq, hmethods, List.modify_eq_set_getElem?, hm]
    rfl
  · exact Member.bodyReplaced_withCode hready
  · intro j hj b hb
    refine ClassFile.code_of_extends hnames hpool ?_ hb
    rw [hmethods, List.getElem?_modify]
    simp only [if_neg (Ne.symm hj), Option.map_eq_map, Option.map_id']
  · rw [ClassFile.code_eq hnew, Member.codePayload?_withCode hready]

/-- **Giving a method a body is local.** If it succeeds, the body of this method is another one, and the pool has grown; if
it fails, the pool may have grown. Nothing else is touched either way. -/
theorem setCode_local (hnames : c.NamesResolve) (hcount : c.pool.count ≤ 65536) (index : Nat) (body : MethodBody) :
    (∀ c', setCode index body c = (.ok (), c') →
      ∃ info, (body.encode c.pool).1 = .ok info ∧ BodyGiven index info c c') ∧
    ∀ e c', setCode index body c = (.error e, c') → c.pool.Extends c'.pool ∧ c' = { c with pool := c'.pool } :=
  ⟨fun _ h => bodyGiven_of_setCode hnames.methods hcount h, fun _ _ h => setCode_eq_error h⟩

/-! ## A method without a body beside one with a body -/

open MethodBody (texts)

/-- A class whose method `get` has a body while `run` has none. -/
def halfFinished : ClassFile where
  minorVersion := 0
  majorVersion := 52
  pool := texts ["run", "()V", "get", "()I", "Code"]
  access := ⟨0x0021⟩
  thisClass := 0
  superClass := 0
  interfaces := []
  fields := []
  methods := [⟨.publicBit, 1, 2, []⟩, ⟨.publicBit, 3, 4, [⟨5, [0, 1, 0, 0, 0, 0, 0, 2, 4, 172, 0, 0, 0, 0]⟩]⟩]
  attributes := []

/-- A body that returns from line 7. -/
def returning : MethodBody :=
  { MethodBody.empty 0 0 with
    instructions := [.mark ⟨0⟩, .simple Opcode.voidReturn]
    lines := [⟨⟨0⟩, 7⟩]
    nextLabel := 1 }

/-- What is written of the body. -/
def returningCode : List UInt8 :=
  [0, 0, 0, 0, 0, 0, 0, 1, 177, 0, 0, 0, 1, 0, 6, 0, 0, 0, 6, 0, 1, 0, 0, 0, 7]

/-- The class with a body for `run` too. -/
def finished : ClassFile :=
  { halfFinished with
    pool := texts ["run", "()V", "get", "()I", "Code", "LineNumberTable"]
    methods := [⟨.publicBit, 1, 2, [⟨5, returningCode⟩]⟩,
      ⟨.publicBit, 3, 4, [⟨5, [0, 1, 0, 0, 0, 0, 0, 2, 4, 172, 0, 0, 0, 0]⟩]⟩] }

open ConstantPool.Addition (bind_eq_ok lift_bind_eq_ok) in
theorem encode_returning : returning.encode halfFinished.pool = (.ok returningCode, finished.pool) := by
  have hrows : MethodBody.tableAttribute "LineNumberTable" (Layout.of returning.instructions [false, false]).lineBytes
      returning.lines halfFinished.pool = (.ok [⟨6, [0, 1, 0, 0, 0, 7]⟩], finished.pool) :=
    MethodBody.tableAttribute_texts rfl rfl (by simp) (by decide)
  refine lift_bind_eq_ok.mpr ⟨_, rfl, ?_⟩
  rw [if_neg (by decide)]
  refine lift_bind_eq_ok.mpr ⟨_, rfl, lift_bind_eq_ok.mpr ⟨_, rfl, ?_⟩⟩
  exact bind_eq_ok.mpr ⟨_, _, bind_eq_ok.mpr ⟨_, _, hrows, rfl⟩, rfl⟩

theorem setCode_returning : setCode 0 returning halfFinished = (.ok (), finished) := by
  have hname : ConstantPool.addUtf8 codeName finished.pool = (.ok 5, finished.pool) :=
    MethodBody.addUtf8_texts_again (show "Code" ∉ ["run", "()V", "get", "()I"] by decide) (by decide)
  exact setCode_eq_ok.mpr ⟨_, rfl, _, _, encode_returning, .inr ⟨rfl, 5, _, hname, rfl⟩⟩

theorem namesResolve_halfFinished : halfFinished.NamesResolve where
  fields := nofun
  methods := by
    refine List.forall_mem_cons.mpr ⟨⟨⟨"run", rfl⟩, ⟨"()V", rfl⟩, nofun⟩, List.forall_mem_singleton.mpr ?_⟩
    exact ⟨⟨"get", rfl⟩, ⟨"()I", rfl⟩, List.forall_mem_singleton.mpr ⟨"Code", rfl⟩⟩

/-- The class after `run` was given its body: `get` has the body that it had, although a name was added to the pool. -/
theorem setCode_local_halfFinished :
    halfFinished.NamesResolve ∧ halfFinished.pool.count ≤ 65536 ∧
      setCode 0 returning halfFinished = (.ok (), finished) ∧ BodyGiven 0 returningCode halfFinished finished ∧
      finished.code 0 = .ok (some returning) ∧ finished.code 1 = halfFinished.code 1 := by
  have hcount : halfFinished.pool.count ≤ 65536 := by decide
  obtain ⟨info, hinfo, hgiven⟩ :=
    (setCode_local namesResolve_halfFinished hcount 0 returning).1 finished setCode_returning
  obtain rfl : returningCode = info := by
    rw [encode_returning] at hinfo
    exact Except.ok.inj hinfo
  have hother : halfFinished.code 1 = .ok _ := rfl
  exact ⟨namesResolve_halfFinished, hcount, setCode_returning, hgiven, rfl,
    (hgiven.others 1 (by decide) _ hother).trans hother.symm⟩

end ClassEdit

end ClassWeaver
