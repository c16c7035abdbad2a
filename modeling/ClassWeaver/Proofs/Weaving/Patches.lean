import ClassWeaver.Proofs.ClassFile.CodeReplacement
import ClassWeaver.Proofs.Weaving.Steps
import ClassWeaver.Weaving.Patch

/-!
# What patches change

A patch names a method by name and descriptor, and the first method so named is meant. Nothing else is touched: if the class
has no such method, if it has no body, or if the body is left as it is, the class is what it was, but for what the patch has
done to the pool. The patches of a class run one behind the other, and each sees the class that the one before it left.

Names are looked for in the pool of the class at hand. A patch may do to the pool what it likes, and so make names mean
something else; as long as patches only add to it, the methods that are named are those that the class names at the start.

## Contents

* `MethodPatch.Names`, `Finds`, `findMethod?_eq_some_iff` — the method that is meant.
* `Member.CodePlaced`, `setCode_eq_ok_iff` — where a body goes.
* `MethodPatch.Effect`, `apply_eq_ok_iff` — what a single patch does.
* `MethodPatch.Touches`, `ClassFile.Framed`, `Effect.methods_eq`, `Effect.framed`, `Effect.eq_of_idle` — what it leaves alone.
* `PoolWeaving.Grows`, `MethodPatch.OnlyAdds` — patches that only add to the pool.
* `MethodPatches.Run`, `apply_eq_ok_iff`, `Run.left` — the patches of a class, and what they leave alone.
* `MethodBody.replaceEach_eq_ok_iff` — replacing instructions.
* `patches_exact` — all of it.
-/

namespace ClassWeaver

variable {c c' d : ClassFile} {p : MethodPatch} {m : Member} {index : Nat} {body : MethodBody}

/-! ## The method that is meant -/

namespace MethodPatch

/-- The method has the name and the descriptor of the patch. -/
def Names (p : MethodPatch) (c : ClassFile) (m : Member) : Prop :=
  c.pool.utf8 m.nameIndex = .ok p.name ∧ c.pool.utf8 m.descriptorIndex = .ok p.descriptor

/-- The first method of the class that the patch names. -/
structure Finds (p : MethodPatch) (c : ClassFile) (index : Nat) (m : Member) : Prop where
  there : c.methods[index]? = some m
  names : p.Names c m
  first : ∀ j < index, ∀ other, c.methods[j]? = some other → ¬ p.Names c other

theorem hasTexts_iff : (c.pool.hasText m.nameIndex p.name && c.pool.hasText m.descriptorIndex p.descriptor) = true ↔
    p.Names c m := by
  rw [Bool.and_eq_true, ConstantPool.hasText_eq_true_iff, ConstantPool.hasText_eq_true_iff]
  exact Iff.rfl

theorem findMethod?_eq_none_iff : c.findMethod? p.name p.descriptor = none ↔ ∀ m ∈ c.methods, ¬ p.Names c m := by
  unfold ClassFile.findMethod? ClassFile.findMember?
  rw [List.findIdx?_eq_none_iff]
  refine forall₂_congr fun m _ => ?_
  rw [← hasTexts_iff, Bool.not_eq_true]

theorem findMethod?_eq_some_iff : c.findMethod? p.name p.descriptor = some index ↔ ∃ m, p.Finds c index m := by
  unfold ClassFile.findMethod? ClassFile.findMember?
  rw [List.findIdx?_eq_some_iff_getElem]
  constructor
  · rintro ⟨hlt, hfits, hearlier⟩
    refine ⟨c.methods[index], List.getElem?_eq_getElem hlt, hasTexts_iff.mp hfits, fun j hj other hother => ?_⟩
    obtain ⟨hjlt, rfl⟩ := List.getElem?_eq_some_iff.mp hother
    exact fun hnames => hearlier j hj (hasTexts_iff.mpr hnames)
  · rintro ⟨m, hthere, hnames, hfirst⟩
    obtain ⟨hlt, rfl⟩ := List.getElem?_eq_some_iff.mp hthere
    refine ⟨hlt, hasTexts_iff.mpr hnames, fun j hj hfits => ?_⟩
    exact hfirst j hj _ (List.getElem?_eq_getElem (Nat.lt_trans hj hlt)) (hasTexts_iff.mp hfits)

end MethodPatch

/-- The method has a body, and this is what it is read as. -/
def Member.HasBody (pool : ConstantPool) (m : Member) (body : MethodBody) : Prop :=
  ∃ info, m.codePayload? pool = some info ∧ MethodBody.decode pool info = .ok body

theorem code_eq_ok_none_iff (hm : c.methods[index]? = some m) : c.code index = .ok none ↔ m.codePayload? c.pool = none := by
  rw [ClassFile.code_eq hm]
  cases m.codePayload? c.pool with
  | none => exact iff_of_true rfl rfl
  | some info =>
    refine iff_of_false ?_ nofun
    intro h
    obtain ⟨_, -, h⟩ := except_map_eq_ok.mp h
    cases h

theorem code_eq_ok_some_iff (hm : c.methods[index]? = some m) : c.code index = .ok (some body) ↔ m.HasBody c.pool body := by
  unfold Member.HasBody
  rw [ClassFile.code_eq hm]
  cases m.codePayload? c.pool with
  | none => exact iff_of_false nofun fun ⟨_, h, _⟩ => nomatch h
  | some info => simp [except_map_eq_ok]

/-! ## Where a body goes -/

/-- The payload is put into the first attribute that holds a body, or in front of the attributes if there is none; in that
case its name comes to the pool behind what was written. -/
inductive Member.CodePlaced (pool : ConstantPool) (info : List UInt8) (written : ConstantPool) :
    List Attribute → List Attribute → ConstantPool → Prop
  | replaced {front back : List Attribute} {a : Attribute} (hfront : ∀ b ∈ front, pool.hasText b.nameIndex codeName = false)
      (ha : pool.hasText a.nameIndex codeName = true) :
      CodePlaced pool info written (front ++ a :: back) (front ++ { a with info } :: back) written
  | inserted {attributes : List Attribute} {nameIndex : UInt16} {later : ConstantPool}
      (hnone : ∀ b ∈ attributes, pool.hasText b.nameIndex codeName = false)
      (hname : ConstantPool.addUtf8 codeName written = (.ok nameIndex, later)) :
      CodePlaced pool info written attributes (⟨nameIndex, info⟩ :: attributes) later

theorem Member.CodePlaced.extends {pool written later : ConstantPool} {info : List UInt8} {old new : List Attribute}
    (h : CodePlaced pool info written old new later) : written.Extends later := by
  cases h with
  | replaced => exact .refl _
  | inserted _ hname => exact (ConstantPool.Addition.stable_addUtf8 codeName).appends hname

/-- **Giving a method a body** writes the body and puts it where the method has its body. -/
theorem setCode_eq_ok_iff : ClassEdit.setCode index body c = (.ok (), c') ↔
    ∃ m info written attributes pool, c.methods[index]? = some m ∧ body.encode c.pool = (.ok info, written) ∧
      Member.CodePlaced c.pool info written m.attributes attributes pool ∧
      c' = { c with pool, methods := c.methods.set index { m with attributes } } := by
  have hset {m : Member} (hm : c.methods[index]? = some m) (change : Member → Member) :
      c.methods.modify index change = c.methods.set index (change m) := by
    rw [List.modify_eq_set_getElem?, hm]
    rfl
  rw [ClassEdit.setCode_eq_ok]
  constructor
  · rintro ⟨m, hm, info, written, hencode, ⟨position, hposition, rfl⟩ | ⟨hposition, nameIndex, later, hname, rfl⟩⟩
    · obtain ⟨front, a, back, hsplit, -, ha, hfront, hmodify⟩ := split_of_findIdx? hposition
      refine ⟨m, info, written, front ++ { a with info } :: back, written, hm, hencode, ?_, ?_⟩
      · rw [hsplit]
        exact .replaced hfront ha
      · rw [hset hm, Member.setInfo, hmodify]
    · refine ⟨m, info, written, ⟨nameIndex, info⟩ :: m.attributes, later, hm, hencode, ?_, ?_⟩
      · exact .inserted (List.findIdx?_eq_none_iff.mp hposition) hname
      · rw [hset hm]
  · rintro ⟨m, info, written, attributes, pool, hm, hencode, hplaced, rfl⟩
    refine ⟨m, hm, info, written, hencode, ?_⟩
    obtain ⟨access, nameIndex, descriptorIndex, old⟩ := m
    cases hplaced with
    | @replaced front back a hfront ha =>
      have hposition : (front ++ a :: back).findIdx? (fun b => c.pool.hasText b.nameIndex codeName) = some front.length :=
        findIdx?_append_cons hfront ha
      have hmodify : (front ++ a :: back).modify front.length (fun a => { a with info }) =
          front ++ { a with info } :: back := by
        rw [List.modify_eq_take_cons_drop (by simp)]
        simp
      refine .inl ⟨front.length, hposition, ?_⟩
      rw [hset hm, Member.setInfo]
      dsimp only
      rw [← hmodify]
      rfl
    | inserted hnone hname =>
      refine .inr ⟨List.findIdx?_eq_none_iff.mpr hnone, _, _, hname, ?_⟩
      rw [hset hm]

/-! ## A single patch -/

/-- What a patch does to a class: it finds no method; or the method has no body; or the body is left as it is, and only the
pool may be another; or there is another body, which is written over the pool that the patch left. -/
inductive MethodPatch.Effect (p : MethodPatch) (c : ClassFile) : ClassFile → Prop
  | undeclared (hnone : ∀ m ∈ c.methods, ¬ p.Names c m) : Effect p c c
  | bodyless {index : Nat} {m : Member} (hfinds : p.Finds c index m) (hnone : m.codePayload? c.pool = none) : Effect p c c
  | kept {index : Nat} {m : Member} {body : MethodBody} {pool : ConstantPool} (hfinds : p.Finds c index m)
      (hbody : m.HasBody c.pool body) (hchange : p.change body c.pool = (.ok body, pool)) : Effect p c (c.withPool pool)
  | changed {index : Nat} {m : Member} {body changed : MethodBody} {pool written later : ConstantPool} {info : List UInt8}
      {attributes : List Attribute} (hfinds : p.Finds c index m) (hbody : m.HasBody c.pool body)
      (hchange : p.change body c.pool = (.ok changed, pool)) (hother : changed ≠ body)
      (hencode : changed.encode pool = (.ok info, written))
      (hplaced : Member.CodePlaced pool info written m.attributes attributes later) :
      Effect p c { c with pool := later, methods := c.methods.set index { m with attributes } }

namespace MethodPatch

/-- A patch that finds no method does nothing. -/
theorem apply_of_none (h : c.findMethod? p.name p.descriptor = none) : p.apply c = (.ok (), c) := by
  unfold apply
  rw [Edits.get_bind, h]
  rfl

/-- A patch that finds a method reads its body, changes it, and writes it if it is another one. -/
theorem apply_of_some (h : c.findMethod? p.name p.descriptor = some index) : p.apply c = (.ok (), c') ↔
    (c.code index = .ok none ∧ c' = c) ∨
      ∃ body changed pool, c.code index = .ok (some body) ∧ p.change body c.pool = (.ok changed, pool) ∧
        if changed = body then c' = c.withPool pool
        else ClassEdit.setCode index changed (c.withPool pool) = (.ok (), c') := by
  unfold apply
  rw [Edits.get_bind, h, Edits.bind_eq_ok]
  constructor
  · rintro ⟨_ | body, u, hread, hrest⟩
    · obtain ⟨hcode, rfl⟩ := Weaving.ofResult_eq_ok.mp hread
      cases hrest
      exact .inl ⟨hcode, rfl⟩
    · obtain ⟨hcode, rfl⟩ := Weaving.ofResult_eq_ok.mp hread
      obtain ⟨changed, v, hrun, hrest⟩ := Edits.bind_eq_ok.mp hrest
      obtain ⟨pool, hchange, rfl⟩ := Weaving.onPool_eq_ok.mp hrun
      refine .inr ⟨body, changed, pool, hcode, hchange, ?_⟩
      by_cases hsame : changed = body
      · rw [if_pos hsame] at hrest ⊢
        cases hrest
        rfl
      · rw [if_neg hsame] at hrest ⊢
        exact Weaving.ofEdit_eq_ok.mp hrest
  · rintro (⟨hcode, rfl⟩ | ⟨body, changed, pool, hcode, hchange, hrest⟩)
    · exact ⟨none, c', Weaving.ofResult_eq_ok.mpr ⟨hcode, rfl⟩, rfl⟩
    · refine ⟨some body, c, Weaving.ofResult_eq_ok.mpr ⟨hcode, rfl⟩, ?_⟩
      refine Edits.bind_eq_ok.mpr ⟨changed, c.withPool pool, Weaving.onPool_eq_ok.mpr ⟨pool, hchange, rfl⟩, ?_⟩
      by_cases hsame : changed = body
      · rw [if_pos hsame] at hrest ⊢
        rw [hrest]
        rfl
      · rw [if_neg hsame] at hrest ⊢
        exact Weaving.ofEdit_eq_ok.mpr hrest

/-- **A patch that succeeds has its effect, and only then it succeeds.** -/
theorem apply_eq_ok_iff : p.apply c = (.ok (), c') ↔ p.Effect c c' := by
  constructor
  · intro h
    cases hfound : c.findMethod? p.name p.descriptor with
    | none =>
      cases (apply_of_none hfound).symm.trans h
      exact .undeclared (findMethod?_eq_none_iff.mp hfound)
    | some index =>
      obtain ⟨m, hfinds⟩ := findMethod?_eq_some_iff.mp hfound
      rcases (apply_of_some hfound).mp h with ⟨hcode, rfl⟩ | ⟨body, changed, pool, hcode, hchange, hrest⟩
      · exact .bodyless hfinds ((code_eq_ok_none_iff hfinds.there).mp hcode)
      · have hbody := (code_eq_ok_some_iff hfinds.there).mp hcode
        by_cases hsame : changed = body
        · rw [if_pos hsame] at hrest
          rw [hrest]
          exact .kept hfinds hbody (hsame ▸ hchange)
        · rw [if_neg hsame] at hrest
          obtain ⟨m', info, written, attributes, later, hm, hencode, hplaced, rfl⟩ := setCode_eq_ok_iff.mp hrest
          obtain rfl : m = m' := Option.some.inj (hfinds.there.symm.trans hm)
          exact .changed hfinds hbody hchange hsame hencode hplaced
  · intro h
    cases h with
    | undeclared hnone => exact apply_of_none (findMethod?_eq_none_iff.mpr hnone)
    | bodyless hfinds hnone =>
      refine (apply_of_some (findMethod?_eq_some_iff.mpr ⟨_, hfinds⟩)).mpr (.inl ⟨?_, rfl⟩)
      exact (code_eq_ok_none_iff hfinds.there).mpr hnone
    | kept hfinds hbody hchange =>
      refine (apply_of_some (findMethod?_eq_some_iff.mpr ⟨_, hfinds⟩)).mpr (.inr ⟨_, _, _, ?_, hchange, ?_⟩)
      · exact (code_eq_ok_some_iff hfinds.there).mpr hbody
      · exact if_pos rfl ▸ rfl
    | changed hfinds hbody hchange hother hencode hplaced =>
      refine (apply_of_some (findMethod?_eq_some_iff.mpr ⟨_, hfinds⟩)).mpr (.inr ⟨_, _, _, ?_, hchange, ?_⟩)
      · exact (code_eq_ok_some_iff hfinds.there).mpr hbody
      · rw [if_neg hother]
        exact setCode_eq_ok_iff.mpr ⟨_, _, _, _, _, hfinds.there, hencode, hplaced, rfl⟩

/-! ## What a patch leaves alone -/

/-- The patch changes the body of the method at a position. -/
def Touches (p : MethodPatch) (c : ClassFile) (j : Nat) : Prop :=
  ∃ m body changed pool, p.Finds c j m ∧ m.HasBody c.pool body ∧ p.change body c.pool = (.ok changed, pool) ∧ changed ≠ body

/-- **Other methods are left alone.** -/
theorem Effect.methods_eq {j : Nat} (h : p.Effect c c') (hj : ¬ p.Touches c j) : c'.methods[j]? = c.methods[j]? := by
  cases h with
  | undeclared | bodyless | kept => rfl
  | @changed index m body changed pool _ _ _ _ hfinds hbody hchange hother =>
    refine List.getElem?_set_ne ?_
    rintro rfl
    exact hj ⟨m, body, changed, pool, hfinds, hbody, hchange, hother⟩

end MethodPatch

/-- The member without its attributes. -/
def Member.bare (m : Member) : Member :=
  { m with attributes := [] }

/-- The header, the interfaces, the fields and the attributes of the class are what they were, and so are its methods, but
for their attributes. -/
structure ClassFile.Framed (c c' : ClassFile) : Prop where
  frame : c' = { c with pool := c'.pool, methods := c'.methods }
  methods : c'.methods.map Member.bare = c.methods.map Member.bare

namespace ClassFile

theorem Framed.refl (c : ClassFile) : c.Framed c :=
  ⟨rfl, rfl⟩

theorem framed_withPool (c : ClassFile) (pool : ConstantPool) : c.Framed (c.withPool pool) :=
  ⟨rfl, rfl⟩

theorem Framed.of_framed (h : c.Framed d) (h' : d.Framed c') : c.Framed c' where
  frame := by
    have hframe := h'.frame
    rw [h.frame] at hframe
    exact hframe
  methods := h'.methods.trans h.methods

end ClassFile

namespace MethodPatch

/-- **A patch keeps all but bodies and constants.** -/
theorem Effect.framed (h : p.Effect c c') : c.Framed c' := by
  cases h with
  | undeclared | bodyless => exact .refl c
  | @kept _ _ _ pool => exact c.framed_withPool pool
  | @changed index m _ _ _ _ _ _ attributes hfinds =>
    refine ⟨rfl, List.ext_getElem? fun j => ?_⟩
    rw [List.getElem?_map, List.getElem?_map, List.getElem?_set]
    by_cases hj : index = j
    · subst hj
      obtain ⟨hlt, rfl⟩ := List.getElem?_eq_some_iff.mp hfinds.there
      simp [hlt, Member.bare]
    · rw [if_neg hj]

/-- **A patch that leaves the body and the pool as they are leaves the class as it is.** -/
theorem Effect.eq_of_idle (h : p.Effect c c') (hidle : ∀ index m body, p.Finds c index m → m.HasBody c.pool body →
    p.change body c.pool = (.ok body, c.pool)) : c' = c := by
  cases h with
  | undeclared | bodyless => rfl
  | kept hfinds hbody hchange =>
    cases hchange.symm.trans (hidle _ _ _ hfinds hbody)
    rfl
  | changed hfinds hbody hchange hother =>
    cases hchange.symm.trans (hidle _ _ _ hfinds hbody)
    exact absurd rfl hother

end MethodPatch

/-! ## Changes that add to the pool -/

namespace PoolWeaving

variable {α β : Type}

/-- The change does no more to a pool than adding constants, also when it fails. -/
def Grows (change : PoolWeaving α) : Prop :=
  ∀ pool : ConstantPool, pool.Extends (change pool).2

theorem grows_pure (x : α) : Grows (pure x) :=
  .refl

theorem Grows.bind {change : PoolWeaving α} {next : α → PoolWeaving β} (h : change.Grows) (hnext : ∀ x, (next x).Grows) :
    Grows (change >>= next) := by
  intro pool
  have hpool := h pool
  rw [Edits.bind_eq]
  match hchange : change pool with
  | (.error e, later) =>
    rw [hchange] at hpool
    exact hpool
  | (.ok x, later) =>
    rw [hchange] at hpool
    exact hpool.of_extends (hnext x later)

theorem grows_mapM {f : α → PoolWeaving β} (h : ∀ a, (f a).Grows) (as : List α) : Grows (as.mapM f) := by
  induction as with
  | nil => exact grows_pure []
  | cons a as ih =>
    rw [List.mapM_cons]
    exact (h a).bind fun b => ih.bind fun bs => grows_pure (b :: bs)

/-- Replacing instructions adds to the pool what choosing adds. -/
theorem grows_replaceEach {f : InstructionChoice} (h : ∀ i, (f i).Grows) (b : MethodBody) :
    Grows (MethodBody.replaceEach f b) :=
  (grows_mapM (fun i => (h i).bind fun _ => grows_pure _) _).bind fun _ => grows_pure _

end PoolWeaving

namespace MethodPatch

/-- The patch does no more to a pool than adding constants. -/
def OnlyAdds (p : MethodPatch) : Prop :=
  ∀ body, PoolWeaving.Grows (p.change body)

theorem Effect.extends (h : p.Effect c c') (hadds : p.OnlyAdds) : c.pool.Extends c'.pool := by
  have hextends {body changed : MethodBody} {pool : ConstantPool} (hchange : p.change body c.pool = (.ok changed, pool)) :
      c.pool.Extends pool := by
    have hpool := hadds body c.pool
    rw [hchange] at hpool
    exact hpool
  cases h with
  | undeclared | bodyless => exact .refl _
  | kept _ _ hchange => exact hextends hchange
  | @changed _ _ _ changed _ _ _ _ _ _ _ hchange _ hencode hplaced =>
    have hwritten := (hextends hchange).of_extends ((MethodBody.stable_encode changed).appends hencode)
    exact hwritten.of_extends hplaced.extends

end MethodPatch

/-- In a larger pool the same methods are found, if they have the names that they had. -/
theorem ClassFile.Framed.findMethod?_eq (h : c.Framed d) (hpool : c.pool.Extends d.pool) (hnames : c.NamesResolve)
    (name descriptor : String) : d.findMethod? name descriptor = c.findMethod? name descriptor := by
  have hbare (members : List Member) : d.findMember? (members.map Member.bare) name descriptor =
      d.findMember? members name descriptor :=
    List.findIdx?_map
  show d.findMember? d.methods name descriptor = _
  rw [← hbare, h.methods, hbare]
  exact hnames.findMethod?_eq hpool name descriptor

/-! ## Patches in a row -/

namespace MethodPatches

variable {ps : MethodPatches} {states : Nat → ClassFile}

/-- The patches of a class. -/
def ownedBy (ps : MethodPatches) (d : Identity.TypeDescriptor) : MethodPatches :=
  ps.filter fun p => p.owner = d

/-- The classes that the patches lead through, each by the effect of one patch. -/
abbrev Run (ps : MethodPatches) (states : Nat → ClassFile) (c c' : ClassFile) : Prop :=
  Edits.Through MethodPatch.Effect ps states c c'

/-- **Patches are applied one behind the other**, those of the class. -/
theorem apply_eq_ok_iff : apply ps c = (.ok (), c') ↔
    ∃ d, c.typeDescriptor = .ok d ∧ ∃ states, (ps.ownedBy d).Run states c c' := by
  have heach (states : Nat → ClassFile) (owned : MethodPatches) :
      Edits.Through (fun p u v => MethodPatch.apply p u = (.ok (), v)) owned states c c' ↔ owned.Run states c c' :=
    ⟨fun h => h.imp fun _ _ _ => MethodPatch.apply_eq_ok_iff.mp, fun h => h.imp fun _ _ _ => MethodPatch.apply_eq_ok_iff.mpr⟩
  unfold apply
  rw [Edits.get_bind, Edits.bind_eq_ok]
  constructor
  · rintro ⟨d, u, hread, hrest⟩
    obtain ⟨hd, rfl⟩ := Weaving.ofResult_eq_ok.mp hread
    obtain ⟨states, hthrough⟩ := Edits.forM_eq_ok_iff.mp hrest
    exact ⟨d, hd, states, (heach states _).mp hthrough⟩
  · rintro ⟨d, hd, states, hrun⟩
    exact ⟨d, c, Weaving.ofResult_eq_ok.mpr ⟨hd, rfl⟩, Edits.forM_eq_ok_iff.mpr ⟨states, (heach states _).mpr hrun⟩⟩

theorem Run.framed (h : ps.Run states c c') : c.Framed c' := by
  rw [← h.last]
  exact h.holds (.refl c) (fun i hi hframed heffect => hframed.of_framed heffect.framed) _ (Nat.le_refl _)

/-- **A method that no patch touches is what it was.** -/
theorem Run.methods_eq {j : Nat} (h : ps.Run states c c')
    (hj : ∀ i (hi : i < ps.length), ¬ ps[i].Touches (states i) j) : c'.methods[j]? = c.methods[j]? := by
  rw [← h.last]
  exact h.holds (P := fun d => d.methods[j]? = c.methods[j]?) rfl
    (fun i hi hsame heffect => (heffect.methods_eq (hj i hi)).trans hsame) _ (Nat.le_refl _)

/-- **Patches that leave bodies and the pool as they are leave the class as it is.** -/
theorem Run.eq_of_idle (h : ps.Run states c c') (hidle : ∀ p ∈ ps, ∀ index m body, p.Finds c index m →
    m.HasBody c.pool body → p.change body c.pool = (.ok body, c.pool)) : c' = c := by
  rw [← h.last]
  refine h.holds (P := (· = c)) rfl (fun i hi hsame heffect => ?_) _ (Nat.le_refl _)
  -- the class at hand is the first one, and of that the patch is known to keep body and pool
  rw [hsame] at heffect
  exact heffect.eq_of_idle (hidle _ (List.getElem_mem hi))

/-- What patches that add to the pool leave of a method: the class is what it was but for bodies, the pool has grown, and the
method is there as it was. -/
structure Left (c : ClassFile) (j : Nat) (m : Member) (d : ClassFile) : Prop where
  framed : c.Framed d
  pool : c.pool.Extends d.pool
  method : d.methods[j]? = some m

/-- **Names mean the same all the way, if patches only add to the pool.** A method that the class does not show to a patch as
the one that is meant, or that has no body, is what it was. -/
theorem Run.left {j : Nat} (h : ps.Run states c c') (hadds : ∀ p ∈ ps, p.OnlyAdds) (hnames : c.NamesResolve)
    (hm : c.methods[j]? = some m) (hleft : (∀ p ∈ ps, ¬ p.Finds c j m) ∨ m.codePayload? c.pool = none) : Left c j m c' := by
  have hstart : Left c j m c := ⟨.refl c, .refl c.pool, hm⟩
  rw [← h.last]
  refine h.holds hstart (fun i hi hsofar heffect => ?_) _ (Nat.le_refl _)
  refine ⟨hsofar.framed.of_framed heffect.framed,
    hsofar.pool.of_extends (heffect.extends (hadds _ (List.getElem_mem hi))), ?_⟩
  -- the method is still there, so a patch that touches it finds it with a body, and then the first class shows it likewise
  rw [heffect.methods_eq, hsofar.method]
  rintro ⟨m', body, changed, pool, hfinds, ⟨info, hpayload, -⟩, -⟩
  obtain rfl : m = m' := Option.some.inj (hsofar.method.symm.trans hfinds.there)
  rcases hleft with hunnamed | hbodyless
  · have hfound := MethodPatch.findMethod?_eq_some_iff.mpr ⟨m, hfinds⟩
    rw [hsofar.framed.findMethod?_eq hsofar.pool hnames] at hfound
    obtain ⟨m', hfinds'⟩ := MethodPatch.findMethod?_eq_some_iff.mp hfound
    obtain rfl : m = m' := Option.some.inj (hm.symm.trans hfinds'.there)
    exact hunnamed _ (List.getElem_mem hi) hfinds'
  · rw [(hnames.methods m (List.mem_of_getElem? hm)).codePayload?_eq hsofar.pool, hbodyless] at hpayload
    cases hpayload

end MethodPatches

/-! ## Replacing instructions -/

namespace MethodBody

variable {f : InstructionChoice} {b b' : MethodBody} {pool pool' : ConstantPool}

theorem replacement_eq_ok_iff {i : Instruction Label} {piece : List (Instruction Label)} :
    replacement f i pool = (.ok piece, pool') ↔ ∃ answer, f i pool = (.ok answer, pool') ∧ piece = answer.getD [i] := by
  unfold replacement
  rw [Edits.bind_eq_ok]
  constructor
  · rintro ⟨answer, u, hanswer, hpiece⟩
    obtain ⟨rfl, rfl⟩ := Edits.pure_eq_ok.mp hpiece
    exact ⟨answer, hanswer, rfl⟩
  · rintro ⟨answer, hanswer, rfl⟩
    exact ⟨answer, pool', hanswer, rfl⟩

theorem mapM_replacement_eq_ok_iff {is : List (Instruction Label)} {pieces : List (List (Instruction Label))} :
    is.mapM (replacement f) pool = (.ok pieces, pool') ↔
      ∃ answers, is.mapM f pool = (.ok answers, pool') ∧ pieces = (is.zip answers).map fun asked => asked.2.getD [asked.1] := by
  induction is generalizing pool pieces with
  | nil =>
    rw [Edits.mapM_nil_eq_ok]
    constructor
    · rintro ⟨rfl, rfl⟩
      exact ⟨[], Edits.mapM_nil_eq_ok.mpr ⟨rfl, rfl⟩, rfl⟩
    · rintro ⟨answers, hanswers, rfl⟩
      exact ⟨rfl, (Edits.mapM_nil_eq_ok.mp hanswers).2⟩
  | cons i is ih =>
    rw [Edits.mapM_cons_eq_ok]
    constructor
    · rintro ⟨piece, u, rest, hpiece, hrest, rfl⟩
      obtain ⟨answer, hanswer, rfl⟩ := replacement_eq_ok_iff.mp hpiece
      obtain ⟨answers, hanswers, rfl⟩ := ih.mp hrest
      exact ⟨answer :: answers, Edits.mapM_cons_eq_ok.mpr ⟨answer, u, answers, hanswer, hanswers, rfl⟩, rfl⟩
    · rintro ⟨_, hall, rfl⟩
      obtain ⟨answer, u, answers, hanswer, hanswers, rfl⟩ := Edits.mapM_cons_eq_ok.mp hall
      exact ⟨answer.getD [i], u, _, replacement_eq_ok_iff.mpr ⟨answer, hanswer, rfl⟩, ih.mpr ⟨answers, hanswers, rfl⟩, rfl⟩

/-- **Instructions are replaced one by one**: each is asked about over the pool that the one before it left, what is put in
place of it stands where it stood, and all but the instructions is kept. -/
theorem replaceEach_eq_ok_iff : replaceEach f b pool = (.ok b', pool') ↔
    ∃ answers, answers.length = b.instructions.length ∧
      (∃ pools, Edits.Through (fun (asked : Instruction Label × Option (List (Instruction Label))) u v =>
        f asked.1 u = (.ok asked.2, v)) (b.instructions.zip answers) pools pool pool') ∧
      b' = { b with instructions := (b.instructions.zip answers).flatMap fun asked => asked.2.getD [asked.1] } := by
  unfold replaceEach
  rw [Edits.bind_eq_ok]
  constructor
  · rintro ⟨pieces, u, hpieces, hbody⟩
    obtain ⟨rfl, rfl⟩ := Edits.pure_eq_ok.mp hbody
    obtain ⟨answers, hanswers, rfl⟩ := mapM_replacement_eq_ok_iff.mp hpieces
    obtain ⟨hlength, hthrough⟩ := Edits.mapM_eq_ok_iff.mp hanswers
    exact ⟨answers, hlength, hthrough, by rw [List.flatMap_def]⟩
  · rintro ⟨answers, hlength, hthrough, rfl⟩
    have hanswers := Edits.mapM_eq_ok_iff.mpr ⟨hlength, hthrough⟩
    refine ⟨_, pool', mapM_replacement_eq_ok_iff.mpr ⟨answers, hanswers, rfl⟩, ?_⟩
    rw [List.flatMap_def]
    rfl

end MethodBody

/-! ## Patches touch what they name -/

/-- **Patches touch what they name, and nothing else.** They are applied one behind the other, those of the class alone, and
each has its effect on the class that the one before it left. All but constants and attributes of methods is kept, and so is
every method that no patch touches; if patches only add to the pool, that is every method but those that the class itself
names first by a patch's name and descriptor and shows with a body. Patches that change nothing leave the class as it is. A
patch that replaces instructions puts the replacements where the instructions stood. -/
theorem patches_exact :
    (∀ (ps : MethodPatches) (c c' : ClassFile), MethodPatches.apply ps c = (.ok (), c') ↔
      ∃ d, c.typeDescriptor = .ok d ∧ ∃ states, (ps.ownedBy d).Run states c c') ∧
    (∀ (ps : MethodPatches) (states : Nat → ClassFile) (c c' : ClassFile), ps.Run states c c' →
      c.Framed c' ∧
      ∀ j, (∀ i (hi : i < ps.length), ¬ ps[i].Touches (states i) j) → c'.methods[j]? = c.methods[j]?) ∧
    (∀ (ps : MethodPatches) (c c' : ClassFile) (d : Identity.TypeDescriptor), c.typeDescriptor = .ok d →
      MethodPatches.apply ps c = (.ok (), c') → c.NamesResolve → (∀ p ∈ ps.ownedBy d, p.OnlyAdds) →
      ∀ j m, c.methods[j]? = some m → ((∀ p ∈ ps.ownedBy d, ¬ p.Finds c j m) ∨ m.codePayload? c.pool = none) →
        c'.methods[j]? = some m ∧ ∀ body, c.code j = .ok body → c'.code j = .ok body) ∧
    (∀ (ps : MethodPatches) (c c' : ClassFile) (d : Identity.TypeDescriptor), c.typeDescriptor = .ok d →
      MethodPatches.apply ps c = (.ok (), c') →
      (∀ p ∈ ps.ownedBy d, ∀ index m body, p.Finds c index m → m.HasBody c.pool body →
        p.change body c.pool = (.ok body, c.pool)) → c' = c) ∧
    (∀ (f : InstructionChoice) (b b' : MethodBody) (pool pool' : ConstantPool),
      MethodBody.replaceEach f b pool = (.ok b', pool') ↔
        ∃ answers, answers.length = b.instructions.length ∧
          (∃ pools, Edits.Through (fun (asked : Instruction Label × Option (List (Instruction Label))) u v =>
            f asked.1 u = (.ok asked.2, v)) (b.instructions.zip answers) pools pool pool') ∧
          b' = { b with instructions := (b.instructions.zip answers).flatMap fun asked => asked.2.getD [asked.1] }) := by
  refine ⟨fun _ _ _ => MethodPatches.apply_eq_ok_iff, fun ps states c c' h => ⟨h.framed, fun j hj => h.methods_eq hj⟩, ?_, ?_,
    fun _ _ _ _ _ => MethodBody.replaceEach_eq_ok_iff⟩
  · intro ps c c' d hd happly hnames hadds j m hm hleft
    obtain ⟨d', hd', states, hrun⟩ := MethodPatches.apply_eq_ok_iff.mp happly
    obtain rfl : d = d' := Except.ok.inj (hd.symm.trans hd')
    have hmethod := hrun.left hadds hnames hm hleft
    refine ⟨hmethod.method, fun body hbody => ?_⟩
    exact ClassFile.code_of_extends hnames.methods hmethod.pool (hmethod.method.trans hm.symm) hbody
  · intro ps c c' d hd happly hidle
    obtain ⟨d', hd', states, hrun⟩ := MethodPatches.apply_eq_ok_iff.mp happly
    obtain rfl : d = d' := Except.ok.inj (hd.symm.trans hd')
    exact hrun.eq_of_idle hidle

/-! ## A class with a limit -/

/-- The identity of a class named `Dial`. -/
def dialType : Identity.TypeDescriptor where
  element := .object ⟨"Dial", by decide, by decide⟩
  dimensions := 0
  dimensions_lt := Identity.TypeDescriptor.scalar_dimensions_lt
  void_scalar := nofun

/-- The class `Dial`, whose method `limit` answers 16; its method `other` has no body. -/
def dial : ClassFile where
  minorVersion := 0
  majorVersion := 52
  pool := ⟨#[.unusable, .classRef 2, .utf8 (.ofText "Dial"), .utf8 (.ofText "limit"), .utf8 (.ofText "()I"),
    .utf8 (.ofText "Code"), .utf8 (.ofText "other")]⟩
  access := ⟨0x0021⟩
  thisClass := 1
  superClass := 0
  interfaces := []
  fields := []
  methods := [⟨.publicBit, 3, 4, [⟨5, [0, 1, 0, 1, 0, 0, 0, 3, 16, 16, 172, 0, 0, 0, 0]⟩]⟩, ⟨.abstractBit, 6, 4, []⟩]
  attributes := []

/-- The class whose limit is 1024, with more room on the stack. -/
def turned : ClassFile :=
  { dial with
    methods := [⟨.publicBit, 3, 4, [⟨5, [0, 2, 0, 1, 0, 0, 0, 4, 17, 4, 0, 172, 0, 0, 0, 0]⟩]⟩, ⟨.abstractBit, 6, 4, []⟩] }

/-- Puts 1024 where 16 was. -/
def raise : InstructionChoice := fun i =>
  return if i = .push Opcode.bipush 16 then some [.push Opcode.sipush 1024] else none

/-- Two patches of the same method, one of a method without a body, and one of another class. -/
def turns : MethodPatches :=
  [⟨dialType, "limit", "()I", MethodBody.replaceEach raise⟩,
    ⟨dialType, "limit", "()I", fun b => return { b with maxStack := 2 }⟩,
    ⟨dialType, "other", "()I", fun b => return { b with maxStack := 2 }⟩,
    ⟨.ofPrimitive .int, "limit", "()I", fun b => return { b with maxStack := 3 }⟩]

/-- A patch that keeps the body of the method. -/
def stay : MethodPatch :=
  ⟨dialType, "limit", "()I", fun b => return b⟩

theorem namesResolve_dial : dial.NamesResolve where
  fields := nofun
  methods := by
    refine List.forall_mem_cons.mpr ⟨⟨⟨"limit", rfl⟩, ⟨"()I", rfl⟩, List.forall_mem_singleton.mpr ⟨"Code", rfl⟩⟩, ?_⟩
    exact List.forall_mem_singleton.mpr ⟨⟨"other", rfl⟩, ⟨"()I", rfl⟩, nofun⟩

theorem onlyAdds_turns : ∀ p ∈ turns, p.OnlyAdds := by
  have hroom (owner : Identity.TypeDescriptor) (name : String) (room : UInt16) :
      MethodPatch.OnlyAdds ⟨owner, name, "()I", fun b => return { b with maxStack := room }⟩ :=
    fun _ => PoolWeaving.grows_pure _
  have hraise : MethodPatch.OnlyAdds ⟨dialType, "limit", "()I", MethodBody.replaceEach raise⟩ :=
    PoolWeaving.grows_replaceEach fun _ => PoolWeaving.grows_pure _
  refine List.forall_mem_cons.mpr ⟨hraise, List.forall_mem_cons.mpr ⟨hroom _ _ _, List.forall_mem_cons.mpr ⟨hroom _ _ _, ?_⟩⟩⟩
  exact List.forall_mem_singleton.mpr (hroom _ _ _)

theorem not_touches_stay (c : ClassFile) (j : Nat) : ¬ stay.Touches c j := by
  rintro ⟨m, body, changed, pool, -, -, hchange, hother⟩
  cases hchange
  exact hother rfl

/-- The limit is raised and then given room, the method without a body stays without one, and a patch that keeps the body
keeps the class. -/
theorem patches_exact_dial :
    (MethodPatches.apply turns dial = (.ok (), turned) ∧ (∃ states, (turns.ownedBy dialType).Run states dial turned) ∧
      dial.Framed turned ∧ turned.methods[1]? = dial.methods[1]?) ∧
    MethodPatches.apply [stay] dial = (.ok (), dial) ∧ (∀ c', MethodPatches.apply [stay] dial = (.ok (), c') → c' = dial) ∧
      (∀ states c', MethodPatches.Run [stay] states dial c' → c'.methods[0]? = dial.methods[0]?) := by
  obtain ⟨happly, hrun, hleft, hidle, -⟩ := patches_exact
  have hturned : MethodPatches.apply turns dial = (.ok (), turned) := rfl
  obtain ⟨d, hd, states, hstates⟩ := (happly turns dial turned).mp hturned
  obtain rfl : dialType = d := Except.ok.inj hd
  refine ⟨⟨hturned, ⟨states, hstates⟩, (hrun _ states dial turned hstates).1, ?_⟩, rfl, ?_, ?_⟩
  · have hadds : ∀ p ∈ turns.ownedBy dialType, p.OnlyAdds := fun p hp => onlyAdds_turns p (List.mem_of_mem_filter hp)
    exact (hleft turns dial turned dialType rfl hturned namesResolve_dial hadds 1 _ rfl (.inr rfl)).1
  · intro c' hstay
    refine hidle [stay] dial c' dialType rfl hstay ?_
    intro p hp _ _ body _ _
    obtain rfl : p = stay := List.mem_singleton.mp (List.mem_of_mem_filter hp)
    rfl
  · intro states c' hstay
    refine (hrun [stay] states dial c' hstay).2 0 fun i hi => ?_
    rw [List.getElem_singleton]
    exact not_touches_stay _ _

end ClassWeaver
