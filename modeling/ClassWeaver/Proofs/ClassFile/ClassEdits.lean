import ClassWeaver.Proofs.ClassFile.Lookups
import ClassWeaver.Proofs.Code.PlainBodies

/-!
# Edits of a class

An edit that adds to the pool leaves the pool of the class larger, and where nothing new is to be added it leaves the pool
as it is. A pool in which everything was added that an edit asks for is *settled* for the edit. What an edit does to
members can be stated over such a pool alone, since members are found there as they were found before.

## Contents

* `setCode_eq_ok` — what giving a method a body does when it succeeds.
* `Member.withCode` — the member with another body.
* `Member.NamesResolve`, `ClassFile.NamesResolve` — members whose names are texts of the pool.
* `setCode_settled` — giving a method a body, over a settled pool.
-/

namespace ClassWeaver

/-! ## Names -/

/-- The name and the descriptor of a member and the names of its attributes are texts of the pool. -/
structure Member.NamesResolve (pool : ConstantPool) (m : Member) : Prop where
  name : ∃ text, pool.utf8 m.nameIndex = .ok text
  descriptor : ∃ text, pool.utf8 m.descriptorIndex = .ok text
  attributes : ∀ a ∈ m.attributes, ∃ text, pool.utf8 a.nameIndex = .ok text

/-- The members of the class have names that are texts of the pool. -/
structure ClassFile.NamesResolve (c : ClassFile) : Prop where
  fields : ∀ m ∈ c.fields, m.NamesResolve c.pool
  methods : ∀ m ∈ c.methods, m.NamesResolve c.pool

variable {p q : ConstantPool} {m : Member}

theorem Member.NamesResolve.of_extends (h : m.NamesResolve p) (hpool : p.Extends q) : m.NamesResolve q where
  name := h.name.imp fun _ => hpool.utf8
  descriptor := h.descriptor.imp fun _ => hpool.utf8
  attributes a ha := (h.attributes a ha).imp fun _ => hpool.utf8

theorem Member.NamesResolve.codePosition?_eq (h : m.NamesResolve p) (hpool : p.Extends q) :
    m.codePosition? q = m.codePosition? p := by
  refine attributePosition?_of_extends hpool (fun a ha => ?_) codeName
  obtain ⟨text, htext⟩ := h.attributes a ha
  exact ConstantPool.lt_count_of_utf8 htext

theorem findMember?_of_extends {members : List Member} (h : ∀ m ∈ members, m.NamesResolve p) (hpool : p.Extends q)
    (name descriptor : String) :
    members.findIdx? (fun m => q.hasText m.nameIndex name && q.hasText m.descriptorIndex descriptor) =
      members.findIdx? fun m => p.hasText m.nameIndex name && p.hasText m.descriptorIndex descriptor := by
  refine findIdx?_congr fun m hm => ?_
  obtain ⟨⟨text, htext⟩, ⟨text', htext'⟩, -⟩ := h m hm
  rw [hpool.hasText_eq (ConstantPool.lt_count_of_utf8 htext), hpool.hasText_eq (ConstantPool.lt_count_of_utf8 htext')]

/-- The class with another pool. -/
def ClassFile.withPool (c : ClassFile) (p : ConstantPool) : ClassFile :=
  { c with pool := p }

namespace ClassFile.NamesResolve

variable {c : ClassFile} {p : ConstantPool}

theorem withPool (h : c.NamesResolve) (hpool : c.pool.Extends p) : (c.withPool p).NamesResolve where
  fields m hm := (h.fields m hm).of_extends hpool
  methods m hm := (h.methods m hm).of_extends hpool

theorem findField?_eq (h : c.NamesResolve) (hpool : c.pool.Extends p) (name descriptor : String) :
    (c.withPool p).findField? name descriptor = c.findField? name descriptor :=
  findMember?_of_extends h.fields hpool name descriptor

theorem findMethod?_eq (h : c.NamesResolve) (hpool : c.pool.Extends p) (name descriptor : String) :
    (c.withPool p).findMethod? name descriptor = c.findMethod? name descriptor :=
  findMember?_of_extends h.methods hpool name descriptor

end ClassFile.NamesResolve

/-! ## Bodies of members -/

/-- The index that the name of the attribute for bodies has, or gets when it is added. -/
def ConstantPool.codeIndex (p : ConstantPool) : UInt16 :=
  match (addUtf8 codeName p).1 with
  | .ok index => index
  | .error _ => 0

/-- The member with the given payload in its attribute for bodies, which is put in front if there is none. -/
def Member.withCode (m : Member) (pool : ConstantPool) (info : List UInt8) : Member :=
  match m.codePosition? pool with
  | some position => m.setInfo position info
  | none => { m with attributes := ⟨pool.codeIndex, info⟩ :: m.attributes }

/-- The pool has the name of the attribute for bodies, at an index that means it. -/
structure ConstantPool.NamesCode (p : ConstantPool) : Prop where
  count_le : p.count ≤ 65536
  added : addUtf8 codeName p = (.ok p.codeIndex, p)

theorem ConstantPool.NamesCode.utf8 (h : p.NamesCode) : p.utf8 p.codeIndex = .ok codeName :=
  utf8_of_addUtf8 h.count_le h.added

theorem ConstantPool.NamesCode.hasText (h : p.NamesCode) : p.hasText p.codeIndex codeName = true :=
  hasText_eq_true_iff.mpr h.utf8

/-- A body can be given to the member without an addition: it has one, or the pool has the name that it is to be put under. -/
def Member.CodeReady (pool : ConstantPool) (m : Member) : Prop :=
  (m.codePosition? pool).isSome ∨ pool.NamesCode

/-- The payload of the member's body, if it has one. -/
def Member.codePayload? (pool : ConstantPool) (m : Member) : Option (List UInt8) :=
  ((m.codePosition? pool).bind (m.attributes[·]?)).map Attribute.info

namespace Member

variable {position : Nat} {info other : List UInt8}

theorem codePosition?_setInfo : (m.setInfo position info).codePosition? p = m.codePosition? p := by
  show (m.attributes.modify position _).findIdx? _ = m.attributes.findIdx? _
  refine findIdx?_modify ?_
  intro a
  rfl

/-- A body that was put in front is found there. -/
theorem codePosition?_cons (h : p.NamesCode) :
    codePosition? { m with attributes := ⟨p.codeIndex, info⟩ :: m.attributes } p = some 0 := by
  show List.findIdx? _ _ = _
  rw [List.findIdx?_cons, h.hasText, if_pos rfl]

theorem withCode_of_some (h : m.codePosition? p = some position) (info : List UInt8) :
    m.withCode p info = m.setInfo position info := by
  rw [withCode, h]

theorem withCode_of_none (h : m.codePosition? p = none) (info : List UInt8) :
    m.withCode p info = { m with attributes := ⟨p.codeIndex, info⟩ :: m.attributes } := by
  rw [withCode, h]

/-- A body is a matter of the attributes alone. -/
theorem withCode_access (m : Member) (access : AccessFlags) (info : List UInt8) :
    withCode { m with access } p info = { m.withCode p info with access } := by
  rw [withCode, withCode, codePosition?, codePosition?]
  cases attributePosition? m.attributes p codeName with
  | some position => rfl
  | none => rfl

theorem withCode_eq (m : Member) (info : List UInt8) :
    m.withCode p info = { m with attributes := (m.withCode p info).attributes } := by
  rw [withCode]
  cases m.codePosition? p with
  | some position => rfl
  | none => rfl

/-- **The last body counts.** -/
theorem withCode_withCode (h : m.CodeReady p) : (m.withCode p info).withCode p other = m.withCode p other := by
  cases hposition : m.codePosition? p with
  | some position =>
    rw [withCode_of_some hposition, withCode_of_some hposition, withCode_of_some (codePosition?_setInfo.trans hposition),
      setInfo, setInfo, setInfo, List.modify_modify_eq]
    rfl
  | none =>
    have hname := h.resolve_left (by rw [hposition]; decide)
    rw [withCode_of_none hposition, withCode_of_none hposition, withCode_of_some (codePosition?_cons hname)]
    rfl

/-- **The body is found where it was put.** -/
theorem codePayload?_withCode (h : m.CodeReady p) : (m.withCode p info).codePayload? p = some info := by
  cases hposition : m.codePosition? p with
  | some position =>
    obtain ⟨-, a, -, -, ha, -⟩ := split_of_findIdx? hposition
    rw [withCode_of_some hposition, codePayload?, codePosition?_setInfo, hposition, Option.bind_some, setInfo,
      List.getElem?_modify_eq, ha]
    rfl
  | none =>
    have hname := h.resolve_left (by rw [hposition]; decide)
    rw [withCode_of_none hposition, codePayload?, codePosition?_cons hname]
    rfl

/-- The attributes of the second list are those of the first one, the body apart: it has another payload, or it is new and
stands in front of them. -/
inductive BodyReplaced (p : ConstantPool) (info : List UInt8) : List Attribute → List Attribute → Prop
  | replaced {front back : List Attribute} {a : Attribute} (hfront : ∀ b ∈ front, p.hasText b.nameIndex codeName = false)
      (ha : p.hasText a.nameIndex codeName = true) :
      BodyReplaced p info (front ++ a :: back) (front ++ { a with info } :: back)
  | inserted {attributes : List Attribute} {nameIndex : UInt16}
      (hnone : ∀ b ∈ attributes, p.hasText b.nameIndex codeName = false) (hname : p.utf8 nameIndex = .ok codeName) :
      BodyReplaced p info attributes (⟨nameIndex, info⟩ :: attributes)

/-- **Only the body is another.** -/
theorem bodyReplaced_withCode (h : m.CodeReady p) :
    BodyReplaced p info m.attributes (m.withCode p info).attributes := by
  cases hposition : m.codePosition? p with
  | some position =>
    obtain ⟨front, a, back, hsplit, -, ha, hfront, hmodify⟩ := split_of_findIdx? hposition
    rw [withCode_of_some hposition, setInfo]
    dsimp only
    rw [hmodify, hsplit]
    exact .replaced hfront ha
  | none =>
    rw [withCode_of_none hposition]
    exact .inserted (List.findIdx?_eq_none_iff.mp hposition) (h.resolve_left (by rw [hposition]; decide)).utf8

theorem CodeReady.withCode (h : m.CodeReady p) : (m.withCode p info).CodeReady p := by
  cases hposition : m.codePosition? p with
  | some position =>
    rw [withCode_of_some hposition, CodeReady, codePosition?_setInfo]
    exact h
  | none => exact .inr (h.resolve_left (by rw [hposition]; decide))

/-- A body that is given to a member leaves it with names that are texts of the pool. -/
theorem NamesResolve.withCode (h : m.NamesResolve p) (hready : m.CodeReady p) : (m.withCode p info).NamesResolve p := by
  cases hposition : m.codePosition? p with
  | some position =>
    rw [withCode_of_some hposition]
    refine ⟨h.name, h.descriptor, fun a ha => ?_⟩
    obtain ⟨front, b, back, hsplit, -, -, -, hmodify⟩ := split_of_findIdx? hposition
    have hold := h.attributes
    rw [hsplit, List.forall_mem_append, List.forall_mem_cons] at hold
    rw [setInfo, hmodify, List.mem_append, List.mem_cons] at ha
    rcases ha with ha | rfl | ha
    · exact hold.1 a ha
    · exact hold.2.1
    · exact hold.2.2 a ha
  | none =>
    rw [withCode_of_none hposition]
    refine ⟨h.name, h.descriptor, List.forall_mem_cons.mpr ⟨⟨codeName, ?_⟩, h.attributes⟩⟩
    exact (hready.resolve_left (by rw [hposition]; decide)).utf8

end Member

/-- The payload of a method decides what body it has. -/
theorem ClassFile.code_eq {c : ClassFile} {index : Nat} (hm : c.methods[index]? = some m) :
    c.code index = match m.codePayload? c.pool with
      | some info => some <$> MethodBody.decode c.pool info
      | none => .ok none := by
  have hmethod : c.method index = .ok m := by
    unfold method
    rw [hm]
  unfold code Member.codePayload?
  rw [hmethod]
  simp only [bind, Except.bind]
  cases (m.codePosition? c.pool).bind (m.attributes[·]?) with
  | none => rfl
  | some a => rfl

namespace ClassEdit

variable {c c' : ClassFile} {index : Nat} {info : List UInt8} {body : MethodBody}

theorem method_eq_ok : c.method index = .ok m ↔ c.methods[index]? = some m := by
  rw [ClassFile.method]
  cases c.methods[index]? with
  | none => exact iff_of_false nofun nofun
  | some m' =>
    constructor
    · intro h
      cases h
      rfl
    · intro h
      cases h
      rfl

/-- **What giving a method a body does**: it writes the body, and puts the payload where the method has its body, or in
front of the method's attributes. -/
theorem setCode_eq_ok : setCode index body c = (.ok (), c') ↔
    ∃ m, c.methods[index]? = some m ∧ ∃ info pool, body.encode c.pool = (.ok info, pool) ∧
      ((∃ position, m.codePosition? c.pool = some position ∧
          c' = { c with pool, methods := c.methods.modify index (·.setInfo position info) }) ∨
        (m.codePosition? c.pool = none ∧
          ∃ nameIndex later, ConstantPool.addUtf8 codeName pool = (.ok nameIndex, later) ∧
            c' = { c with
              pool := later
              methods := c.methods.modify index fun m => { m with attributes := ⟨nameIndex, info⟩ :: m.attributes } })) := by
  rw [setCode, Edits.get_bind, Edits.lift_bind_eq_ok]
  refine exists_congr fun m => ?_
  rw [method_eq_ok, Edits.bind_eq_ok]
  refine and_congr_right fun _ => exists_congr fun info => ?_
  constructor
  · rintro ⟨u, hencode, h⟩
    obtain ⟨pool, hpool, rfl⟩ := onPool_eq_ok.mp hencode
    refine ⟨pool, hpool, ?_⟩
    cases hposition : m.codePosition? c.pool with
    | some position =>
      rw [hposition] at h
      cases h
      exact .inl ⟨position, rfl, rfl⟩
    | none =>
      rw [hposition] at h
      obtain ⟨nameIndex, v, hname, h⟩ := Edits.bind_eq_ok.mp h
      obtain ⟨later, hlater, rfl⟩ := onPool_eq_ok.mp hname
      cases h
      exact .inr ⟨rfl, nameIndex, later, hlater, rfl⟩
  · rintro ⟨pool, hpool, ⟨position, hposition, rfl⟩ | ⟨hposition, nameIndex, later, hlater, rfl⟩⟩
    · refine ⟨{ c with pool }, onPool_eq_ok.mpr ⟨pool, hpool, rfl⟩, ?_⟩
      rw [hposition]
      rfl
    · refine ⟨{ c with pool }, onPool_eq_ok.mpr ⟨pool, hpool, rfl⟩, ?_⟩
      rw [hposition]
      exact Edits.bind_eq_ok.mpr ⟨nameIndex, { c with pool := later }, onPool_eq_ok.mpr ⟨later, hlater, rfl⟩, rfl⟩

/-- Giving a method a body, where nothing is to be added. -/
theorem setCode_of_ready (hm : c.methods[index]? = some m) (hready : m.CodeReady c.pool)
    (hinfo : body.encode c.pool = (.ok info, c.pool)) :
    setCode index body c = (.ok (), { c with methods := c.methods.modify index (·.withCode c.pool info) }) := by
  refine setCode_eq_ok.mpr ⟨m, hm, info, c.pool, hinfo, ?_⟩
  cases hposition : m.codePosition? c.pool with
  | some position =>
    refine .inl ⟨position, rfl, ?_⟩
    refine congrArg (fun methods => { c with methods }) (modify_congr hm ?_)
    exact Member.withCode_of_some hposition info
  | none =>
    refine .inr ⟨rfl, c.pool.codeIndex, c.pool, (hready.resolve_left (by rw [hposition]; decide)).added, ?_⟩
    refine congrArg (fun methods => { c with methods }) (modify_congr hm ?_)
    exact Member.withCode_of_none hposition info

/-- **Giving a method a body settles the pool for it**: over the pool that is left, or a larger one, writing the body adds
nothing, and neither does its name. -/
theorem setCode_settled (hnames : ∀ m ∈ c.methods, m.NamesResolve c.pool) (hcount : c.pool.count ≤ 65536)
    (h : setCode index body c = (.ok (), c')) :
    c.pool.Extends c'.pool ∧ c'.pool.count ≤ 65536 ∧ ∃ m info, c.methods[index]? = some m ∧
      ∀ p, c'.pool.Extends p → p.count ≤ 65536 → body.encode p = (.ok info, p) ∧ m.CodeReady p ∧
        c'.withPool p = { c with pool := p, methods := c.methods.modify index (·.withCode p info) } := by
  obtain ⟨m, hm, info, pool, hencode, hcases⟩ := setCode_eq_ok.mp h
  have hstable := MethodBody.stable_encode body
  have hmember := hnames m (List.mem_of_getElem? hm)
  have hpool := hstable.appends hencode
  have hpoolCount := hstable.count_le hencode
  rcases hcases with ⟨position, hposition, rfl⟩ | ⟨hposition, nameIndex, later, hname, rfl⟩
  · refine ⟨hpool, by dsimp only; omega, m, info, hm, fun p hp hpCount => ⟨hstable.again hencode hp, ?_, ?_⟩⟩
    all_goals have hfound := (hmember.codePosition?_eq (hpool.of_extends hp)).trans hposition
    · exact .inl (by rw [hfound]; rfl)
    · refine congrArg (fun methods => { c with pool := p, methods }) (modify_congr hm ?_)
      exact (Member.withCode_of_some hfound info).symm
  · have hnameStable := ConstantPool.Addition.stable_addUtf8 codeName
    have hlater := hnameStable.appends hname
    have hlaterCount := hnameStable.count_le hname
    refine ⟨hpool.of_extends hlater, by dsimp only; omega, m, info, hm, fun p hp hpCount => ?_⟩
    have hfound := (hmember.codePosition?_eq ((hpool.of_extends hlater).of_extends hp)).trans hposition
    have hagain := hnameStable.again hname hp
    have hindex : p.codeIndex = nameIndex := by
      rw [ConstantPool.codeIndex, hagain]
    refine ⟨hstable.again hencode (hlater.of_extends hp), .inr ⟨hpCount, hindex ▸ hagain⟩, ?_⟩
    subst hindex
    refine congrArg (fun methods => { c with pool := p, methods }) (modify_congr hm ?_)
    exact (Member.withCode_of_none hfound info).symm

end ClassEdit

end ClassWeaver
