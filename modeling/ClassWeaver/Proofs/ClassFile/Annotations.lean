import ClassWeaver.ClassFile.Annotation
import ClassWeaver.Proofs.ClassFile.Lookups
import ClassWeaver.Proofs.ClassFile.WithinLimits

/-!
# Annotating a class

An annotation is added by patching a payload that is not read: the count in front of its entries grows by one, and the
new entry is put at its end. That agrees with reading the payload where the counted entries are all that it holds and
their count does not run over. Readers take the first attribute of a name, so the names of all attributes matter too:
one that lies beyond the pool could come to mean a text that is added.

## Contents

* `decodeAll_appendEntry` — a payload with one entry more.
* `annotationsNamed_eq_ok`, `annotations_eq_ok` — the types that are read.
* `Gains`, `annotate_eq`, `annotate_eq_ok` — what annotating makes of a class.
* `AnnotationsExact`, `Gains.annotations` — the types are those of before and the new one.
* `RoomFor`, `Gains.readsBack` — the class with one annotation more is read back.
-/

namespace ClassWeaver

open Bytes Decoder

/-! ## One entry more -/

namespace ElementValue

theorem covers_decodeElement {d e : Decoder ElementValue} (h : Covers e d) :
    Covers (decodeElement e) (decodeElement d) :=
  covers_u2.bind fun _ => h.bind fun _ => covers_pure _

/-- **A value that is read at some depth** is read at every greater one. -/
theorem covers_decode {m n : Nat} (h : m ≤ n) : Covers (decode n) (decode m) := by
  induction m generalizing n with
  | zero => exact covers_stop
  | succ m ih =>
    cases n with
    | zero => omega
    | succ n =>
      have hinner := ih (Nat.le_of_succ_le_succ h)
      rw [decode, decode]
      refine covers_u1.bind fun tag => ?_
      refine .ite (covers_u2.bind fun _ => covers_pure _) ?_
      refine .ite (covers_u2.bind fun _ => covers_u2.bind fun _ => covers_pure _) ?_
      refine .ite (covers_u2.bind fun _ => (covers_decodeElement hinner).counted.bind fun _ => covers_pure _) ?_
      exact .ite (hinner.counted.bind fun _ => covers_pure _) covers_stop

end ElementValue

namespace AnnotationEntry

theorem covers_decode {m n : Nat} (h : m ≤ n) : Covers (decode n) (decode m) :=
  covers_u2.bind fun _ => (ElementValue.covers_decodeElement (ElementValue.covers_decode h)).counted.bind fun _ =>
    covers_pure _

/-- An annotation without elements. -/
theorem reads_bare (depth : Nat) (type : UInt16) : Reads (decode depth) (u16 type ++ u16 0) ⟨type, []⟩ := by
  refine (reads_u2 type).bind ?_
  have hnone : Reads (counted (ElementValue.decodeElement (ElementValue.decode depth))) (u16 0) [] := by
    intro rest
    rw [counted, bind_of_eq_ok (reads_u2 0 rest)]
    rfl
  exact hnone.bind_pure (AnnotationEntry.mk type)

theorem decodeAll_single (type : UInt16) : decodeAll (u16 1 ++ (u16 type ++ u16 0)) = .ok ([⟨type, []⟩], []) := by
  have hbare := reads_bare (u16 1 ++ (u16 type ++ u16 0)).length type []
  rw [List.append_nil] at hbare
  rw [decodeAll, counted, bind_of_eq_ok (reads_u2 1 _)]
  have hnone : repeated (decode (u16 1 ++ (u16 type ++ u16 0)).length) 0 (u16 type ++ u16 0) =
      .ok ([], u16 type ++ u16 0) := rfl
  exact repeated_succ hnone hbare

/-- **One entry more** is read where the counted entries end the payload and their number does not run over. -/
theorem decodeAll_appendEntry {payload : List UInt8} {entries : List AnnotationEntry}
    (h : decodeAll payload = .ok (entries, [])) (hroom : entries.length < 65535) (type : UInt16) :
    decodeAll (appendEntry type payload) = .ok (entries ++ [⟨type, []⟩], []) := by
  obtain ⟨n, rest, hn, hentries⟩ := bind_eq_ok.mp h
  obtain ⟨hcount, -⟩ := ensures_repeated (ensures_true _) n.toNat rest entries [] hentries
  have hpayload := spelled_u2 payload n rest hn
  have hlonger : (appendEntry type payload) = u16 (n + 1) ++ (rest ++ (u16 type ++ u16 0)) := by
    rw [hpayload]
    show u16 (word _ _ + 1) ++ _ = _
    rw [word_div_mod]
    rfl
  have hdeeper : payload.length ≤ (appendEntry type payload).length := by
    rw [hlonger, hpayload]
    simp only [List.length_append, show ∀ n : UInt16, (u16 n).length = 2 from fun _ => rfl]
    omega
  have hnext : (n + 1).toNat = n.toNat + 1 := by
    rw [UInt16.toNat_add]
    show (n.toNat + 1) % 65536 = _
    omega
  rw [decodeAll, counted, hlonger, bind_of_eq_ok (reads_u2 (n + 1) _), hnext, ← hlonger]
  have hbehind := (covers_decode hdeeper).repeatedFrom n.toNat [] rest entries [] hentries (u16 type ++ u16 0)
  have hbare := reads_bare (appendEntry type payload).length type []
  rw [List.append_nil] at hbare
  exact repeated_succ hbehind hbare

end AnnotationEntry

/-! ## The types that are read -/

namespace ClassFile

/-- The first attribute of the class with the given name. -/
def attributeNamed? (c : ClassFile) (name : String) : Option Attribute :=
  ClassWeaver.attributeNamed? c.attributes c.pool name

variable {c c' : ClassFile} {name type : String} {types : List String}

theorem annotationsNamed_eq_ok : c.annotationsNamed name = .ok types ↔
    (c.attributeNamed? name = none ∧ types = []) ∨
      ∃ a, c.attributeNamed? name = some a ∧ ∃ entries rest, AnnotationEntry.decodeAll a.info = .ok (entries, rest) ∧
        entries.mapM (fun entry => c.pool.utf8 entry.type) = .ok types := by
  rw [annotationsNamed, attributePosition?, bind_attributePosition?, ← attributeNamed?]
  cases c.attributeNamed? name with
  | none => simp [eq_comm]
  | some a =>
    simp only [reduceCtorEq, false_and, false_or, Option.some.injEq, exists_eq_left', except_bind_eq_ok, parse_eq_ok]
    constructor
    · rintro ⟨entries, ⟨rest, hentries⟩, htypes⟩
      exact ⟨entries, rest, hentries, htypes⟩
    · rintro ⟨entries, rest, hentries, htypes⟩
      exact ⟨entries, ⟨rest, hentries⟩, htypes⟩

/-- An attribute that is found as before has the types that it had. -/
theorem annotationsNamed_of_extends (hpool : c.pool.Extends c'.pool)
    (hfound : c'.attributeNamed? name = c.attributeNamed? name) (h : c.annotationsNamed name = .ok types) :
    c'.annotationsNamed name = .ok types := by
  rcases annotationsNamed_eq_ok.mp h with ⟨hnone, rfl⟩ | ⟨a, ha, entries, rest, hentries, htypes⟩
  · exact annotationsNamed_eq_ok.mpr (.inl ⟨hfound.trans hnone, rfl⟩)
  · refine annotationsNamed_eq_ok.mpr (.inr ⟨a, hfound.trans ha, entries, rest, hentries, ?_⟩)
    exact mapM_eq_ok_of_imp (fun _ _ => hpool.utf8) htypes

theorem annotations_eq_ok : c.annotations = .ok types ↔ ∃ visible invisible,
    c.annotationsNamed visibleName = .ok visible ∧ c.annotationsNamed invisibleName = .ok invisible ∧
      types = visible ++ invisible := by
  simp only [annotations, except_bind_eq_ok, pure, Except.pure, Except.ok.injEq]
  constructor
  · rintro ⟨visible, hvisible, invisible, hinvisible, rfl⟩
    exact ⟨visible, invisible, hvisible, hinvisible, rfl⟩
  · rintro ⟨visible, invisible, hvisible, hinvisible, rfl⟩
    exact ⟨visible, hvisible, invisible, hinvisible, rfl⟩

theorem isAnnotatedWith_eq_ok {answer : Bool} :
    c.isAnnotatedWith type = .ok answer ↔ ∃ types, c.annotations = .ok types ∧ types.contains type = answer := by
  simp only [isAnnotatedWith, except_bind_eq_ok, pure, Except.pure, Except.ok.injEq]

end ClassFile

/-! ## Annotating -/

namespace ClassFile

variable {c c' : ClassFile} {type : String}

/-- The class with one entry more in the attribute at a position. -/
def withEntry (c : ClassFile) (pool : ConstantPool) (position : Nat) (index : UInt16) : ClassFile :=
  { c with
    pool
    attributes := c.attributes.modify position fun a => { a with info := appendEntry index a.info } }

/-- The class with one attribute more, which holds an entry. -/
def withFirstEntry (c : ClassFile) (pool : ConstantPool) (nameIndex index : UInt16) : ClassFile :=
  { c with
    pool
    attributes := c.attributes ++ [⟨nameIndex, u16 1 ++ (u16 index ++ u16 0)⟩] }

/-- What annotating with a type makes of a class: the type's text is added, and an entry with its index. -/
inductive Gains (type : String) (c : ClassFile) : ClassFile → Prop
  | entry {index : UInt16} {pool : ConstantPool} {position : Nat} :
    ConstantPool.addUtf8 type c.pool = (.ok index, pool) →
      ClassWeaver.attributePosition? c.attributes pool invisibleName = some position →
        Gains type c (c.withEntry pool position index)
  | firstEntry {index nameIndex : UInt16} {pool later : ConstantPool} :
    ConstantPool.addUtf8 type c.pool = (.ok index, pool) →
      ClassWeaver.attributePosition? c.attributes pool invisibleName = none →
        ConstantPool.addUtf8 invisibleName pool = (.ok nameIndex, later) →
          Gains type c (c.withFirstEntry later nameIndex index)

theorem Gains.extends_pool (h : c.Gains type c') : c.pool.Extends c'.pool := by
  cases h with
  | entry hadd _ => exact ConstantPool.extends_of_addUtf8 hadd
  | firstEntry hadd _ hname =>
    exact (ConstantPool.extends_of_addUtf8 hadd).of_extends (ConstantPool.extends_of_addUtf8 hname)

theorem invisibleName_ne_visibleName : invisibleName ≠ visibleName := by
  decide

/-- Visible annotations are found where they were. -/
theorem Gains.visible (h : c.Gains type c') (hcount : c.pool.count ≤ 65536)
    (hnames : ∀ a ∈ c.attributes, a.nameIndex.toNat < c.pool.count) :
    c'.attributeNamed? visibleName = c.attributeNamed? visibleName := by
  have hextends := h.extends_pool
  rw [attributeNamed?, attributeNamed?, ← attributeNamed?_of_extends hextends hnames]
  cases h with
  | @entry index pool position hadd hposition =>
    obtain ⟨front, a, back, hsplit, -, hnamed, -, hchange⟩ := split_of_findIdx? hposition
    -- the patched attribute has the other name, so the search for visible annotations goes past it as before
    have ha : pool.hasText a.nameIndex visibleName = false :=
      hasText_eq_false (ConstantPool.hasText_eq_true_iff.mp hnamed) invisibleName_ne_visibleName
    simp only [ClassWeaver.attributeNamed?, withEntry, hchange]
    simp only [hsplit, List.find?_append, List.find?_cons, ha]
  | @firstEntry index nameIndex pool later hadd hposition hname =>
    have hpool := (ConstantPool.Addition.stable_addUtf8 type).count_le hadd
    have hnew : later.hasText nameIndex visibleName = false :=
      hasText_eq_false (ConstantPool.utf8_of_addUtf8 (by omega) hname) invisibleName_ne_visibleName
    simp only [ClassWeaver.attributeNamed?, withFirstEntry, List.find?_append, List.find?_cons, hnew, List.find?_nil,
      Option.or_none]

/-- **The entry is in the first attribute of invisible annotations**, where it is found again. -/
theorem Gains.invisible (h : c.Gains type c') (hcount : c.pool.count ≤ 65536)
    (hnames : ∀ a ∈ c.attributes, a.nameIndex.toNat < c.pool.count) :
    ∃ index, c'.pool.utf8 index = .ok type ∧
      ((c.attributeNamed? invisibleName = none ∧ ∃ nameIndex,
          c'.attributeNamed? invisibleName = some ⟨nameIndex, u16 1 ++ (u16 index ++ u16 0)⟩) ∨
        ∃ a, c.attributeNamed? invisibleName = some a ∧
          c'.attributeNamed? invisibleName = some { a with info := appendEntry index a.info }) := by
  have hextends := h.extends_pool
  simp only [attributeNamed?, ← attributeNamed?_of_extends hextends hnames]
  cases h with
  | @entry index pool position hadd hposition =>
    obtain ⟨front, a, back, hsplit, -, hnamed, hearlier, hchange⟩ := split_of_findIdx? hposition
    have hfront : front.find? (fun a => pool.hasText a.nameIndex invisibleName) = none :=
      List.find?_eq_none.mpr fun x hx => Bool.eq_false_iff.mp (hearlier x hx)
    refine ⟨index, ConstantPool.utf8_of_addUtf8 hcount hadd, .inr ⟨a, ?_, ?_⟩⟩
    · simp only [ClassWeaver.attributeNamed?, withEntry, hsplit, List.find?_append, hfront, List.find?_cons, hnamed,
        Option.none_or]
    · simp only [ClassWeaver.attributeNamed?, withEntry, hchange, List.find?_append, hfront, List.find?_cons, hnamed,
        Option.none_or]
  | @firstEntry index nameIndex pool later hadd hposition hname =>
    have hpool := (ConstantPool.Addition.stable_addUtf8 type).count_le hadd
    have hnew : later.hasText nameIndex invisibleName = true :=
      ConstantPool.hasText_eq_true_iff.mpr (ConstantPool.utf8_of_addUtf8 (by omega) hname)
    -- the search was made before the name was added, and adding it gives no old attribute that name
    have hnone : ClassWeaver.attributeNamed? c.attributes later invisibleName = none := by
      rw [attributeNamed?_of_extends (q := later) hextends hnames,
        ← attributeNamed?_of_extends (ConstantPool.extends_of_addUtf8 hadd) hnames, ← bind_attributePosition?, hposition]
      rfl
    refine ⟨index, (ConstantPool.extends_of_addUtf8 hname).utf8 (ConstantPool.utf8_of_addUtf8 hcount hadd),
      .inl ⟨hnone, nameIndex, ?_⟩⟩
    rw [ClassWeaver.attributeNamed?] at hnone ⊢
    simp only [withFirstEntry, List.find?_append, hnone, List.find?_cons, hnew, Option.none_or]

/-- The counted entries of the first attribute of invisible annotations end its payload, and their count can grow. -/
def AnnotationsExact (c : ClassFile) : Prop :=
  ∀ a, c.attributeNamed? invisibleName = some a →
    ∃ entries, AnnotationEntry.decodeAll a.info = .ok (entries, []) ∧ entries.length < 65535

/-- **The types are those that there were, and the new one behind them.** -/
theorem Gains.annotations (h : c.Gains type c') (hexact : c.AnnotationsExact) (hcount : c.pool.count ≤ 65536)
    (hnames : ∀ a ∈ c.attributes, a.nameIndex.toNat < c.pool.count) {before : List String}
    (hbefore : c.annotations = .ok before) : c'.annotations = .ok (before ++ [type]) := by
  obtain ⟨visible, invisible, hvisible, hinvisible, rfl⟩ := annotations_eq_ok.mp hbefore
  have hvisible' := annotationsNamed_of_extends h.extends_pool (h.visible hcount hnames) hvisible
  suffices hnew : c'.annotationsNamed invisibleName = .ok (invisible ++ [type]) by
    exact annotations_eq_ok.mpr ⟨visible, invisible ++ [type], hvisible', hnew, List.append_assoc ..⟩
  obtain ⟨index, hindex, ⟨hnone, nameIndex, hfound⟩ | ⟨a, ha, hfound⟩⟩ := h.invisible hcount hnames
  · have hnothing : invisible = [] := by
      rcases annotationsNamed_eq_ok.mp hinvisible with ⟨-, h⟩ | ⟨a, ha, -⟩
      · exact h
      · rw [hnone] at ha
        cases ha
    subst hnothing
    refine annotationsNamed_eq_ok.mpr (.inr ⟨_, hfound, [⟨index, []⟩], [], ?_, ?_⟩)
    · exact AnnotationEntry.decodeAll_single index
    · rw [List.mapM_cons, hindex]
      rfl
  · obtain ⟨entries, hentries, hroom⟩ := hexact a ha
    have hold := (annotationsNamed_eq_ok.mp hinvisible).resolve_left (by simp [ha])
    obtain ⟨b, hb, read, rest, hread, htypes⟩ := hold
    rw [ha] at hb
    cases hb
    rw [hentries] at hread
    cases hread
    have hlonger := AnnotationEntry.decodeAll_appendEntry hentries hroom index
    refine annotationsNamed_eq_ok.mpr (.inr ⟨_, hfound, entries ++ [⟨index, []⟩], [], hlonger, ?_⟩)
    rw [List.mapM_append, mapM_eq_ok_of_imp (fun _ _ => h.extends_pool.utf8) htypes, List.mapM_cons, hindex]
    rfl

theorem length_appendEntry_le (index : UInt16) (info : List UInt8) :
    (appendEntry index info).length ≤ info.length + 4 := by
  unfold appendEntry
  split
  · simp only [List.length_append, List.length_cons, u16, List.length_nil]
    omega
  · omega

/-- What has to be left of the limits of the format for an entry to be written. -/
structure RoomFor (c : ClassFile) (type : String) : Prop where
  slots : c.pool.count ≤ 65535
  text : (ModifiedUtf8.encode type).length ≤ 65535
  attributes : c.attributeNamed? invisibleName = none → c.attributes.length < 65535
  payload : ∀ a, c.attributeNamed? invisibleName = some a → a.info.length + 4 < 4294967296

theorem Gains.pool_wellFormed (h : c.Gains type c') (hpool : c.pool.WellFormed)
    (htext : (ModifiedUtf8.encode type).length ≤ 65535) : c'.pool.WellFormed := by
  cases h with
  | entry hadd _ => exact hpool.addUtf8 htext hadd
  | firstEntry hadd _ hname => exact (hpool.addUtf8 htext hadd).addUtf8 (by decide) hname

theorem Gains.attributes_writable (h : c.Gains type c')
    (hnames : ∀ a ∈ c.attributes, a.nameIndex.toNat < c.pool.count) (hroom : c.RoomFor type)
    (hattributes : WritableList Attribute.Writable c.attributes) : WritableList Attribute.Writable c'.attributes := by
  obtain ⟨hlength, hall⟩ := hattributes
  cases h with
  | @entry index pool position hadd hposition =>
    obtain ⟨front, a, back, hsplit, hat, -, -, hchange⟩ := split_of_findIdx? hposition
    have hfound : c.attributeNamed? invisibleName = some a := by
      rw [attributeNamed?, ← attributeNamed?_of_extends (ConstantPool.extends_of_addUtf8 hadd) hnames,
        ← bind_attributePosition?, hposition]
      exact hat
    have hlonger : (appendEntry index a.info).length < 4294967296 :=
      Nat.lt_of_le_of_lt (length_appendEntry_le index a.info) (hroom.payload a hfound)
    rw [hsplit, List.forall_mem_append, List.forall_mem_cons] at hall
    refine ⟨?_, ?_⟩
    · show (c.attributes.modify position _).length ≤ 65535
      rwa [List.length_modify]
    · show ∀ x ∈ c.attributes.modify position _, x.Writable
      rw [hchange, List.forall_mem_append, List.forall_mem_cons]
      exact ⟨hall.1, hlonger, hall.2.2⟩
  | @firstEntry index nameIndex pool later hadd hposition hname =>
    have hnone : c.attributeNamed? invisibleName = none := by
      rw [attributeNamed?, ← attributeNamed?_of_extends (ConstantPool.extends_of_addUtf8 hadd) hnames,
        ← bind_attributePosition?, hposition]
      rfl
    have hspace := hroom.attributes hnone
    refine ⟨?_, ?_⟩
    · show (c.attributes ++ [_]).length ≤ 65535
      rw [List.length_append, List.length_singleton]
      omega
    · show ∀ x ∈ c.attributes ++ [_], x.Writable
      rw [List.forall_mem_append, List.forall_mem_singleton]
      exact ⟨hall, show 6 < 4294967296 by decide⟩

/-- **A class that gained an entry is read back** from its bytes. -/
theorem Gains.readsBack (h : c.Gains type c') {bytes : List UInt8} (hread : ofBytes bytes = .ok c)
    (hnames : ∀ a ∈ c.attributes, a.nameIndex.toNat < c.pool.count) (hroom : c.RoomFor type) :
    ofBytes c'.toBytes = .ok c' := by
  have hold := writable_of_ofBytes hread hroom.slots
  have hrest : c'.interfaces = c.interfaces ∧ c'.fields = c.fields ∧ c'.methods = c.methods ∧
      c'.thisClass = c.thisClass := by
    cases h with
    | entry => exact ⟨rfl, rfl, rfl, rfl⟩
    | firstEntry => exact ⟨rfl, rfl, rfl, rfl⟩
  obtain ⟨hinterfaces, hfields, hmethods, hthis⟩ := hrest
  obtain ⟨name, hname⟩ := hold.named
  refine (Writable.read_iff ⟨h.pool_wellFormed hold.pool hroom.text, ?_, ?_, ?_, ?_, name, ?_⟩).mpr rfl
  · rw [hinterfaces]
    exact hold.interfaces
  · rw [hfields]
    exact hold.fields
  · rw [hmethods]
    exact hold.methods
  · exact h.attributes_writable hnames hroom hold.attributes
  · rw [ClassFile.name, hthis]
    exact h.extends_pool.className hname

end ClassFile

namespace ClassEdit

variable {c c' : ClassFile} {type : String} {added : Bool}

/-- Annotating, step by step. -/
theorem annotate_eq (type : String) (c : ClassFile) : annotate type c =
    match c.annotations with
    | .error defect => (.error defect, c)
    | .ok types =>
      if types.contains type then (.ok false, c)
      else
        match ConstantPool.addUtf8 type c.pool with
        | (.error defect, pool) => (.error defect, { c with pool })
        | (.ok index, pool) =>
          match ClassWeaver.attributePosition? c.attributes pool invisibleName with
          | some position => (.ok true, c.withEntry pool position index)
          | none =>
            match ConstantPool.addUtf8 invisibleName pool with
            | (.error defect, later) => (.error defect, { c with pool := later })
            | (.ok nameIndex, later) => (.ok true, c.withFirstEntry later nameIndex index) := by
  have hpool (text : String) (d : ClassFile) : onPool (ConstantPool.addUtf8 text) d =
      ((ConstantPool.addUtf8 text d.pool).1, { d with pool := (ConstantPool.addUtf8 text d.pool).2 }) := rfl
  rw [annotate, Edits.get_bind, ClassFile.isAnnotatedWith]
  cases c.annotations with
  | error defect => rfl
  | ok types =>
    refine (Edits.bind_of_eq_ok (x := types.contains type) (u := c) rfl).trans ?_
    dsimp only
    by_cases hannotated : types.contains type = true
    · rw [if_pos hannotated, if_pos hannotated]
      rfl
    · rw [if_neg hannotated, if_neg hannotated, Edits.bind_eq, hpool]
      rcases ConstantPool.addUtf8 type c.pool with ⟨_ | index, pool⟩
      · rfl
      · dsimp only
        rw [Edits.get_bind]
        cases hposition : ClassWeaver.attributePosition? c.attributes pool invisibleName with
        | some position =>
          rw [show ClassFile.attributePosition? { c with pool } invisibleName = some position from hposition]
          rfl
        | none =>
          rw [show ClassFile.attributePosition? { c with pool } invisibleName = none from hposition]
          dsimp only
          rw [Edits.bind_eq, hpool]
          rcases ConstantPool.addUtf8 invisibleName pool with ⟨_ | nameIndex, later⟩
          · rfl
          · rfl

/-- **Annotating does nothing or adds an entry**, as the annotations of the class say. -/
theorem annotate_eq_ok : annotate type c = (.ok added, c') ↔
    c.isAnnotatedWith type = .ok !added ∧ (added = false → c' = c) ∧ (added = true → c.Gains type c') := by
  rw [annotate_eq]
  constructor
  · intro h
    split at h
    · cases h
    · rename_i types htypes
      split at h
      · rename_i hannotated
        cases h
        exact ⟨ClassFile.isAnnotatedWith_eq_ok.mpr ⟨types, htypes, hannotated⟩, fun _ => rfl, nofun⟩
      · rename_i hannotated
        have hasked : c.isAnnotatedWith type = .ok false :=
          ClassFile.isAnnotatedWith_eq_ok.mpr ⟨types, htypes, Bool.eq_false_iff.mpr hannotated⟩
        split at h
        · cases h
        · rename_i index pool hadd
          split at h
          · rename_i position hposition
            cases h
            exact ⟨hasked, nofun, fun _ => .entry hadd hposition⟩
          · rename_i hposition
            split at h
            · cases h
            · rename_i nameIndex later hname
              cases h
              exact ⟨hasked, nofun, fun _ => .firstEntry hadd hposition hname⟩
  · rintro ⟨hasked, hkept, hgained⟩
    obtain ⟨types, htypes, hannotated⟩ := ClassFile.isAnnotatedWith_eq_ok.mp hasked
    rw [htypes]
    cases added with
    | false =>
      rw [hkept rfl]
      exact if_pos hannotated
    | true =>
      refine (if_neg (Bool.eq_false_iff.mp hannotated)).trans ?_
      cases hgained rfl with
      | entry hadd hposition =>
        rw [hadd]
        dsimp only
        rw [hposition]
      | firstEntry hadd hposition hname =>
        rw [hadd]
        dsimp only
        rw [hposition]
        dsimp only
        rw [hname]

theorem annotate_of_annotated (h : c.isAnnotatedWith type = .ok true) : annotate type c = (.ok false, c) :=
  annotate_eq_ok.mpr ⟨h, fun _ => rfl, nofun⟩

theorem isAnnotatedWith_of_annotate (hexact : c.AnnotationsExact) (hcount : c.pool.count ≤ 65536)
    (hnames : ∀ a ∈ c.attributes, a.nameIndex.toNat < c.pool.count) (h : annotate type c = (.ok added, c')) :
    c'.isAnnotatedWith type = .ok true := by
  obtain ⟨hasked, hkept, hgained⟩ := annotate_eq_ok.mp h
  cases added with
  | false =>
    rw [hkept rfl]
    exact hasked
  | true =>
    obtain ⟨before, hbefore, -⟩ := ClassFile.isAnnotatedWith_eq_ok.mp hasked
    have hafter := (hgained rfl).annotations hexact hcount hnames hbefore
    exact ClassFile.isAnnotatedWith_eq_ok.mpr ⟨_, hafter, by simp⟩

end ClassEdit

end ClassWeaver
