import ClassWeaver.Proofs.Bytes.Nesting
import ClassWeaver.Proofs.ClassFile.Annotations

/-!
# Payloads of annotations

The values of an annotation's elements nest without end: a value may be an annotation with elements of its own, or an
array of values. Only the types of the outermost annotations are kept of a payload, but to find them all values in
between have to be gone over. What a payload looks like is written down here as a writer, letter by letter, and not
through the decoder. The two fit exactly, whatever stands behind the payload. The bound that the decoder has on depth
does not show, since its calls are nowhere as deep as the payload is long.

## Contents

* `ElementValue.toBytes`, `AnnotationEntry.toBytes`, `AnnotationEntry.listToBytes` — the bytes of annotations.
* `ElementValue.Encodable`, `AnnotationEntry.EncodableList` — what has a spelling.
* `Encodable.reads`, `spelled_decode`, `ensures_decode`, `decodeAll_eq_ok_iff` — annotations and their bytes.
* `decodeBody`, `decodeAbove`, `agreeBelow_decodeAbove` — what is done far down does not matter.
* `decodeTypes`, `decodeTypes_exact` — the types of the annotations at the front of a payload.
-/

namespace ClassWeaver

open Bytes Decoder

theorem length_le_flatMap {α : Type} (write : α → List UInt8) {xs : List α} {x : α} (h : x ∈ xs) :
    (write x).length ≤ (xs.flatMap write).length :=
  (List.sublist_flatten_of_mem (List.mem_map_of_mem h)).length_le

namespace ElementValue

/-! ## The bytes of values -/

/-- The letters of constants: of numbers and truth values, of strings and of classes. -/
def constantLetters : List Char :=
  ['B', 'C', 'D', 'F', 'I', 'J', 'S', 'Z', 's', 'c']

/-- The tag with the given letter. -/
def tagOf (letter : Char) : UInt8 :=
  UInt8.ofNat letter.toNat

mutual

/-- The bytes of a value: its tag, and what the tag announces. -/
def toBytes : ElementValue → List UInt8
  | constant tag index => tag :: u16 index
  | enum type name => tagOf 'e' :: (u16 type ++ u16 name)
  | nested type elements => tagOf '@' :: (u16 type ++ (count16 elements.length ++ elementsToBytes elements))
  | array values => tagOf '[' :: (count16 values.length ++ valuesToBytes values)

/-- The bytes of elements, each value behind its name. -/
def elementsToBytes : List (UInt16 × ElementValue) → List UInt8
  | [] => []
  | (name, value) :: elements => u16 name ++ value.toBytes ++ elementsToBytes elements

/-- The bytes of the values of an array. -/
def valuesToBytes : List ElementValue → List UInt8
  | [] => []
  | value :: values => value.toBytes ++ valuesToBytes values

end

/-- The bytes of an element. -/
def elementToBytes (element : UInt16 × ElementValue) : List UInt8 :=
  u16 element.1 ++ element.2.toBytes

theorem elementsToBytes_eq (elements : List (UInt16 × ElementValue)) :
    elementsToBytes elements = elements.flatMap elementToBytes := by
  induction elements with
  | nil => rfl
  | cons element elements ih => rw [elementsToBytes, ih, List.flatMap_cons, elementToBytes]

theorem valuesToBytes_eq (values : List ElementValue) : valuesToBytes values = values.flatMap toBytes := by
  induction values with
  | nil => rfl
  | cons value values ih => rw [valuesToBytes, ih, List.flatMap_cons]

theorem length_toBytes_pos (v : ElementValue) : 0 < v.toBytes.length := by
  cases v with
  | constant | enum | nested | array => exact Nat.succ_pos _

/-- A value that has a spelling: constants have one of the ten letters, and lists are counted in two bytes. -/
inductive Encodable : ElementValue → Prop
  | constant {letter : Char} {index : UInt16} : letter ∈ constantLetters → Encodable (.constant (tagOf letter) index)
  | enum {type name : UInt16} : Encodable (.enum type name)
  | nested {type : UInt16} {elements : List (UInt16 × ElementValue)} :
    elements.length < 65536 → (∀ e ∈ elements, Encodable e.2) → Encodable (.nested type elements)
  | array {values : List ElementValue} :
    values.length < 65536 → (∀ v ∈ values, Encodable v) → Encodable (.array values)

/-- The tags that are read as those of constants have the ten letters. -/
theorem contains_constantTags {tag : UInt8} :
    constantTags.contains tag.toNat = true ↔ ∃ letter ∈ constantLetters, tag = tagOf letter := by
  have htags : constantTags = constantLetters.map Char.toNat := rfl
  have hbyte : constantLetters.all (·.toNat < 256) = true := rfl
  rw [htags, List.contains_eq_mem, decide_eq_true_eq, List.mem_map]
  constructor
  · rintro ⟨letter, hletter, htag⟩
    exact ⟨letter, hletter, by rw [tagOf, htag, UInt8.ofNat_toNat]⟩
  · rintro ⟨letter, hletter, rfl⟩
    have hlt := of_decide_eq_true (List.all_eq_true.mp hbyte letter hletter)
    exact ⟨letter, hletter, (toNat_ofNat8 hlt).symm⟩

/-! ## Values and their bytes -/

/-- One value, given how the values in it are read. -/
def decodeBody (value : Decoder ElementValue) : Decoder ElementValue := do
  let tag ← Decoder.u1
  if constantTags.contains tag.toNat then return constant tag (← Decoder.u2)
  else if tag = 0x65 then
    let type ← Decoder.u2
    let name ← Decoder.u2
    return enum type name
  else if tag = 0x40 then
    let type ← Decoder.u2
    let elements ← Decoder.counted (decodeElement value)
    return nested type elements
  else if tag = 0x5B then return array (← Decoder.counted value)
  else Decoder.stop

theorem decode_succ (depth : Nat) : decode (depth + 1) = decodeBody (decode depth) :=
  rfl

variable {value : Decoder ElementValue} {v : ElementValue} {depth : Nat}

theorem reads_decodeElement {element : UInt16 × ElementValue} (h : Reads value element.2.toBytes element.2) :
    Reads (decodeElement value) (elementToBytes element) element :=
  (reads_u2 element.1).bind (h.bind_pure fun v => (element.1, v))

/-- **A value is read off its bytes**, at every depth that is not below their number. -/
theorem Encodable.reads (h : v.Encodable) (hdepth : v.toBytes.length ≤ depth) : Reads (decode depth) v.toBytes v := by
  -- one level down there is at least the tag less to read, so the bound on depth goes down with the bytes
  induction depth generalizing v with
  | zero => exact absurd (Nat.lt_of_lt_of_le v.length_toBytes_pos hdepth) (Nat.lt_irrefl 0)
  | succ depth ih =>
    rw [decode_succ]
    cases h with
    | @constant letter index hletter =>
      refine (reads_u1 (tagOf letter)).bind ?_
      rw [if_pos (contains_constantTags.mpr ⟨letter, hletter, rfl⟩)]
      exact (reads_u2 index).bind_pure (ElementValue.constant (tagOf letter))
    | @enum type name =>
      exact (reads_u1 (tagOf 'e')).bind ((reads_u2 type).bind ((reads_u2 name).bind_pure (ElementValue.enum type)))
    | @nested type elements hcount hall =>
      rw [toBytes, elementsToBytes_eq] at hdepth ⊢
      refine (reads_u1 (tagOf '@')).bind ((reads_u2 type).bind ?_)
      refine (reads_counted hcount fun e he => reads_decodeElement (ih (hall e he) ?_)).bind_pure
        (ElementValue.nested type)
      have hshorter := length_le_flatMap elementToBytes he
      simp only [List.length_cons, List.length_append, elementToBytes] at hdepth hshorter
      omega
    | @array values hcount hall =>
      rw [toBytes, valuesToBytes_eq] at hdepth ⊢
      refine (reads_u1 (tagOf '[')).bind ?_
      refine (reads_counted hcount fun v hv => ih (hall v hv) ?_).bind_pure ElementValue.array
      have hshorter := length_le_flatMap toBytes hv
      simp only [List.length_cons, List.length_append] at hdepth
      omega

theorem spelled_decodeElement (h : Spelled value toBytes) : Spelled (decodeElement value) elementToBytes := by
  intro bytes element rest helement
  obtain ⟨name, middle, hname, helement⟩ := bind_eq_ok.mp helement
  obtain ⟨v, middle', hv, helement⟩ := bind_eq_ok.mp helement
  obtain ⟨rfl, rfl⟩ := pure_eq_ok.mp helement
  rw [spelled_u2 bytes name middle hname, h middle v middle' hv, elementToBytes, List.append_assoc]

theorem spelled_decodeBody (h : Spelled value toBytes) : Spelled (decodeBody value) toBytes := by
  intro bytes v rest hv
  obtain ⟨tag, middle, htag, hv⟩ := bind_eq_ok.mp hv
  rw [spelled_u1 bytes tag middle htag]
  split at hv
  · obtain ⟨index, middle', hindex, hv⟩ := bind_eq_ok.mp hv
    obtain ⟨rfl, rfl⟩ := pure_eq_ok.mp hv
    rw [spelled_u2 middle index middle' hindex]
    rfl
  split at hv
  · rename_i htag
    obtain ⟨type, middle', htype, hv⟩ := bind_eq_ok.mp hv
    obtain ⟨name, middle'', hname, hv⟩ := bind_eq_ok.mp hv
    obtain ⟨rfl, rfl⟩ := pure_eq_ok.mp hv
    rw [htag, spelled_u2 middle type middle' htype, spelled_u2 middle' name middle'' hname]
    rfl
  split at hv
  · rename_i htag
    obtain ⟨type, middle', htype, hv⟩ := bind_eq_ok.mp hv
    obtain ⟨elements, middle'', helements, hv⟩ := bind_eq_ok.mp hv
    obtain ⟨rfl, rfl⟩ := pure_eq_ok.mp hv
    have hlist := spelled_counted (spelled_decodeElement h) middle' elements middle'' helements
    rw [htag, spelled_u2 middle type middle' htype, hlist, toBytes, elementsToBytes_eq, ← List.append_assoc]
    rfl
  split at hv
  · rename_i htag
    obtain ⟨values, middle', hvalues, hv⟩ := bind_eq_ok.mp hv
    obtain ⟨rfl, rfl⟩ := pure_eq_ok.mp hv
    rw [htag, spelled_counted h middle values middle' hvalues, toBytes, valuesToBytes_eq]
    rfl
  · cases hv

theorem ensures_decodeElement (h : Ensures value Encodable) : Ensures (decodeElement value) fun e => e.2.Encodable :=
  (ensures_true u2).bind fun _ _ => h.bind_pure fun _ hv => hv

theorem ensures_decodeBody (h : Ensures value Encodable) : Ensures (decodeBody value) Encodable := by
  refine (ensures_true u1).bind fun tag _ => ?_
  refine .ite (fun htag => ?_) fun _ => ?_
  · obtain ⟨letter, hletter, rfl⟩ := contains_constantTags.mp htag
    exact (ensures_true u2).bind_pure fun index _ => .constant hletter
  refine .ite (fun _ => ?_) fun _ => ?_
  · exact (ensures_true u2).bind fun type _ => (ensures_true u2).bind_pure fun _ _ => .enum
  refine .ite (fun _ => (ensures_true u2).bind fun type _ => ?_) fun _ => ?_
  · refine (ensures_counted (ensures_decodeElement h)).bind_pure fun elements helements => ?_
    exact .nested (Nat.lt_succ_of_le helements.1) helements.2
  refine .ite (fun _ => ?_) fun _ => ensures_stop
  refine (ensures_counted h).bind_pure fun values hvalues => ?_
  exact .array (Nat.lt_succ_of_le hvalues.1) hvalues.2

/-- **What was taken for a value is its bytes.** -/
theorem spelled_decode (depth : Nat) : Spelled (decode depth) toBytes := by
  induction depth with
  | zero => exact fun _ _ _ h => nomatch h
  | succ depth ih => exact spelled_decodeBody ih

theorem ensures_decode (depth : Nat) : Ensures (decode depth) Encodable := by
  induction depth with
  | zero => exact ensures_stop
  | succ depth ih => exact ensures_decodeBody ih

/-! ## Depth -/

/-- A value, where those at the given depth are read by `value`. -/
def decodeAbove (value : Decoder ElementValue) : (depth : Nat) → Decoder ElementValue
  | 0 => value
  | depth + 1 => decodeBody (decodeAbove value depth)

theorem decode_eq_decodeAbove (depth : Nat) : decode depth = decodeAbove stop depth := by
  induction depth with
  | zero => rfl
  | succ depth ih => rw [decode_succ, ih, decodeAbove]

variable {n : Nat} {d e : Decoder ElementValue}

theorem agreeBelow_decodeElement (h : AgreeBelow n d e) : AgreeBelow n (decodeElement d) (decodeElement e) :=
  sequential_u2.agreeBelow.bind fun _ => h.bind fun _ => (sequential_pure _).agreeBelow

/-- The tag is a byte of the value, so the values in it are shorter. -/
theorem agreeBelow_decodeBody (h : AgreeBelow n d e) : AgreeBelow (n + 1) (decodeBody d) (decodeBody e) := by
  have hu2 : AgreeBelow n u2 u2 := sequential_u2.agreeBelow
  have hpure (v : ElementValue) : AgreeBelow n (pure v) (pure v) := (sequential_pure v).agreeBelow
  have helements := (agreeBelow_decodeElement h).counted.of_le (Nat.le_succ n)
  have hvalues := h.counted.of_le (Nat.le_succ n)
  refine .behind (fun _ _ _ => length_lt_of_u1) fun tag => ?_
  refine .ite (hu2.bind fun index => hpure _) ?_
  refine .ite (hu2.bind fun type => hu2.bind fun name => hpure _) ?_
  refine .ite (hu2.bind fun type => helements.bind fun elements => hpure _) ?_
  exact .ite (hvalues.bind fun values => hpure _) sequential_stop.agreeBelow

/-- **What is done far down does not matter**, where there are fewer bytes than the depth. -/
theorem agreeBelow_decodeAbove {k l : Nat} (hk : n ≤ k) (hl : n ≤ l) :
    AgreeBelow n (decodeAbove d k) (decodeAbove e l) := by
  induction n generalizing k l with
  | zero => exact agreeBelow_zero
  | succ n ih =>
    obtain ⟨k, rfl⟩ := Nat.exists_eq_add_of_lt hk
    obtain ⟨l, rfl⟩ := Nat.exists_eq_add_of_lt hl
    exact agreeBelow_decodeBody (ih (Nat.le_add_right n k) (Nat.le_add_right n l))

end ElementValue

/-! ## Annotations -/

namespace AnnotationEntry

open ElementValue

/-- The bytes of an annotation. -/
def toBytes (entry : AnnotationEntry) : List UInt8 :=
  u16 entry.type ++ (count16 entry.elements.length ++ elementsToBytes entry.elements)

/-- The bytes of a list of annotations. -/
def listToBytes (entries : List AnnotationEntry) : List UInt8 :=
  count16 entries.length ++ entries.flatMap toBytes

/-- An annotation that has a spelling. -/
structure Encodable (entry : AnnotationEntry) : Prop where
  count : entry.elements.length < 65536
  values : ∀ e ∈ entry.elements, e.2.Encodable

/-- A list of annotations that has a spelling. -/
structure EncodableList (entries : List AnnotationEntry) : Prop where
  count : entries.length < 65536
  entries : ∀ entry ∈ entries, entry.Encodable

variable {entry : AnnotationEntry} {depth : Nat}

theorem Encodable.reads (h : entry.Encodable) (hdepth : entry.toBytes.length ≤ depth) :
    Reads (decode depth) entry.toBytes entry := by
  rw [toBytes, elementsToBytes_eq] at hdepth ⊢
  refine (reads_u2 entry.type).bind ?_
  refine (reads_counted h.count fun e he => reads_decodeElement ((h.values e he).reads ?_)).bind_pure
    (AnnotationEntry.mk entry.type)
  have hshorter := length_le_flatMap elementToBytes he
  simp only [List.length_append, elementToBytes] at hdepth hshorter
  omega

theorem spelled_decode (depth : Nat) : Spelled (decode depth) toBytes := by
  intro bytes entry rest h
  obtain ⟨type, middle, htype, h⟩ := bind_eq_ok.mp h
  obtain ⟨elements, middle', helements, h⟩ := bind_eq_ok.mp h
  obtain ⟨rfl, rfl⟩ := pure_eq_ok.mp h
  have hlist := spelled_counted (spelled_decodeElement (ElementValue.spelled_decode depth)) middle elements middle'
    helements
  rw [spelled_u2 bytes type middle htype, hlist, toBytes, elementsToBytes_eq, ← List.append_assoc]

theorem ensures_decode (depth : Nat) : Ensures (decode depth) Encodable := by
  refine (ensures_true u2).bind fun type _ => ?_
  refine (ensures_counted (ensures_decodeElement (ElementValue.ensures_decode depth))).bind_pure fun elements h => ?_
  exact ⟨Nat.lt_succ_of_le h.1, h.2⟩

/-- **Annotations and their bytes determine each other**, whatever stands behind the bytes. -/
theorem decodeAll_eq_ok_iff {payload rest : List UInt8} {entries : List AnnotationEntry} :
    decodeAll payload = .ok (entries, rest) ↔ EncodableList entries ∧ payload = listToBytes entries ++ rest := by
  constructor
  · intro h
    obtain ⟨hcount, hall⟩ := ensures_counted (ensures_decode payload.length) payload entries rest h
    exact ⟨⟨Nat.lt_succ_of_le hcount, hall⟩, spelled_counted (spelled_decode payload.length) payload entries rest h⟩
  · rintro ⟨⟨hcount, hall⟩, rfl⟩
    refine reads_counted hcount (fun entry hentry => (hall entry hentry).reads ?_) rest
    have hshorter := length_le_flatMap toBytes hentry
    rw [List.length_append, listToBytes, List.length_append]
    omega

/-- An annotation, given how the values in it are read. -/
def decodeWith (value : Decoder ElementValue) : Decoder AnnotationEntry := do
  let type ← Decoder.u2
  let elements ← Decoder.counted (decodeElement value)
  return ⟨type, elements⟩

theorem decode_eq_decodeWith (depth : Nat) : decode depth = decodeWith (decodeAbove stop depth) := by
  rw [← decode_eq_decodeAbove]
  rfl

theorem agreeBelow_decodeWith {n : Nat} {d e : Decoder ElementValue} (h : AgreeBelow n d e) :
    AgreeBelow n (decodeWith d) (decodeWith e) := by
  have helements := (agreeBelow_decodeElement h).counted.of_le (Nat.le_succ n)
  exact sequential_u2.agreeBelow.bind fun type => helements.bind fun elements => (sequential_pure _).agreeBelow

/-- The annotations, where values at the given depth are read by `value`. -/
def decodeAllAbove (value : Decoder ElementValue) (depth : Nat) : Decoder (List AnnotationEntry) :=
  counted (decodeWith (decodeAbove value depth))

/-- **The bound on depth does not show**: the calls are nowhere as deep as the payload is long. -/
theorem decodeAllAbove_eq {payload : List UInt8} {depth : Nat} (h : payload.length ≤ depth)
    (value : Decoder ElementValue) : decodeAllAbove value depth payload = decodeAll payload := by
  have hbelow : AgreeBelow payload.length (decodeWith (decodeAbove value depth)) (decode payload.length) := by
    rw [decode_eq_decodeWith]
    exact agreeBelow_decodeWith (agreeBelow_decodeAbove h (Nat.le_refl _))
  exact (hbelow.counted payload (Nat.lt_succ_self _)).1

/-! ## Types of annotations -/

/-- The types of the annotations at the front of a payload. -/
def decodeTypes : Decoder (List UInt16) :=
  List.map type <$> decodeAll

/-- The types, where values at the given depth are read by `value`. -/
def decodeTypesAbove (value : Decoder ElementValue) (depth : Nat) : Decoder (List UInt16) :=
  List.map type <$> decodeAllAbove value depth

/-- The annotations of a class are the texts that the types in a payload stand for. -/
theorem annotationsNamed_eq (c : ClassFile) (name : String) :
    c.annotationsNamed name = match c.attributeNamed? name with
      | none => .ok []
      | some a => parse decodeTypes a.info >>= fun types => types.mapM c.pool.utf8 := by
  rw [ClassFile.annotationsNamed, ClassFile.attributePosition?, bind_attributePosition?, ← ClassFile.attributeNamed?]
  cases c.attributeNamed? name with
  | none => rfl
  | some a =>
    dsimp only
    rw [decodeTypes, parse_map]
    cases parse decodeAll a.info with
    | error e => rfl
    | ok entries => exact (List.mapM_map (f := type) (g := c.pool.utf8)).symm

/-- **Payloads are read exactly.** In front of any bytes, the bytes of annotations are read as the types of these
annotations, in order, and the bytes behind them are left. Whatever is taken for annotations is the bytes of some. The
calls for nested values end on every payload: none of them is as deep as the payload is long, so that it does not matter
what is done there. A class answers with the texts of the types that are read from its attribute. -/
theorem decodeTypes_exact :
    (∀ (entries : List AnnotationEntry) (rest : List UInt8), EncodableList entries →
      decodeTypes (listToBytes entries ++ rest) = .ok (entries.map type, rest)) ∧
    (∀ (payload rest : List UInt8) (types : List UInt16), decodeTypes payload = .ok (types, rest) →
      ∃ entries, EncodableList entries ∧ types = entries.map type ∧ payload = listToBytes entries ++ rest) ∧
    (∀ (payload : List UInt8) (value : Decoder ElementValue) (depth : Nat), payload.length ≤ depth →
      decodeTypesAbove value depth payload = decodeTypes payload) ∧
    ∀ (c : ClassFile) (name : String), c.annotationsNamed name = match c.attributeNamed? name with
      | none => .ok []
      | some a => parse decodeTypes a.info >>= fun types => types.mapM c.pool.utf8 := by
  refine ⟨fun entries rest h => ?_, fun payload rest types h => ?_, fun payload value depth h => ?_, annotationsNamed_eq⟩
  · exact map_eq_ok.mpr ⟨entries, decodeAll_eq_ok_iff.mpr ⟨h, rfl⟩, rfl⟩
  · obtain ⟨entries, hentries, rfl⟩ := map_eq_ok.mp h
    obtain ⟨hencodable, hpayload⟩ := decodeAll_eq_ok_iff.mp hentries
    exact ⟨entries, hencodable, rfl, hpayload⟩
  · rw [decodeTypesAbove, decodeTypes, map_apply, map_apply, decodeAllAbove_eq h]

/-- An annotation with one element, whose value is an array of a number, an enum constant and an annotation. -/
def layered : AnnotationEntry :=
  ⟨5, [(6, .array [.constant (tagOf 'I') 7, .enum 8 9, .nested 10 [(11, .constant (tagOf 's') 12)]])]⟩

theorem encodable_layered : EncodableList [layered] := by
  refine ⟨by decide, List.forall_mem_singleton.mpr ⟨by decide, List.forall_mem_singleton.mpr ?_⟩⟩
  refine .array (by decide) ?_
  rw [List.forall_mem_cons, List.forall_mem_cons, List.forall_mem_singleton]
  exact ⟨.constant (by decide), .enum, .nested (by decide) (List.forall_mem_singleton.mpr (.constant (by decide)))⟩

/-- The payload with that annotation, in front of two bytes that belong to something else. -/
theorem decodeTypes_exact_layered :
    (EncodableList [layered] ∧
      decodeTypes (listToBytes [layered] ++ [0xCA, 0xFE]) = .ok ([5], [0xCA, 0xFE])) ∧
    ((listToBytes [layered]).length ≤ 35 ∧
      decodeTypesAbove stop 35 (listToBytes [layered]) = decodeTypes (listToBytes [layered])) ∧
    ∃ entries, EncodableList entries ∧ [5] = entries.map type ∧
      listToBytes [layered] ++ [0xCA, 0xFE] = listToBytes entries ++ [0xCA, 0xFE] := by
  have hread := decodeTypes_exact.1 [layered] [0xCA, 0xFE] encodable_layered
  have hdepth : (listToBytes [layered]).length ≤ 35 := by decide
  exact ⟨⟨encodable_layered, hread⟩, ⟨hdepth, decodeTypes_exact.2.2.1 _ stop 35 hdepth⟩,
    decodeTypes_exact.2.1 _ _ _ hread⟩

end AnnotationEntry

end ClassWeaver
