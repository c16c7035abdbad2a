import ClassWeaver.CommandLine.Libraries
import ClassWeaver.Proofs.Json.Tokens

/-!
# Documents that are read back

Whatever is read is well formed. A document that is well formed is read from its printed form as what it was, as far as its
numbers are that are no integers. The proof follows the printed text from the front: what is read of a value stops where the
value's own text ends, and the fuel lasts because every character has paid for a step.

## Contents

* `FormsValues`, `formed_of_value?`, `formed_of_parse?` — what is read is well formed.
* `IsRead`, `isRead` — a value is read from its text.
* `parse?_pretty`, `lawful_standardDocuments` — a document is read back.
-/

namespace ClassWeaver.Json

variable {depth fuel : Nat} {cs rest : List Char} {v : Json} {values : List Json} {fields : List (String × Json)}

/-! ## What is read -/

theorem word?_eq_some {word : String} {value : Json} (h : word? word value cs = some (v, rest)) : v = value := by
  unfold word? at h
  split at h
  · cases h
    rfl
  · cases h

/-- Number, word or text: what has no parts is well formed. -/
theorem formed_of_number? (h : number? cs = some (v, rest)) : Formed depth v := by
  obtain ⟨n, rfl, hn⟩ | ⟨d, rfl⟩ := isNumber_of_number? h
  · exact hn
  · trivial

/-- Values that are read with some fuel are well formed. -/
def FormsValues (fuel : Nat) : Prop :=
  ∀ depth cs v rest, value? depth fuel cs = some (v, rest) → Formed depth v

/-- Arrays are, behind values that are well formed. -/
def FormsArrays (fuel : Nat) : Prop :=
  ∀ depth read cs v rest, FormedAll depth read → values? depth read fuel cs = some (v, rest) → Formed (depth + 1) v

/-- Objects are, behind fields that are in order and well formed. -/
def FormsObjects (fuel : Nat) : Prop :=
  ∀ depth read cs v rest, InOrder read → FormedFields depth read → fields? depth read fuel cs = some (v, rest) →
    Formed (depth + 1) v

theorem FormsValues.succ (harrays : FormsArrays fuel) (hobjects : FormsObjects fuel) : FormsValues (fuel + 1) := by
  intro depth cs v rest h
  unfold value? at h
  split at h
  · cases h
  rename_i c more _
  split at h
  · obtain ⟨⟨text, after⟩, -, heq⟩ := Option.map_eq_some_iff.mp h
    cases heq
    trivial
  split at h
  · split at h
    · cases h
    rename_i hdepth
    have hpositive := Nat.pos_of_ne_zero hdepth
    split at h
    · cases h
      exact ⟨hpositive, trivial⟩
    · have hformed := harrays (depth - 1) [] _ v rest trivial h
      rwa [Nat.sub_add_cancel hpositive] at hformed
  split at h
  · split at h
    · cases h
    rename_i hdepth
    have hpositive := Nat.pos_of_ne_zero hdepth
    split at h
    · cases h
      exact ⟨hpositive, List.Pairwise.nil, trivial⟩
    · have hformed := hobjects (depth - 1) [] _ v rest List.Pairwise.nil trivial h
      rwa [Nat.sub_add_cancel hpositive] at hformed
  split at h
  · rw [word?_eq_some h]
    trivial
  split at h
  · rw [word?_eq_some h]
    trivial
  split at h
  · rw [word?_eq_some h]
    trivial
  · exact formed_of_number? h

theorem FormsArrays.succ (hvalues : FormsValues fuel) (harrays : FormsArrays fuel) : FormsArrays (fuel + 1) := by
  intro depth read cs v rest hread h
  unfold values? at h
  split at h
  · cases h
  rename_i w after hw
  have hformed : FormedAll depth (w :: read) := ⟨hvalues depth cs w after hw, hread⟩
  split at h
  · exact harrays depth (w :: read) _ v rest hformed h
  · cases h
    refine ⟨Nat.succ_pos depth, formedAll_iff.mpr fun u hu => ?_⟩
    exact formedAll_iff.mp hformed u (List.mem_reverse.mp hu)
  · cases h

theorem FormsObjects.succ (hvalues : FormsValues fuel) (hobjects : FormsObjects fuel) : FormsObjects (fuel + 1) := by
  intro depth read cs v rest horder hread h
  unfold fields? at h
  split at h
  · split at h
    · cases h
    rename_i key after _
    split at h
    · split at h
      · cases h
      rename_i w behind hw
      have hformed : FormedFields depth (insertField key w read) :=
        formedFields_insertField (hvalues depth _ w behind hw) hread
      split at h
      · exact hobjects depth _ _ v rest horder.insertField hformed h
      · cases h
        exact ⟨Nat.succ_pos depth, horder.insertField, hformed⟩
      · cases h
    · cases h
  · cases h

/-- **What is read is well formed**, values, arrays and objects alike. -/
theorem formed_of_value? (fuel : Nat) : FormsValues fuel ∧ FormsArrays fuel ∧ FormsObjects fuel := by
  induction fuel with
  | zero => exact ⟨nofun, nofun, nofun⟩
  | succ fuel ih =>
    obtain ⟨hvalues, harrays, hobjects⟩ := ih
    exact ⟨.succ harrays hobjects, .succ hvalues harrays, .succ hvalues hobjects⟩

/-- **A document that was read is well formed.** -/
theorem formed_of_parse? {text : String} (h : parse? text = some v) : Formed maxDepth v := by
  unfold parse? at h
  dsimp only at h
  split at h
  · rename_i w rest hw
    split at h
    · cases h
      exact (formed_of_value? _).1 _ _ _ _ hw
    · cases h
  · cases h

/-! ## Blanks -/

theorem skipSpace_append {spaces : List Char} (h : ∀ c ∈ spaces, isSpace c = true) (cs : List Char) :
    skipSpace (spaces ++ cs) = skipSpace cs :=
  List.dropWhile_append_of_pos h

theorem skipSpace_of_head {c : Char} (h : isSpace c = false) : skipSpace (c :: cs) = c :: cs := by
  unfold skipSpace
  rw [List.dropWhile_cons_of_neg (by simp [h])]

/-- What closes a block stands on a line of its own. -/
theorem skipSpace_closing {closing : List Char} {c : Char} (h : ∀ c ∈ closing, isSpace c = true) (hc : isSpace c = false) :
    skipSpace ('\n' :: (closing ++ c :: rest)) = c :: rest := by
  have hspaces : ∀ c ∈ '\n' :: closing, isSpace c = true := List.forall_mem_cons.mpr ⟨rfl, h⟩
  exact (skipSpace_append hspaces (c :: rest)).trans (skipSpace_of_head hc)

theorem value?_space {spaces : List Char} (h : ∀ c ∈ spaces, isSpace c = true) (cs : List Char) :
    value? depth fuel (spaces ++ cs) = value? depth fuel cs := by
  cases fuel with
  | zero => rfl
  | succ fuel =>
    unfold value?
    rw [skipSpace_append h]

theorem values?_space {read : List Json} {spaces : List Char} (h : ∀ c ∈ spaces, isSpace c = true) (cs : List Char) :
    values? depth read fuel (spaces ++ cs) = values? depth read fuel cs := by
  cases fuel with
  | zero => rfl
  | succ fuel =>
    unfold values?
    rw [value?_space h]

theorem fields?_space {read : List (String × Json)} {spaces : List Char} (h : ∀ c ∈ spaces, isSpace c = true)
    (cs : List Char) : fields? depth read fuel (spaces ++ cs) = fields? depth read fuel cs := by
  cases fuel with
  | zero => rfl
  | succ fuel =>
    unfold fields?
    rw [skipSpace_append h]

/-! ## Values without parts -/

theorem value?_string {s : String} (h : (quote s).toList.length ≤ fuel) :
    value? depth (fuel + 1) ((quote s).toList ++ rest) = some (string s, rest) := by
  obtain ⟨front, hquote, hread⟩ : ∃ front, (quote s).toList = '"' :: front ∧ text? [] fuel (front ++ rest) = some (s, rest) :=
    text?_quote h
  rw [hquote, List.cons_append, value?, skipSpace_of_head (by decide)]
  dsimp only
  rw [if_pos (beq_self_eq_true _), hread]
  rfl

/-- Numbers begin in their own way. -/
theorem ne_of_number? {c d : Char} {found : Json × List Char} (h : number? (c :: cs) = some found) (hminus : d ≠ '-')
    (hdigit : d.isDigit = false) : c ≠ d := by
  obtain ⟨c, more, heq, hc⟩ := exists_head_of_number? h
  cases heq
  rintro rfl
  rcases hc with rfl | hc
  · exact hminus rfl
  · rw [hdigit] at hc
    cases hc

theorem isSpace_of_number? {c : Char} {found : Json × List Char} (h : number? (c :: cs) = some found) :
    isSpace c = false := by
  unfold isSpace
  simp only [Bool.or_eq_false_iff, beq_eq_false_iff_ne]
  exact ⟨⟨⟨ne_of_number? h (by decide) rfl, ne_of_number? h (by decide) rfl⟩, ne_of_number? h (by decide) rfl⟩,
    ne_of_number? h (by decide) rfl⟩

/-- A text that is read as a number is read as a value. -/
theorem value?_number (h : number? cs = some (v, [])) (hrest : Stops rest) :
    value? depth (fuel + 1) (cs ++ rest) = some (v, rest) := by
  have hread := number?_append hrest cs
  rw [h] at hread
  obtain ⟨c, more, rfl, -⟩ := exists_head_of_number? h
  have hother {d : Char} (hminus : d ≠ '-') (hdigit : d.isDigit = false) : ¬(c == d) = true := by
    simpa using ne_of_number? h hminus hdigit
  rw [List.cons_append, value?, skipSpace_of_head (isSpace_of_number? h)]
  dsimp only
  rw [if_neg (hother (by decide) rfl), if_neg (hother (by decide) rfl), if_neg (hother (by decide) rfl),
    if_neg (hother (by decide) rfl), if_neg (hother (by decide) rfl), if_neg (hother (by decide) rfl)]
  exact hread

/-! ## Blocks -/

/-- What stands in front of each item of a block. -/
def gap (indent : String) : List Char :=
  '\n' :: (indent.toList ++ [' ', ' '])

/-- Whether a text is made of blanks. -/
def AllSpace (indent : String) : Prop :=
  ∀ c ∈ indent.toList, isSpace c = true

theorem AllSpace.deeper {indent : String} (h : AllSpace indent) : AllSpace (indent ++ "  ") := by
  unfold AllSpace
  rw [String.toList_append, List.forall_mem_append]
  exact ⟨h, by simp [isSpace]⟩

theorem AllSpace.gap {indent : String} (h : AllSpace indent) : ∀ c ∈ gap indent, isSpace c = true := by
  unfold Json.gap
  rw [List.forall_mem_cons, List.forall_mem_append]
  exact ⟨rfl, h, by simp [isSpace]⟩

/-- The items of a block, with commas and blanks between them. -/
def listed (indent : String) (items : List String) : String :=
  ("," ++ ("\n" ++ indent ++ "  ")).intercalate items

theorem toList_listed_cons (indent item next : String) (items : List String) : (listed indent (item :: next :: items)).toList =
    item.toList ++ ',' :: (gap indent ++ (listed indent (next :: items)).toList) := by
  unfold listed gap
  rw [String.intercalate_cons_cons]
  simp

theorem listed_singleton (indent item : String) : listed indent [item] = item :=
  String.intercalate_singleton

theorem toList_block {indent opening closing : String} {items : List String} (h : items ≠ []) :
    (block indent opening closing items).toList =
      opening.toList ++ (gap indent ++ ((listed indent items).toList ++ '\n' :: (indent.toList ++ closing.toList))) := by
  unfold block listed gap
  rw [if_neg (by simpa using h)]
  simp

/-! ## Printed values -/

theorem value?_array_nil (h : 0 < depth) : value? depth (fuel + 1) ('[' :: ']' :: rest) = some (array [], rest) := by
  rw [value?, skipSpace_of_head rfl]
  dsimp only
  rw [if_neg (by decide), if_pos (beq_self_eq_true _), if_neg (Nat.pos_iff_ne_zero.mp h), skipSpace_of_head rfl]
  rfl

theorem value?_object_nil (h : 0 < depth) :
    value? depth (fuel + 1) ('\x7b' :: '\x7d' :: rest) = some (object [], rest) := by
  rw [value?, skipSpace_of_head rfl]
  dsimp only
  rw [if_neg (by decide), if_neg (by decide), if_pos (beq_self_eq_true _), if_neg (Nat.pos_iff_ne_zero.mp h),
    skipSpace_of_head rfl]
  rfl

/-- Behind a bracket the values begin, unless the bracket is closed at once. -/
theorem value?_array {spaces : List Char} {c : Char} (hdepth : 0 < depth) (hspaces : ∀ c ∈ spaces, isSpace c = true)
    (hc : isSpace c = false) (hclosing : c ≠ ']') :
    value? depth (fuel + 1) ('[' :: (spaces ++ c :: cs)) = values? (depth - 1) [] fuel (c :: cs) := by
  rw [value?, skipSpace_of_head rfl]
  dsimp only
  rw [if_neg (by decide), if_pos (beq_self_eq_true _), if_neg (Nat.pos_iff_ne_zero.mp hdepth), skipSpace_append hspaces,
    skipSpace_of_head hc]
  split
  · rename_i heq
    exact absurd (List.cons.inj heq).1 hclosing
  · rfl

/-- Behind a brace the fields begin, unless the brace is closed at once. -/
theorem value?_object {spaces : List Char} {c : Char} (hdepth : 0 < depth) (hspaces : ∀ c ∈ spaces, isSpace c = true)
    (hc : isSpace c = false) (hclosing : c ≠ '\x7d') :
    value? depth (fuel + 1) ('\x7b' :: (spaces ++ c :: cs)) = fields? (depth - 1) [] fuel (c :: cs) := by
  rw [value?, skipSpace_of_head rfl]
  dsimp only
  rw [if_neg (by decide), if_neg (by decide), if_pos (beq_self_eq_true _), if_neg (Nat.pos_iff_ne_zero.mp hdepth),
    skipSpace_append hspaces, skipSpace_of_head hc]
  split
  · rename_i heq
    exact absurd (List.cons.inj heq).1 hclosing
  · rfl

theorem toList_block_nil (indent opening closing : String) :
    (block indent opening closing []).toList = opening.toList ++ closing.toList :=
  String.toList_append

theorem exists_toList_block (indent opening closing : String) (items : List String) :
    ∃ more, (block indent opening closing items).toList = opening.toList ++ more := by
  cases items with
  | nil => exact ⟨_, toList_block_nil indent opening closing⟩
  | cons item items => exact ⟨_, toList_block (List.cons_ne_nil item items)⟩

/-- The text of an array that holds something. -/
theorem toList_pretty_array (indent : String) (v : Json) (values : List Json) : (pretty indent (array (v :: values))).toList =
    '[' :: (gap indent ++ ((listed indent (prettyAll (indent ++ "  ") (v :: values))).toList ++
      '\n' :: (indent.toList ++ [']']))) := by
  unfold pretty
  rw [toList_block (by unfold prettyAll; exact List.cons_ne_nil _ _)]
  rfl

/-- The text of an object that holds something. -/
theorem toList_pretty_object (indent : String) (entry : String × Json) (fields : List (String × Json)) :
    (pretty indent (object (entry :: fields))).toList =
      '\x7b' :: (gap indent ++ ((listed indent (prettyFields (indent ++ "  ") (entry :: fields))).toList ++
        '\n' :: (indent.toList ++ ['\x7d']))) := by
  unfold pretty
  rw [toList_block (by unfold prettyFields; exact List.cons_ne_nil _ _)]
  rfl

theorem toList_pretty_null (indent : String) : (pretty indent null).toList = ['n', 'u', 'l', 'l'] := by
  unfold pretty
  rfl

theorem toList_pretty_true (indent : String) : (pretty indent (bool true)).toList = ['t', 'r', 'u', 'e'] := by
  unfold pretty
  rfl

theorem toList_pretty_false (indent : String) : (pretty indent (bool false)).toList = ['f', 'a', 'l', 's', 'e'] := by
  unfold pretty
  rfl

/-- The text of a value begins with no blank, and with nothing that closes an array. -/
theorem exists_head_pretty {indent : String} (h : Formed depth v) (hv : ∀ d ∈ decimals v, d.ReadsBack) :
    ∃ c more, (pretty indent v).toList = c :: more ∧ isSpace c = false ∧ c ≠ ']' := by
  have hnumber {text : String} {found : Json × List Char} (hread : number? text.toList = some found) :
      ∃ c more, text.toList = c :: more ∧ isSpace c = false ∧ c ≠ ']' := by
    obtain ⟨c, more, htext, -⟩ := exists_head_of_number? hread
    rw [htext] at hread
    exact ⟨c, more, htext, isSpace_of_number? hread, ne_of_number? hread (by decide) rfl⟩
  cases v with
  | null => exact ⟨'n', _, toList_pretty_null indent, rfl, by decide⟩
  | bool value =>
    cases value with
    | true => exact ⟨'t', _, toList_pretty_true indent, rfl, by decide⟩
    | false => exact ⟨'f', _, toList_pretty_false indent, rfl, by decide⟩
  | integer n => exact hnumber (number?_integer h)
  | decimal d => exact hnumber (hv d (List.mem_singleton_self d))
  | string s => exact ⟨'"', _, String.toList_ofList, rfl, by decide⟩
  | array values =>
    obtain ⟨more, hmore⟩ := exists_toList_block indent "[" "]" (prettyAll (indent ++ "  ") values)
    exact ⟨'[', more, hmore, rfl, by decide⟩
  | object fields =>
    obtain ⟨more, hmore⟩ := exists_toList_block indent "\x7b" "\x7d" (prettyFields (indent ++ "  ") fields)
    exact ⟨'\x7b', more, hmore, rfl, by decide⟩

/-- Behind a value, a comma leads on to the next one. -/
theorem values?_comma {read : List Json} {behind more : List Char} (h : value? depth fuel cs = some (v, behind))
    (hbehind : skipSpace behind = ',' :: more) :
    values? depth read (fuel + 1) cs = values? depth (v :: read) fuel more := by
  rw [values?, h]
  dsimp only
  rw [hbehind]
  rfl

theorem values?_closing {read : List Json} {behind more : List Char} (h : value? depth fuel cs = some (v, behind))
    (hbehind : skipSpace behind = ']' :: more) :
    values? depth read (fuel + 1) cs = some (array (read.reverse ++ [v]), more) := by
  rw [values?, h]
  dsimp only
  rw [hbehind, ← List.reverse_cons]
  rfl

/-- Behind a field, a comma leads on to the next one. -/
theorem fields?_comma {read : List (String × Json)} {key : String} {behind more : List Char}
    (hkey : (quote key).toList.length ≤ fuel) (h : value? depth fuel cs = some (v, behind))
    (hbehind : skipSpace behind = ',' :: more) :
    fields? depth read (fuel + 1) ((quote key).toList ++ ':' :: ' ' :: cs) = fields? depth (insertField key v read) fuel more := by
  obtain ⟨front, hquote, hread⟩ : ∃ front, (quote key).toList = '"' :: front ∧
      text? [] fuel (front ++ ':' :: ' ' :: cs) = some (key, ':' :: ' ' :: cs) :=
    text?_quote hkey
  have hvalue : value? depth fuel (' ' :: cs) = some (v, behind) := by
    rw [← h]
    exact value?_space (List.forall_mem_singleton.mpr rfl) cs
  rw [hquote, List.cons_append, fields?, skipSpace_of_head rfl]
  simp only [hread, skipSpace_of_head (show isSpace ':' = false from rfl), hvalue, hbehind]

theorem fields?_closing {read : List (String × Json)} {key : String} {behind more : List Char}
    (hkey : (quote key).toList.length ≤ fuel) (h : value? depth fuel cs = some (v, behind))
    (hbehind : skipSpace behind = '\x7d' :: more) :
    fields? depth read (fuel + 1) ((quote key).toList ++ ':' :: ' ' :: cs) = some (object (insertField key v read), more) := by
  obtain ⟨front, hquote, hread⟩ : ∃ front, (quote key).toList = '"' :: front ∧
      text? [] fuel (front ++ ':' :: ' ' :: cs) = some (key, ':' :: ' ' :: cs) :=
    text?_quote hkey
  have hvalue : value? depth fuel (' ' :: cs) = some (v, behind) := by
    rw [← h]
    exact value?_space (List.forall_mem_singleton.mpr rfl) cs
  rw [hquote, List.cons_append, fields?, skipSpace_of_head rfl]
  simp only [hread, skipSpace_of_head (show isSpace ':' = false from rfl), hvalue, hbehind]

/-- A field that is in order behind others is put there. -/
theorem insertField_of_inOrder {read more : List (String × Json)} {key : String} (h : InOrder (read ++ (key, v) :: more)) :
    insertField key v read = read ++ [(key, v)] :=
  insertField_eq_append fun entry hentry => (List.pairwise_append.mp h).2.2 entry hentry (key, v) List.mem_cons_self

/-- The text of a block's items begins where that of its first item does. -/
theorem exists_head_listed {indent item : String} {items : List String} {c : Char} {more : List Char}
    (h : item.toList = c :: more) : ∃ more, (listed indent (item :: items)).toList = c :: more := by
  cases items with
  | nil => exact ⟨more, by rw [listed_singleton, h]⟩
  | cons next items => exact ⟨_, by rw [toList_listed_cons, h, List.cons_append]⟩

/-- The text of a field is its key, a colon and its value. -/
theorem toList_prettyField (indent key : String) (v : Json) : (quote key ++ ": " ++ pretty indent v).toList =
    (quote key).toList ++ ':' :: ' ' :: (pretty indent v).toList := by
  rw [String.toList_append, String.toList_append, List.append_assoc]
  rfl

/-- The fields of an object begin with a quote. -/
theorem exists_head_listed_fields (indent : String) (entry : String × Json) (fields : List (String × Json)) :
    ∃ more, (listed indent (prettyFields (indent ++ "  ") (entry :: fields))).toList = '"' :: more := by
  obtain ⟨key, v⟩ := entry
  have hfirst : ∃ more, (quote key ++ ": " ++ pretty (indent ++ "  ") v).toList = '"' :: more := by
    rw [toList_prettyField]
    unfold quote
    rw [String.toList_ofList]
    exact ⟨_, rfl⟩
  obtain ⟨more, hmore⟩ := hfirst
  exact exists_head_listed hmore

/-- A value is read from its text, wherever it stands, and what stands behind it is left over. -/
def IsRead (v : Json) : Prop :=
  ∀ ⦃depth fuel : Nat⦄ ⦃indent : String⦄ ⦃rest : List Char⦄, Formed depth v → (∀ d ∈ decimals v, d.ReadsBack) →
    AllSpace indent → (pretty indent v).toList.length ≤ fuel → Stops rest →
      value? depth (fuel + 1) ((pretty indent v).toList ++ rest) = some (v, rest)

/-- The fuel for a block is enough for its items. -/
theorem fuel_of_block {indent : String} {opening closing : Char} {items : List Char}
    (h : (opening :: (gap indent ++ (items ++ '\n' :: (indent.toList ++ [closing])))).length ≤ fuel) :
    ∃ k, fuel = k + 2 ∧ items.length ≤ k := by
  rw [List.length_cons, List.length_append, List.length_append, List.length_cons] at h
  exact ⟨fuel - 2, by omega, by omega⟩

/-- The fuel for some items is enough for the first one, and enough is left for the others. -/
theorem fuel_of_listed {indent item next : String} {items : List String}
    (h : (listed indent (item :: next :: items)).toList.length ≤ fuel) :
    item.toList.length ≤ fuel ∧ ∃ k, fuel = k + 1 ∧ (listed indent (next :: items)).toList.length ≤ k := by
  rw [toList_listed_cons, List.length_append, List.length_cons, List.length_append] at h
  exact ⟨by omega, fuel - 1, by omega, by omega⟩

/-- The text of a field is longer than its key and than its value. -/
theorem length_of_prettyField {indent key : String}
    (h : (quote key ++ ": " ++ pretty indent v).toList.length ≤ fuel) :
    (quote key).toList.length ≤ fuel + 1 ∧ (pretty indent v).toList.length ≤ fuel := by
  rw [toList_prettyField, List.length_append, List.length_cons, List.length_cons] at h
  exact ⟨by omega, by omega⟩

/-- The values of an array are read one by one. -/
theorem values?_pretty {indent : String} {closing : List Char} (hread : ∀ v ∈ values, IsRead v) (hne : values ≠ [])
    (h : FormedAll depth values) (hv : ∀ d ∈ decimalsAll values, d.ReadsBack) (hindent : AllSpace indent)
    (hclosing : ∀ c ∈ closing, isSpace c = true) (read : List Json)
    (hfuel : (listed indent (prettyAll (indent ++ "  ") values)).toList.length ≤ fuel) :
    values? depth read (fuel + 2)
        ((listed indent (prettyAll (indent ++ "  ") values)).toList ++ '\n' :: (closing ++ ']' :: rest)) =
      some (array (read.reverse ++ values), rest) := by
  induction values generalizing fuel read with
  | nil => exact absurd rfl hne
  | cons v values ih =>
    obtain ⟨hreadFirst, hreadOthers⟩ := List.forall_mem_cons.mp hread
    obtain ⟨hfirst, hothers⟩ := h
    unfold prettyAll at hfuel ⊢
    have hdecimals : ∀ d ∈ decimals v, d.ReadsBack := fun d hd => hv d (List.mem_append_left _ hd)
    cases values with
    | nil =>
      have hlisted : listed indent (pretty (indent ++ "  ") v :: prettyAll (indent ++ "  ") []) = pretty (indent ++ "  ") v :=
        listed_singleton indent _
      rw [hlisted] at hfuel ⊢
      exact values?_closing (hreadFirst hfirst hdecimals hindent.deeper hfuel (.cons rfl)) (skipSpace_closing hclosing rfl)
    | cons w values =>
      obtain ⟨hfuelFirst, k, rfl, hfuelOthers⟩ := fuel_of_listed hfuel
      have hbehind := ih hreadOthers (List.cons_ne_nil w values) hothers (fun d hd => hv d (List.mem_append_right _ hd))
        (v :: read) hfuelOthers
      have hlisted : (listed indent (pretty (indent ++ "  ") v :: prettyAll (indent ++ "  ") (w :: values))).toList = _ :=
        toList_listed_cons indent _ _ _
      rw [hlisted, List.append_assoc, List.cons_append, List.append_assoc,
        values?_comma (hreadFirst hfirst hdecimals hindent.deeper hfuelFirst (.cons rfl)) (skipSpace_of_head rfl),
        values?_space hindent.gap]
      unfold prettyAll at hbehind
      rw [hbehind, List.reverse_cons, List.append_assoc]
      rfl

/-- The fields of an object are read one by one. -/
theorem fields?_pretty {indent : String} {closing : List Char} (hread : ∀ entry ∈ fields, IsRead entry.2) (hne : fields ≠ [])
    (h : FormedFields depth fields) (hv : ∀ d ∈ decimalsFields fields, d.ReadsBack) (hindent : AllSpace indent)
    (hclosing : ∀ c ∈ closing, isSpace c = true) (read : List (String × Json)) (horder : InOrder (read ++ fields))
    (hfuel : (listed indent (prettyFields (indent ++ "  ") fields)).toList.length ≤ fuel) :
    fields? depth read (fuel + 2)
        ((listed indent (prettyFields (indent ++ "  ") fields)).toList ++ '\n' :: (closing ++ '\x7d' :: rest)) =
      some (object (read ++ fields), rest) := by
  induction fields generalizing fuel read with
  | nil => exact absurd rfl hne
  | cons entry fields ih =>
    obtain ⟨key, v⟩ := entry
    obtain ⟨hreadFirst, hreadOthers⟩ := List.forall_mem_cons.mp hread
    obtain ⟨hfirst, hothers⟩ := h
    unfold prettyFields at hfuel ⊢
    have hdecimals : ∀ d ∈ decimals v, d.ReadsBack := fun d hd => hv d (List.mem_append_left _ hd)
    cases fields with
    | nil =>
      have hlisted : listed indent ((quote key ++ ": " ++ pretty (indent ++ "  ") v) :: prettyFields (indent ++ "  ") []) =
          quote key ++ ": " ++ pretty (indent ++ "  ") v :=
        listed_singleton indent _
      rw [hlisted] at hfuel ⊢
      obtain ⟨hkey, hvalue⟩ := length_of_prettyField hfuel
      rw [toList_prettyField, List.append_assoc, List.cons_append, List.cons_append,
        fields?_closing hkey (hreadFirst hfirst hdecimals hindent.deeper hvalue (.cons rfl)) (skipSpace_closing hclosing rfl),
        insertField_of_inOrder horder]
    | cons next fields =>
      obtain ⟨hfuelFirst, k, rfl, hfuelOthers⟩ := fuel_of_listed hfuel
      obtain ⟨hkey, hvalue⟩ := length_of_prettyField hfuelFirst
      have horder' : InOrder (read ++ [(key, v)] ++ next :: fields) := by
        rw [List.append_assoc]
        exact horder
      have hbehind := ih hreadOthers (List.cons_ne_nil next fields) hothers (fun d hd => hv d (List.mem_append_right _ hd))
        (read ++ [(key, v)]) horder' hfuelOthers
      have hlisted : (listed indent ((quote key ++ ": " ++ pretty (indent ++ "  ") v) ::
          prettyFields (indent ++ "  ") (next :: fields))).toList = _ :=
        toList_listed_cons indent _ _ _
      rw [hlisted, toList_prettyField, List.append_assoc, List.append_assoc, List.cons_append, List.cons_append,
        List.cons_append, List.append_assoc,
        fields?_comma hkey (hreadFirst hfirst hdecimals hindent.deeper hvalue (.cons rfl)) (skipSpace_of_head rfl),
        fields?_space hindent.gap, insertField_of_inOrder horder]
      unfold prettyFields at hbehind
      rw [hbehind, List.append_assoc]
      rfl

/-- An array is read if its values are. -/
theorem isRead_array (hread : ∀ v ∈ values, IsRead v) : IsRead (array values) := by
  intro depth fuel indent rest h hv hindent hfuel _
  cases values with
  | nil =>
    have htext : (pretty indent (array [])).toList = ['[', ']'] := toList_block_nil indent "[" "]"
    rw [htext]
    exact value?_array_nil h.1
  | cons v values =>
    obtain ⟨hdepth, hvalues⟩ := h
    rw [toList_pretty_array] at hfuel ⊢
    obtain ⟨k, rfl, hk⟩ := fuel_of_block hfuel
    have hitems : values? (depth - 1) [] (k + 2) ((listed indent (prettyAll (indent ++ "  ") (v :: values))).toList ++
        '\n' :: (indent.toList ++ ']' :: rest)) = some (array (v :: values), rest) :=
      values?_pretty hread (List.cons_ne_nil _ _) hvalues hv hindent hindent [] hk
    -- the first value shows that the bracket is not closed at once
    obtain ⟨c, more, hfirst, hspace, hclosing⟩ : ∃ c more, (pretty (indent ++ "  ") v).toList = c :: more ∧
        isSpace c = false ∧ c ≠ ']' :=
      exists_head_pretty hvalues.1 fun d hd => hv d (List.mem_append_left _ hd)
    obtain ⟨more, hlisted⟩ : ∃ more, (listed indent (prettyAll (indent ++ "  ") (v :: values))).toList = c :: more :=
      exists_head_listed hfirst
    rw [hlisted] at hitems ⊢
    simp only [List.cons_append, List.append_assoc, List.nil_append] at hitems ⊢
    rw [value?_array hdepth hindent.gap hspace hclosing]
    exact hitems

/-- An object is read if the values of its fields are. -/
theorem isRead_object (hread : ∀ entry ∈ fields, IsRead entry.2) : IsRead (object fields) := by
  intro depth fuel indent rest h hv hindent hfuel _
  cases fields with
  | nil =>
    have htext : (pretty indent (object [])).toList = ['\x7b', '\x7d'] := toList_block_nil indent "\x7b" "\x7d"
    rw [htext]
    exact value?_object_nil h.1
  | cons entry fields =>
    obtain ⟨hdepth, horder, hfields⟩ := h
    rw [toList_pretty_object] at hfuel ⊢
    obtain ⟨k, rfl, hk⟩ := fuel_of_block hfuel
    have hitems : fields? (depth - 1) [] (k + 2) ((listed indent (prettyFields (indent ++ "  ") (entry :: fields))).toList ++
        '\n' :: (indent.toList ++ '\x7d' :: rest)) = some (object (entry :: fields), rest) :=
      fields?_pretty hread (List.cons_ne_nil _ _) hfields hv hindent hindent [] horder hk
    obtain ⟨more, hlisted⟩ := exists_head_listed_fields indent entry fields
    rw [hlisted] at hitems ⊢
    simp only [List.cons_append, List.append_assoc, List.nil_append] at hitems ⊢
    rw [value?_object hdepth hindent.gap rfl (by decide)]
    exact hitems

/-- **Every value is read from its text.** -/
theorem isRead (v : Json) : IsRead v := by
  match v with
  | null =>
    intro depth fuel indent rest _ _ _ _ _
    rw [toList_pretty_null]
    rfl
  | bool true =>
    intro depth fuel indent rest _ _ _ _ _
    rw [toList_pretty_true]
    rfl
  | bool false =>
    intro depth fuel indent rest _ _ _ _ _
    rw [toList_pretty_false]
    rfl
  | integer n =>
    intro depth fuel indent rest h _ _ _ hrest
    exact value?_number (number?_integer h) hrest
  | decimal d =>
    intro depth fuel indent rest _ hv _ _ hrest
    exact value?_number (hv d (List.mem_singleton_self d)) hrest
  | string s =>
    intro depth fuel indent rest _ _ _ hfuel _
    exact value?_string hfuel
  | array values => exact isRead_array fun v _ => isRead v
  | object fields => exact isRead_object fun entry hentry => isRead entry.2
termination_by sizeOf v
decreasing_by
  · decreasing_tactic
  · have hsize := List.sizeOf_lt_of_mem hentry
    obtain ⟨key, value⟩ := entry
    simp only [Prod.mk.sizeOf_spec, object.sizeOf_spec] at hsize ⊢
    omega

/-- **A document is read back** if it is well formed, and if all its numbers are that are no integers. -/
theorem parse?_pretty (h : Formed maxDepth v) (hv : ∀ d ∈ decimals v, d.ReadsBack) :
    parse? (pretty "" v ++ "\n") = some v := by
  have hline : "\n".toList = ['\n'] := rfl
  have hread : value? maxDepth (((pretty "" v).toList ++ ['\n']).length + 1) ((pretty "" v).toList ++ ['\n']) =
      some (v, ['\n']) := by
    refine isRead v h hv nofun ?_ (.cons rfl)
    rw [List.length_append]
    exact Nat.le_add_right _ _
  unfold parse?
  dsimp only
  rw [String.toList_append, hline, hread]
  rfl

end ClassWeaver.Json

namespace ClassWeaver

/-- **The way in which the program reads and prints documents** is one to rely upon. -/
instance lawful_standardDocuments : LawfulDocumentSyntax where
  formed := Json.formed_of_parse?
  readsBack h hnone := Json.parse?_pretty h fun _ hd => by
    rw [hnone] at hd
    cases hd

end ClassWeaver
