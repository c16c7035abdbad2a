import ClassWeaver.Identity.MemberDescriptor
import ClassWeaver.Proofs.Identity.Recognition

/-!
# Descriptors are read exactly

A text is read as a type or a method exactly if it is that type's or method's descriptor, where a dot may stand for
a slash. Field types are read off the front of a text, and what is behind them stays untouched; so a row of them can be
told apart without separators, because a descriptor's end shows in the descriptor itself: an array ends with its
element, and a class with the first semicolon, which no name holds.

## Contents

* `slashesToDots_respelled`, `dotsToSlashes_respelled` — exchanging dots and slashes forgets which there were.
* `parseFieldType_eq_ok_iff`, `ofDescriptor_eq_ok_iff` — types.
* `MethodDescriptor.ArgumentTurn` — what the loop that reads arguments does once; `parseArguments_eq_ok_iff` what all
  of its turns do.
* `MethodDescriptor.parse_eq_ok_iff`, `MethodDescriptor.parse_exact` — methods.
-/

namespace ClassWeaver.Identity

/-! ## Dots and slashes -/

section

variable {cs target : List Char}

theorem slashesToDots_eq_self (h : ∀ c ∈ cs, c ≠ '/') : slashesToDots cs = cs := by
  refine (List.map_congr_left fun c hc => ?_).trans (List.map_id cs)
  rw [id, if_neg (by simpa using h c hc)]

/-- Slashes become dots, whether they were dots before or not. -/
theorem slashesToDots_respelled (cs : List Char) : slashesToDots (dotsToSlashes cs) = slashesToDots cs := by
  rw [slashesToDots, dotsToSlashes, List.map_map]
  refine List.map_congr_left fun c _ => ?_
  rw [Function.comp_apply]
  by_cases hdot : c = '.'
  · subst hdot
    rfl
  · rw [if_neg (show ¬(c == '.') = true by simpa using hdot)]

theorem dotsToSlashes_respelled (cs : List Char) : dotsToSlashes (slashesToDots cs) = dotsToSlashes cs := by
  rw [slashesToDots, dotsToSlashes, List.map_map]
  refine List.map_congr_left fun c _ => ?_
  rw [Function.comp_apply]
  by_cases hslash : c = '/'
  · subst hslash
    rfl
  · rw [if_neg (show ¬(c == '/') = true by simpa using hslash)]

theorem slashesToDots_idem (cs : List Char) : slashesToDots (slashesToDots cs) = slashesToDots cs := by
  rw [← slashesToDots_respelled, dotsToSlashes_respelled, slashesToDots_respelled]

theorem dotsToSlashes_idem (cs : List Char) : dotsToSlashes (dotsToSlashes cs) = dotsToSlashes cs := by
  rw [← dotsToSlashes_respelled, slashesToDots_respelled, dotsToSlashes_respelled]

/-- Slashes that were put in for dots go out again, where there were none before. -/
theorem slashesToDots_dotsToSlashes (h : ∀ c ∈ cs, c ≠ '/') : slashesToDots (dotsToSlashes cs) = cs :=
  (slashesToDots_respelled cs).trans (slashesToDots_eq_self h)

theorem dotsToSlashes_append (cs cs' : List Char) : dotsToSlashes (cs ++ cs') = dotsToSlashes cs ++ dotsToSlashes cs' :=
  List.map_append

theorem dotsToSlashes_replicate {x : Char} (hx : x ≠ '.') (n : Nat) :
    dotsToSlashes (List.replicate n x) = List.replicate n x := by
  rw [dotsToSlashes, List.map_replicate, if_neg (by simpa using hx)]

/-- The letter and the semicolon around the name of a class stay. -/
theorem dotsToSlashes_class (cs : List Char) :
    dotsToSlashes ('L' :: (cs ++ [';'])) = 'L' :: (dotsToSlashes cs ++ [';']) :=
  congrArg (List.cons 'L') (dotsToSlashes_append cs [';'])

theorem dotsToSlashes_eq_append {front back : List Char} (h : dotsToSlashes cs = front ++ back) :
    ∃ cs₁ cs₂, cs = cs₁ ++ cs₂ ∧ dotsToSlashes cs₁ = front ∧ dotsToSlashes cs₂ = back :=
  List.map_eq_append_iff.mp h

theorem dotsToSlashes_eq_cons {x : Char} (hx : x ≠ '/') (h : dotsToSlashes cs = x :: target) :
    ∃ rest, cs = x :: rest ∧ dotsToSlashes rest = target := by
  obtain ⟨c, rest, rfl, hc, hrest⟩ := List.map_eq_cons_iff.mp h
  by_cases hdot : c = '.'
  · subst hdot
    exact absurd hc.symm hx
  · rw [if_neg (by simpa using hdot)] at hc
    exact ⟨rest, by rw [hc], hrest⟩

/-- Where no slash came out, no dot went in. -/
theorem eq_of_dotsToSlashes_eq (h : dotsToSlashes cs = target) (htarget : ∀ c ∈ target, c ≠ '/') : cs = target := by
  refine .trans ((List.map_congr_left fun c hc => ?_).trans (List.map_id cs)).symm h
  have hkept : (if c == '.' then '/' else c) ≠ '/' := htarget _ (h ▸ List.mem_map.mpr ⟨c, hc, rfl⟩)
  rw [id]
  refine if_neg fun hdot => hkept (if_pos hdot)

end

namespace TypeDescriptor

/-! ## Field types -/

/-- A descriptor begins with a bracket, a primitive's letter or the letter of classes. -/
theorem exists_cons_descriptorChars (d : TypeDescriptor) : ∃ c cs, d.descriptorChars = c :: cs ∧ c ≠ ')' := by
  rw [descriptorChars]
  cases d.dimensions with
  | zero =>
    cases d.element with
    | primitive p => exact ⟨p.letter, [], rfl, by cases p <;> decide⟩
    | object n => exact ⟨'L', _, rfl, by decide⟩
  | succ n => exact ⟨'[', _, rfl, by decide⟩

theorem takeWhile_replicate_append {x tag : Char} (n : Nat) (htag : tag ≠ x) (inner : List Char) :
    (List.replicate n x ++ tag :: inner).takeWhile (· == x) = List.replicate n x := by
  rw [List.takeWhile_append_of_pos (by simp), List.takeWhile_cons_of_neg (by simpa using htag), List.append_nil]

theorem dropWhile_replicate_append {x tag : Char} (n : Nat) (htag : tag ≠ x) (inner : List Char) :
    (List.replicate n x ++ tag :: inner).dropWhile (· == x) = tag :: inner := by
  rw [List.dropWhile_append_of_pos (by simp), List.dropWhile_cons_of_neg (by simpa using htag)]

/-- The brackets in front of a text, and what is behind them. -/
theorem eq_replicate_append (x : Char) (cs : List Char) :
    cs = List.replicate (cs.takeWhile (· == x)).length x ++ cs.dropWhile (· == x) := by
  have hall : cs.takeWhile (· == x) = List.replicate (cs.takeWhile (· == x)).length x :=
    List.eq_replicate_of_mem fun c hc => beq_iff_eq.mp (List.all_eq_true.mp List.all_takeWhile c hc)
  rw [← hall, List.takeWhile_append_dropWhile]

variable {d : TypeDescriptor} {taken input rest : List Char}

/-- **A descriptor is read off the front of any text**, also one with dots in place of slashes. -/
theorem parseFieldType_append (h : dotsToSlashes taken = d.descriptorChars) (rest : List Char) :
    parseFieldType (taken ++ rest) = .ok (d, rest) := by
  obtain ⟨element, n, hn, hvoid⟩ := d
  rw [descriptorChars] at h
  -- neither brackets nor letters are slashes, so they can only be spelled as they are
  obtain ⟨front, back, rfl, hfront, hback⟩ := dotsToSlashes_eq_append h
  obtain rfl : front = List.replicate n '[' :=
    eq_of_dotsToSlashes_eq hfront fun c hc => by rw [List.eq_of_mem_replicate hc]; decide
  rw [List.append_assoc]
  cases element with
  | primitive p =>
    have hletter : p.letter ≠ '[' ∧ p.letter ≠ '/' ∧ (p.letter == 'L') = false := by cases p <;> decide
    obtain rfl : back = [p.letter] :=
      eq_of_dotsToSlashes_eq hback fun c hc => by rw [List.mem_singleton.mp hc]; exact hletter.2.1
    have hnot : ¬(p = .void ∧ 0 < n) := by
      rintro ⟨rfl, hpos⟩
      exact absurd (hvoid rfl) (Nat.pos_iff_ne_zero.mp hpos)
    rw [parseFieldType]
    simp [takeWhile_replicate_append n hletter.1, dropWhile_replicate_append n hletter.1, hn, hletter.2.2, hnot]
  | object name =>
    have hbracket : 'L' ≠ '[' := by decide
    obtain ⟨inner, rfl, hinner⟩ := dotsToSlashes_eq_cons (by decide) hback
    obtain ⟨body, close, rfl, hbody, hclose⟩ := dotsToSlashes_eq_append hinner
    obtain rfl : close = [';'] := eq_of_dotsToSlashes_eq hclose (List.forall_mem_singleton.mpr (by decide))
    have hslash : ∀ c ∈ name.text.toList, c ≠ '/' := (Element.object name).ne_of_mem_name (by decide)
    have hspelled : slashesToDots body = name.text.toList := by
      rw [← slashesToDots_respelled, hbody, slashesToDots_dotsToSlashes hslash]
    have hname : Element.ofDotted? (slashesToDots body) = some (.object name) := by
      rw [hspelled]
      exact Element.ofDotted?_name (.object name)
    -- the semicolon behind the name is the first one
    have hsemicolon : ∀ c ∈ body, c ≠ ';' := ne_semicolon_of_ofDotted? hname
    rw [parseFieldType]
    simp [takeWhile_replicate_append n hbracket, dropWhile_replicate_append n hbracket, hn,
      takeWhile_ne_of_forall hsemicolon, dropWhile_ne_of_forall hsemicolon, hname]

/-- **What was taken for a descriptor is one**, with dots or slashes in the names. -/
theorem exists_of_parseFieldType (h : parseFieldType input = .ok (d, rest)) :
    ∃ taken, input = taken ++ rest ∧ dotsToSlashes taken = d.descriptorChars := by
  have hinput := eq_replicate_append '[' input
  have hbrackets := dotsToSlashes_replicate (x := '[') (by decide)
  unfold parseFieldType at h
  dsimp only at h
  split at h
  · split at h
    · cases h
    · rename_i tag body htag
      rw [htag] at hinput
      split at h
      · rename_i hclass
        obtain rfl : tag = 'L' := beq_iff_eq.mp hclass
        rcases eq_append_semicolon body with hnone | ⟨pre, after, rfl, hpre⟩
        · rw [dropWhile_ne_eq_nil hnone] at h
          cases h
        · rw [dropWhile_ne_of_forall hpre, takeWhile_ne_of_forall hpre] at h
          dsimp only at h
          split at h
          · rename_i n hn
            cases h
            refine ⟨List.replicate _ '[' ++ 'L' :: (pre ++ [';']), by rw [List.append_assoc]; simpa using hinput, ?_⟩
            have hname : n.text.toList = slashesToDots pre := Element.name_of_ofDotted? hn
            rw [dotsToSlashes_append, hbrackets, dotsToSlashes_class, descriptorChars]
            dsimp only
            rw [hname, dotsToSlashes_respelled]
          · cases h
      · split at h
        · cases h
        · rename_i p hp
          split at h
          · cases h
          · cases h
            refine ⟨List.replicate _ '[' ++ [tag], by rw [List.append_assoc]; exact hinput, ?_⟩
            have hletter : dotsToSlashes [tag] = [p.letter] := by
              rw [← Primitive.letter_of_ofLetter? hp]
              cases p <;> decide
            rw [dotsToSlashes_append, hbrackets, hletter, descriptorChars]
  · cases h

/-- **Field types are read exactly.** -/
theorem parseFieldType_eq_ok_iff : parseFieldType input = .ok (d, rest) ↔
    ∃ taken, input = taken ++ rest ∧ dotsToSlashes taken = d.descriptorChars := by
  refine ⟨exists_of_parseFieldType, ?_⟩
  rintro ⟨taken, rfl, h⟩
  exact parseFieldType_append h rest

theorem ofDescriptor_eq_ok_iff {text : String} :
    ofDescriptor text = .ok d ↔ dotsToSlashes text.toList = d.descriptorChars := by
  rw [ofDescriptor]
  constructor
  · intro h
    split at h
    · cases h
    · rename_i hread
      cases h
      obtain ⟨taken, htext, htaken⟩ := parseFieldType_eq_ok_iff.mp hread
      rw [htext, List.append_nil, htaken]
    · cases h
  · intro h
    rw [parseFieldType_eq_ok_iff.mpr ⟨text.toList, (List.append_nil _).symm, h⟩]

/-- A descriptor has no dots. -/
theorem dotsToSlashes_descriptorChars (d : TypeDescriptor) : dotsToSlashes d.descriptorChars = d.descriptorChars := by
  rw [descriptorChars, dotsToSlashes_append, dotsToSlashes_replicate (by decide)]
  cases d.element with
  | primitive p => cases p <;> rfl
  | object n =>
    dsimp only
    rw [dotsToSlashes_class, dotsToSlashes_idem]

theorem ofDescriptor_descriptor (d : TypeDescriptor) : ofDescriptor d.descriptor = .ok d := by
  rw [ofDescriptor_eq_ok_iff, descriptor, String.toList_ofList, dotsToSlashes_descriptorChars]

end TypeDescriptor

/-! ## Methods -/

namespace MethodDescriptor

variable {whole name text : String} {type returnType : TypeDescriptor} {read arguments : List TypeDescriptor}
  {isStatic : Bool} {before after taken input rest : List Char} {m : MethodDescriptor}

/-- One turn of the loop that reads arguments: from a text that does not begin like the end of the arguments, a type is
read, and the loop goes on behind it. -/
def ArgumentTurn (type : TypeDescriptor) (before after : List Char) : Prop :=
  before.head? ≠ some ')' ∧ TypeDescriptor.parseFieldType before = .ok (type, after)

theorem ArgumentTurn.parseArguments_eq (h : ArgumentTurn type before after) (whole : String)
    (read : List TypeDescriptor) : parseArguments whole read before = parseArguments whole (type :: read) after := by
  obtain ⟨hhead, hread⟩ := h
  cases before with
  | nil => cases hread
  | cons c rest =>
    rw [parseArguments, if_neg (by simpa using hhead)]
    split
    · rename_i hv
      rw [hread] at hv
      cases hv
    · rename_i hok
      rw [hread] at hok
      cases hok
      rfl

/-- Every turn leaves less of the text. -/
theorem wellFounded_argumentTurn : WellFounded fun after before => ∃ type, ArgumentTurn type before after :=
  Subrelation.wf (fun ⟨_, h⟩ => TypeDescriptor.length_lt_of_parseFieldType h.2) (measure List.length).wf

/-- A text that begins with a descriptor does not begin like the end of the arguments. -/
theorem argumentTurn_of_append (h : dotsToSlashes taken = type.descriptorChars) (rest : List Char) :
    ArgumentTurn type (taken ++ rest) rest := by
  refine ⟨?_, TypeDescriptor.parseFieldType_append h rest⟩
  obtain ⟨c, cs, hchars, hc⟩ := type.exists_cons_descriptorChars
  rw [hchars] at h
  obtain ⟨x, xs, rfl, hx, -⟩ := List.map_eq_cons_iff.mp h
  intro hhead
  obtain rfl : x = ')' := Option.some.inj hhead
  exact hc hx.symm

/-- **Arguments are read in front of any text**, one turn for each. -/
theorem parseArguments_append (h : dotsToSlashes taken = arguments.flatMap TypeDescriptor.descriptorChars) :
    parseArguments whole read (taken ++ ')' :: rest) = .ok (read.reverse ++ arguments, rest) := by
  induction arguments generalizing read taken with
  | nil =>
    obtain rfl := List.map_eq_nil_iff.mp h
    rw [List.nil_append, parseArguments, if_pos (beq_self_eq_true _), List.append_nil]
  | cons type arguments ih =>
    rw [List.flatMap_cons] at h
    obtain ⟨first, others, rfl, hfirst, hothers⟩ := dotsToSlashes_eq_append h
    rw [List.append_assoc, (argumentTurn_of_append hfirst _).parseArguments_eq, ih hothers, List.reverse_cons,
      List.append_assoc, List.singleton_append]

/-- **What was taken for arguments are their descriptors**, by induction along the turns. -/
theorem exists_of_parseArguments (h : parseArguments whole read input = .ok (arguments, rest)) :
    ∃ taken types, input = taken ++ ')' :: rest ∧ arguments = read.reverse ++ types ∧
      dotsToSlashes taken = types.flatMap TypeDescriptor.descriptorChars := by
  fun_induction parseArguments whole read input with
  | case1 => cases h
  | case2 read c rest hclose =>
    cases h
    exact ⟨[], [], by rw [beq_iff_eq.mp hclose, List.nil_append], (List.append_nil _).symm, rfl⟩
  | case3 => cases h
  | case4 read c rest hclose type after hread ih =>
    obtain ⟨others, types, rfl, rfl, hothers⟩ := ih h
    obtain ⟨first, hinput, hfirst⟩ := TypeDescriptor.exists_of_parseFieldType hread
    refine ⟨first ++ others, type :: types, by rw [hinput, List.append_assoc], ?_, ?_⟩
    · rw [List.reverse_cons, List.append_assoc, List.singleton_append]
    · rw [dotsToSlashes_append, hfirst, hothers, List.flatMap_cons]

theorem parseArguments_eq_ok_iff : parseArguments whole [] input = .ok (arguments, rest) ↔
    ∃ taken, input = taken ++ ')' :: rest ∧
      dotsToSlashes taken = arguments.flatMap TypeDescriptor.descriptorChars := by
  constructor
  · intro h
    obtain ⟨taken, types, hinput, rfl, htaken⟩ := exists_of_parseArguments h
    exact ⟨taken, hinput, htaken⟩
  · rintro ⟨taken, rfl, htaken⟩
    exact parseArguments_append htaken

theorem mk?_self (m : MethodDescriptor) : mk? m.name m.arguments m.returnType m.isStatic = .ok m := by
  rw [mk?, dif_pos m.name_ok, dif_pos m.not_void]

/-- What was checked is what was given. -/
theorem mk?_eq_ok_iff : mk? name arguments returnType isStatic = .ok m ↔
    m.name = name ∧ m.arguments = arguments ∧ m.returnType = returnType ∧ m.isStatic = isStatic := by
  constructor
  · intro h
    unfold mk? at h
    split at h
    · split at h
      · cases h
        exact ⟨rfl, rfl, rfl, rfl⟩
      · cases h
    · cases h
  · rintro ⟨rfl, rfl, rfl, rfl⟩
    exact m.mk?_self

/-- A method's descriptor has no dots. -/
theorem dotsToSlashes_descriptor (m : MethodDescriptor) : dotsToSlashes m.descriptor.toList = m.descriptor.toList := by
  have harguments : dotsToSlashes (m.arguments.flatMap TypeDescriptor.descriptorChars) =
      m.arguments.flatMap TypeDescriptor.descriptorChars :=
    List.map_flatMap.trans (congrArg (List.flatMap · _) (funext TypeDescriptor.dotsToSlashes_descriptorChars))
  have hbehind : dotsToSlashes (')' :: m.returnType.descriptorChars) = ')' :: m.returnType.descriptorChars :=
    congrArg (List.cons ')') m.returnType.dotsToSlashes_descriptorChars
  rw [descriptor, String.toList_ofList]
  refine congrArg (List.cons '(') ?_
  show dotsToSlashes _ = _
  rw [dotsToSlashes_append, harguments, hbehind]

theorem descriptor_eq_ofList_iff {cs : List Char} : m.descriptor = String.ofList cs ↔
    '(' :: (m.arguments.flatMap TypeDescriptor.descriptorChars ++ ')' :: m.returnType.descriptorChars) = cs := by
  rw [← String.toList_inj, descriptor, String.toList_ofList, String.toList_ofList]

theorem isVoid_of_mem_arguments (h : type ∈ m.arguments) : type.isVoid = false := by
  rw [← Bool.not_eq_true]
  intro hvoid
  have hany := m.not_void
  rw [List.any_eq_true.mpr ⟨type, h, hvoid⟩] at hany
  cases hany

/-- **Methods are read exactly**: a text is read as the method whose descriptor it is, and only as that one. -/
theorem parse_eq_ok_iff : parse name text isStatic = .ok m ↔
    m.name = name ∧ m.isStatic = isStatic ∧ m.descriptor = String.ofList (dotsToSlashes text.toList) := by
  rw [descriptor_eq_ofList_iff]
  constructor
  · intro h
    unfold parse at h
    split at h
    · rename_i input htext
      obtain ⟨⟨arguments, rest⟩, harguments, h⟩ := except_bind_eq_ok.mp h
      obtain ⟨returnType, hreturn, h⟩ := except_bind_eq_ok.mp h
      obtain ⟨hname, rfl, rfl, hstatic⟩ := mk?_eq_ok_iff.mp h
      obtain ⟨taken, rfl, htaken⟩ := parseArguments_eq_ok_iff.mp harguments
      rw [TypeDescriptor.ofDescriptor_eq_ok_iff, String.toList_ofList] at hreturn
      refine ⟨hname, hstatic, ?_⟩
      rw [htext, ← htaken, ← hreturn]
      exact (congrArg (List.cons '(') (dotsToSlashes_append taken (')' :: rest))).symm
    · cases h
  · rintro ⟨rfl, rfl, h⟩
    -- a name may hold parentheses, so the end of the arguments is known from the arguments and not from the character
    obtain ⟨input, htext, hinput⟩ := dotsToSlashes_eq_cons (by decide) h.symm
    obtain ⟨taken, close, rfl, htaken, hclose⟩ := dotsToSlashes_eq_append hinput
    obtain ⟨rest, rfl, hrest⟩ := dotsToSlashes_eq_cons (by decide) hclose
    have hreturn : TypeDescriptor.ofDescriptor (String.ofList rest) = .ok m.returnType := by
      rwa [TypeDescriptor.ofDescriptor_eq_ok_iff, String.toList_ofList]
    rw [parse, htext]
    refine except_bind_eq_ok.mpr ⟨_, parseArguments_append htaken, ?_⟩
    exact except_bind_eq_ok.mpr ⟨m.returnType, hreturn, m.mk?_self⟩

/-- **A method's descriptor is read as the method.** -/
theorem parse_descriptor (m : MethodDescriptor) : parse m.name m.descriptor m.isStatic = .ok m := by
  refine parse_eq_ok_iff.mpr ⟨rfl, rfl, ?_⟩
  rw [dotsToSlashes_descriptor, String.ofList_toList]

/-- **Parsing accepts exactly the rendered grammar.** A text is read under a member's name if and only if, with slashes
for its dots, it is the descriptor of arguments that are not `void` and of a type to return; and the method that is read
is the one of that name, kind and descriptor. What the check of a method accepts is read back from its descriptor, and on no
text can the loop that reads arguments take turn after turn forever. -/
theorem parse_exact (name text : String) (isStatic : Bool) :
    ((∃ m, parse name text isStatic = .ok m) ↔ isMemberName name = true ∧
      ∃ (arguments : List TypeDescriptor) (returnType : TypeDescriptor),
        (∀ type ∈ arguments, type.isVoid = false) ∧
        dotsToSlashes text.toList = '(' :: (arguments.flatMap TypeDescriptor.descriptorChars ++
          ')' :: returnType.descriptorChars)) ∧
      (∀ m, parse name text isStatic = .ok m ↔
        m.name = name ∧ m.isStatic = isStatic ∧ (∀ type ∈ m.arguments, type.isVoid = false) ∧
          (∀ type ∈ m.returnType :: m.arguments, type.element = .primitive .void → type.isArray = false) ∧
          m.descriptor = String.ofList (dotsToSlashes text.toList)) ∧
      (∀ arguments returnType m, mk? name arguments returnType isStatic = .ok m →
        parse name m.descriptor isStatic = .ok m) ∧
      WellFounded fun after before => ∃ type, ArgumentTurn type before after := by
  refine ⟨⟨?_, ?_⟩, fun m => parse_eq_ok_iff.trans ⟨?_, ?_⟩, ?_, wellFounded_argumentTurn⟩
  · rintro ⟨m, h⟩
    obtain ⟨rfl, -, hdescriptor⟩ := parse_eq_ok_iff.mp h
    exact ⟨m.name_ok, m.arguments, m.returnType, fun _ => isVoid_of_mem_arguments,
      (descriptor_eq_ofList_iff.mp hdescriptor).symm⟩
  · rintro ⟨hname, arguments, returnType, hvoid, htext⟩
    have hnot : arguments.any TypeDescriptor.isVoid = false := by simpa using hvoid
    exact ⟨⟨name, arguments, returnType, isStatic, hname, hnot⟩,
      parse_eq_ok_iff.mpr ⟨rfl, rfl, descriptor_eq_ofList_iff.mpr htext.symm⟩⟩
  · rintro ⟨hname, hstatic, hdescriptor⟩
    refine ⟨hname, hstatic, fun _ => isVoid_of_mem_arguments, fun type _ hvoid => ?_, hdescriptor⟩
    rw [TypeDescriptor.isArray, type.void_scalar hvoid]
    rfl
  · rintro ⟨hname, hstatic, -, -, hdescriptor⟩
    exact ⟨hname, hstatic, hdescriptor⟩
  · intro arguments returnType m h
    obtain ⟨rfl, -, -, rfl⟩ := mk?_eq_ok_iff.mp h
    exact m.parse_descriptor

/-- A constructor whose descriptor is spelled with dots; what the check of a method accepts is read back from slashes. -/
theorem parse_exact_dots : ∃ m,
    parse "<init>" "(I[[Ljava.lang.String;J)V" false = .ok m ∧
      m.arguments.map TypeDescriptor.dimensions = [0, 2, 0] ∧ m.descriptor = "(I[[Ljava/lang/String;J)V" ∧
      mk? "<init>" m.arguments m.returnType false = .ok m ∧ parse "<init>" m.descriptor false = .ok m := by
  obtain ⟨-, hexact, hback, -⟩ := parse_exact "<init>" "(I[[Ljava.lang.String;J)V" false
  let strings : TypeDescriptor := ⟨.object ⟨"java.lang.String", by decide, by decide⟩, 2, by decide, nofun⟩
  let m : MethodDescriptor :=
    ⟨"<init>", [.ofPrimitive .int, strings, .ofPrimitive .long], .ofPrimitive .void, false, by decide, by decide⟩
  have hchecked : mk? "<init>" m.arguments m.returnType false = .ok m := rfl
  exact ⟨m, (hexact m).mpr ⟨rfl, rfl, by decide, by decide, rfl⟩, rfl, rfl, hchecked, hback _ _ m hchecked⟩

end MethodDescriptor

end ClassWeaver.Identity
