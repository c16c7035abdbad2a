import ClassWeaver.Plugin.Environment

/-!
# Questions to the host

A host may answer differently every time it is asked, so what plugins are told is stable only because nobody asks twice:
what the host gives at once is looked up first, then the answers that were kept, and only a key of which neither is known
gets to the host. An environment never forgets, so every answer is what is known of its key in the end.

## Contents

* `known?` — what an environment knows of a key; `property_of_known`, `property_of_unknown`.
* `Grows`, `Faithful` — environments that have learned more, and answers that the host gave, once for a key.
* `Told`, `told_property`, `told_mapM` — what one call does, and calls in a row.
* `Agrees`, `mapM_of_agrees` — hosts that cannot be told apart by the calls.
* `AskedOnce`, `property_stable` — all of it, for the calls from the first on.
-/

namespace ClassWeaver.Environment

variable {e u v : Environment} {key : String} {keys more : List String} {answer : Option String}
  {answers others : List (Option String)} {n : Nat} {host other : Host}

/-! ## What is known -/

/-- What is known of a key without asking the host: the value that it gives at once, or else the answer that was kept. -/
def known? (e : Environment) (key : String) : Option (Option String) :=
  match e.host.properties.lookup key with
  | some value => some (some value)
  | none => e.answers.lookup key

/-- The environment after the host was asked for a key. -/
def learn (e : Environment) (key : String) : Environment :=
  { e with answers := e.answers ++ [(key, e.host.resolve e.answers.length key)] }

theorem asked_learn (e : Environment) (key : String) : (e.learn key).asked = e.asked ++ [key] :=
  List.map_append

theorem length_asked (e : Environment) : e.asked.length = e.answers.length :=
  List.length_map _

theorem known?_of_eager {value : String} (h : e.host.properties.lookup key = some value) :
    e.known? key = some (some value) := by
  unfold known?
  rw [h]

theorem known?_of_lazy (h : e.host.properties.lookup key = none) : e.known? key = e.answers.lookup key := by
  unfold known?
  rw [h]

theorem lookup_answers_eq_none_iff : e.answers.lookup key = none ↔ key ∉ e.asked := by
  unfold asked
  rw [List.lookup_eq_none_iff, List.mem_map]
  constructor
  · rintro h ⟨entry, hentry, rfl⟩
    simpa using h entry hentry
  · intro h entry hentry
    have hne : key ≠ entry.1 := fun heq => h ⟨entry, hentry, heq.symm⟩
    simpa using hne

theorem known?_eq_none_iff : e.known? key = none ↔ e.host.properties.lookup key = none ∧ key ∉ e.asked := by
  cases hvalue : e.host.properties.lookup key with
  | some value =>
    rw [known?_of_eager hvalue]
    exact iff_of_false nofun fun h => nomatch h.1
  | none =>
    rw [known?_of_lazy hvalue, lookup_answers_eq_none_iff]
    exact (and_iff_right rfl).symm

/-- **What is known is answered without a question.** -/
theorem property_of_known (h : e.known? key = some answer) : property key e = (answer, e) := by
  unfold property
  unfold known? at h
  cases hvalue : e.host.properties.lookup key with
  | some value =>
    rw [hvalue] at h
    cases h
    rfl
  | none =>
    rw [hvalue] at h
    dsimp only at h ⊢
    rw [h]

/-- **What is not known is learned from the host.** -/
theorem property_of_unknown (h : e.known? key = none) :
    property key e = (e.host.resolve e.answers.length key, e.learn key) := by
  obtain ⟨hlazy, hnew⟩ := known?_eq_none_iff.mp h
  unfold property
  rw [hlazy]
  dsimp only
  rw [lookup_answers_eq_none_iff.mpr hnew]
  rfl

/-! ## Environments that learn -/

/-- The later environment has kept all answers, and may have more. -/
structure Grows (e u : Environment) : Prop where
  host : u.host = e.host
  answers : e.answers <+: u.answers

theorem Grows.refl (e : Environment) : e.Grows e :=
  ⟨rfl, List.prefix_refl _⟩

theorem Grows.of_grows (h : e.Grows u) (h' : u.Grows v) : e.Grows v :=
  ⟨h'.host.trans h.host, h.answers.trans h'.answers⟩

theorem grows_learn (e : Environment) (key : String) : e.Grows (e.learn key) :=
  ⟨rfl, List.prefix_append _ _⟩

/-- **What is known stays known.** -/
theorem Grows.known? (h : e.Grows u) (hknown : e.known? key = some answer) : u.known? key = some answer := by
  obtain ⟨hhost, later, hlater⟩ := h
  cases hvalue : e.host.properties.lookup key with
  | some value =>
    rw [known?_of_eager hvalue] at hknown
    rw [known?_of_eager (hhost ▸ hvalue), hknown]
  | none =>
    rw [known?_of_lazy hvalue] at hknown
    rw [known?_of_lazy (hhost ▸ hvalue), ← hlater, List.lookup_append, hknown]
    rfl

theorem known?_learn (h : e.known? key = none) :
    (e.learn key).known? key = some (e.host.resolve e.answers.length key) := by
  obtain ⟨hlazy, hnew⟩ := known?_eq_none_iff.mp h
  have hkept : (e.learn key).known? key = (e.learn key).answers.lookup key := known?_of_lazy hlazy
  rw [hkept, learn, List.lookup_append, lookup_answers_eq_none_iff.mpr hnew]
  exact List.lookup_cons_self

/-- The answers that were kept are those of the host, one for each question, and it was asked only once for a key and not
at all for what it gives at once. -/
structure Faithful (e : Environment) : Prop where
  given : ∀ n key answer, e.answers[n]? = some (key, answer) → answer = e.host.resolve n key
  once : e.asked.Nodup
  lazy : ∀ key ∈ e.asked, e.host.properties.lookup key = none

theorem faithful_new (plugins : List String) (host : Host) : (new plugins host).Faithful :=
  ⟨nofun, List.nodup_nil, nofun⟩

theorem Faithful.learn (h : e.Faithful) (hnew : e.known? key = none) : (e.learn key).Faithful := by
  obtain ⟨hlazy, hnotAsked⟩ := known?_eq_none_iff.mp hnew
  refine ⟨fun n k answer hn => ?_, ?_, ?_⟩
  · unfold Environment.learn at hn
    rcases Nat.lt_or_ge n e.answers.length with hlt | hge
    · rw [List.getElem?_append_left hlt] at hn
      exact h.given n k answer hn
    · rw [List.getElem?_append_right hge, List.getElem?_singleton] at hn
      split at hn
      · cases hn
        obtain rfl : n = e.answers.length := by omega
        rfl
      · cases hn
  · rw [asked_learn]
    refine List.nodup_append.mpr ⟨h.once, List.pairwise_singleton _ _, fun k hk last hlast heq => ?_⟩
    rw [heq, List.mem_singleton.mp hlast] at hk
    exact hnotAsked hk
  · rw [asked_learn, List.forall_mem_append, List.forall_mem_singleton]
    exact ⟨h.lazy, hlazy⟩

/-- **Of a key that the host was asked for, its answer is known.** -/
theorem Faithful.known? (h : e.Faithful) (hn : e.asked[n]? = some key) :
    e.known? key = some (e.host.resolve n key) := by
  have hmem := List.mem_of_getElem? hn
  unfold asked at hn
  rw [List.getElem?_map] at hn
  obtain ⟨⟨k, answer⟩, hentry, rfl⟩ := Option.map_eq_some_iff.mp hn
  rw [known?_of_lazy (h.lazy _ hmem), ← h.given n k answer hentry]
  obtain ⟨before, after, hsplit⟩ := List.append_of_mem (List.mem_of_getElem? hentry)
  refine List.lookup_eq_some_iff.mpr ⟨before, after, hsplit, fun entry hbefore => ?_⟩
  have honce := h.once
  unfold asked at honce
  rw [hsplit, List.map_append, List.nodup_append] at honce
  have hne := honce.2.2 _ (List.mem_map_of_mem hbefore) k List.mem_cons_self
  simpa using hne.symm

/-! ## Calls -/

/-- What calls for the keys do: they answer what is known of the keys in the end, and ask for no other keys. -/
structure Told (keys : List String) (answers : List (Option String)) (e u : Environment) : Prop where
  grows : e.Grows u
  known : keys.map u.known? = answers.map some
  asked : ∀ key ∈ u.asked, key ∈ e.asked ∨ key ∈ keys
  faithful : e.Faithful → u.Faithful

/-- **One call** answers what is known then, and learns it before if it must. -/
theorem told_property (h : property key e = (answer, u)) : Told [key] [answer] e u := by
  cases hknown : e.known? key with
  | some known =>
    obtain ⟨rfl, rfl⟩ := Prod.mk.inj ((property_of_known hknown).symm.trans h)
    exact ⟨.refl _, congrArg (fun known => [known]) hknown, fun _ => .inl, id⟩
  | none =>
    obtain ⟨rfl, rfl⟩ := Prod.mk.inj ((property_of_unknown hknown).symm.trans h)
    refine ⟨grows_learn e key, congrArg (fun known => [known]) (known?_learn hknown), fun k hk => ?_, (·.learn hknown)⟩
    rw [asked_learn, List.mem_append] at hk
    exact hk

theorem Told.append (h : Told keys answers e u) (h' : Told more others u v) :
    Told (keys ++ more) (answers ++ others) e v := by
  refine ⟨h.grows.of_grows h'.grows, ?_, fun key hkey => ?_, fun hfaithful => h'.faithful (h.faithful hfaithful)⟩
  · rw [List.map_append, List.map_append, h'.known, ← h.known]
    refine congrArg (· ++ _) (List.map_congr_left fun key hkey => ?_)
    obtain ⟨answer, -, hanswer⟩ := List.mem_map.mp (h.known ▸ List.mem_map_of_mem hkey)
    rw [← hanswer, h'.grows.known? hanswer.symm]
  · rcases h'.asked key hkey with hkey | hkey
    · exact (h.asked key hkey).imp_right (List.mem_append_left _)
    · exact .inr (List.mem_append_right _ hkey)

theorem mapM_cons (key : String) (keys : List String) (e : Environment) :
    ((key :: keys).mapM property) e =
      (((property key e).1 :: (keys.mapM property (property key e).2).1), (keys.mapM property (property key e).2).2) := by
  rw [List.mapM_cons]
  rfl

/-- **Calls in a row**, each in the environment that the one before it left. -/
theorem told_mapM (keys : List String) (e : Environment) :
    Told keys ((keys.mapM property) e).1 e ((keys.mapM property) e).2 := by
  induction keys generalizing e with
  | nil => exact ⟨.refl _, rfl, fun _ => .inl, id⟩
  | cons key keys ih =>
    rw [mapM_cons]
    have hfirst : Told [key] [(property key e).1] e (property key e).2 := told_property rfl
    exact hfirst.append (ih _)

/-! ## Other hosts -/

/-- The other host would have answered all questions as the host of the environment did. -/
structure Agrees (other : Host) (e : Environment) : Prop where
  properties : other.properties = e.host.properties
  resolve : ∀ n key, e.asked[n]? = some key → other.resolve n key = e.host.resolve n key

theorem Agrees.of_grows (h : Agrees other u) (hgrows : e.Grows u) : Agrees other e where
  properties := h.properties.trans (congrArg Host.properties hgrows.host)
  resolve n key hn := by
    obtain ⟨later, hlater⟩ : e.asked <+: u.asked := hgrows.answers.map Prod.fst
    obtain ⟨hlt, -⟩ := List.getElem?_eq_some_iff.mp hn
    rw [h.resolve n key (by rw [← hlater, List.getElem?_append_left hlt, hn]), hgrows.host]

theorem known?_of_properties (h : other.properties = e.host.properties) :
    known? { e with host := other } key = e.known? key := by
  unfold known?
  dsimp only
  rw [h]

/-- A call makes no difference between hosts that agree on what it leaves. -/
theorem property_of_agrees (h : Agrees other (property key e).2) :
    property key { e with host := other } = ((property key e).1, { (property key e).2 with host := other }) := by
  have hsame : known? { e with host := other } key = e.known? key :=
    known?_of_properties (h.of_grows (told_property rfl).grows).properties
  cases hknown : e.known? key with
  | some answer =>
    rw [property_of_known hknown]
    exact property_of_known (hsame.trans hknown)
  | none =>
    rw [property_of_unknown hknown] at h ⊢
    have hlast : (e.learn key).asked[e.answers.length]? = some key := by
      rw [asked_learn, ← length_asked, List.getElem?_concat_length]
    have hanswer : other.resolve e.answers.length key = e.host.resolve e.answers.length key := h.resolve _ _ hlast
    rw [property_of_unknown (hsame.trans hknown), learn, learn]
    dsimp only
    rw [hanswer]

/-- **Hosts that agree on the questions cannot be told apart.** -/
theorem mapM_of_agrees (h : Agrees other ((keys.mapM property) e).2) :
    (keys.mapM property) { e with host := other } =
      (((keys.mapM property) e).1, { ((keys.mapM property) e).2 with host := other }) := by
  induction keys generalizing e with
  | nil => rfl
  | cons key keys ih =>
    rw [mapM_cons] at h ⊢
    rw [mapM_cons, property_of_agrees (h.of_grows (told_mapM keys _).grows), ih h]

/-! ## From the first call on -/

/-- The answers to calls for the keys, from a host that was asked as little as can be. -/
structure AskedOnce (host : Host) (keys : List String) (answers : List (Option String)) (e : Environment) : Prop where
  length : answers.length = keys.length
  /-- A key has the same answer whenever it comes up. -/
  stable : ∀ i j : Nat, keys[i]? = keys[j]? → answers[i]? = answers[j]?
  /-- The host is not asked for what it gives at once, and that is the answer. -/
  eager : ∀ key value, host.properties.lookup key = some value →
    key ∉ e.asked ∧ ∀ i : Nat, keys[i]? = some key → answers[i]? = some (some value)
  /-- The host is asked once for each of the other keys. -/
  once : e.asked.Nodup ∧ ∀ key, key ∈ e.asked ↔ key ∈ keys ∧ host.properties.lookup key = none
  /-- What it said then is the answer, also if it had none. -/
  given : ∀ (n : Nat) (key : String), e.asked[n]? = some key →
    ∀ i : Nat, keys[i]? = some key → answers[i]? = some (host.resolve n key)

theorem askedOnce_of_told {plugins : List String} (h : Told keys answers (new plugins host) u) :
    AskedOnce host keys answers u := by
  have hfaithful := h.faithful (faithful_new plugins host)
  have hhost : u.host = host := h.grows.host
  have hknown (i : Nat) : answers[i]?.map some = keys[i]?.map u.known? := by
    rw [← List.getElem?_map, ← List.getElem?_map, h.known]
  have hanswer {i : Nat} {key : String} {answer : Option String} (hi : keys[i]? = some key)
      (hkey : u.known? key = some answer) : answers[i]? = some answer := by
    have hsome := hknown i
    rw [hi, Option.map_some, hkey] at hsome
    obtain ⟨found, hfound, heq⟩ := Option.map_eq_some_iff.mp hsome
    exact hfound.trans heq
  refine ⟨?_, fun i j hij => ?_, fun key value hvalue => ⟨fun hmem => ?_, fun i hi => ?_⟩, ⟨hfaithful.once, fun key => ?_⟩,
    fun n key hn i hi => ?_⟩
  · simpa using (congrArg List.length h.known).symm
  · refine (Option.map_inj_right fun _ _ => Option.some.inj).mp ?_
    rw [hknown, hknown, hij]
  · have hlazy := hfaithful.lazy key hmem
    rw [hhost, hvalue] at hlazy
    cases hlazy
  · exact hanswer hi (known?_of_eager (hhost ▸ hvalue))
  · constructor
    · intro hmem
      exact ⟨(h.asked key hmem).resolve_left List.not_mem_nil, hhost ▸ hfaithful.lazy key hmem⟩
    · rintro ⟨hmem, hlazy⟩
      refine Decidable.not_not.mp fun hnew => ?_
      have hunknown := known?_eq_none_iff.mpr ⟨hhost ▸ hlazy, hnew⟩
      obtain ⟨answer, -, heq⟩ := List.mem_map.mp (h.known ▸ List.mem_map_of_mem hmem)
      rw [hunknown] at heq
      cases heq
  · rw [hanswer hi (hfaithful.known? hn), hhost]

/-- **Answers are stable, and the host is asked once.** Whatever a host says when it is asked, and whatever keys are asked
for in a row: a key has the same answer every time, its value if the host gives one at once, and otherwise what the host said
to its only question for the key. What the host would have said to any other question makes no difference. -/
theorem property_stable (plugins : List String) (host : Host) (keys : List String) :
    ∃ answers e, (keys.mapM property) (new plugins host) = (answers, e) ∧ AskedOnce host keys answers e ∧
      ∀ other : Host, other.properties = host.properties →
        (∀ (n : Nat) (key : String), e.asked[n]? = some key → other.resolve n key = host.resolve n key) →
          (keys.mapM property) (new plugins other) = (answers, { e with host := other }) := by
  have htold := told_mapM keys (new plugins host)
  refine ⟨_, _, rfl, askedOnce_of_told htold, fun other hproperties hresolve => ?_⟩
  have hhost : ((keys.mapM property) (new plugins host)).2.host = host := htold.grows.host
  refine mapM_of_agrees (e := new plugins host) ⟨?_, ?_⟩
  · rw [hhost]
    exact hproperties
  · rw [hhost]
    exact hresolve

/-- A host that has nothing to say to the first question, and repeats the key to every later one. -/
def waking : Host where
  properties := [("user", "ann")]
  resolve := fun answered key => if answered = 0 then none else some key
  root := ⟨"/opt/host"⟩

/-- A host that never has a mode, in place of one that has none at first. -/
def modeless : Host :=
  { waking with resolve := fun _ key => if key = "mode" then none else some key }

/-- Keys that come up again. -/
def repeatedKeys : List String :=
  ["mode", "user", "mode", "home", "user", "home"]

/-- The host that wakes up would have a mode to report by the third call, but it is not asked for it again; so it cannot be
told from the one without modes. -/
theorem property_stable_waking :
    ∃ e, (repeatedKeys.mapM property) (new ["alpha"] waking) =
        ([none, some "ann", none, some "home", some "ann", some "home"], e) ∧ e.asked = ["mode", "home"] ∧
      AskedOnce waking repeatedKeys [none, some "ann", none, some "home", some "ann", some "home"] e ∧
      (repeatedKeys.mapM property) (new ["alpha"] modeless) =
        ([none, some "ann", none, some "home", some "ann", some "home"], { e with host := modeless }) := by
  obtain ⟨answers, e, hrun, honce, hother⟩ := property_stable ["alpha"] waking repeatedKeys
  obtain rfl : [none, some "ann", none, some "home", some "ann", some "home"] = answers := congrArg Prod.fst hrun
  have hasked : e.asked = ["mode", "home"] := (congrArg (fun run => run.2.asked) hrun).symm
  refine ⟨e, hrun, hasked, honce, hother modeless rfl fun n key hn => ?_⟩
  rw [hasked] at hn
  match n with
  | 0 | 1 =>
    cases hn
    rfl

end ClassWeaver.Environment
