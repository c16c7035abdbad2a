import ClassWeaver.Files.Path

/-!
# The environment of plugins

What plugins may ask before they agree to run: which other plugins there are, and properties of the host. The
host gives some properties at once and works others out when asked; an answer is kept, a missing one included,
so that the host is asked at most once for a key and every question for a key has one answer.

## Contents

* `Host` — properties given at once, and answers to questions.
* `Environment`, `property` — what plugins see.
-/

namespace ClassWeaver

/-- The program that plugins run in. Its answer to a question may depend on how many it has answered before. -/
structure Host where
  properties : List (String × String)
  resolve : (answered : Nat) → (key : String) → Option String
  root : Path

/-- A host that has nothing to add to the properties it gives at once. -/
def Host.static (root : Path) (properties : List (String × String)) : Host :=
  ⟨properties, fun _ _ => none, root⟩

/-- The plugins and the host, with the answers that the host gave so far, oldest first. -/
structure Environment where
  plugins : List String
  host : Host
  answers : List (String × Option String)

namespace Environment

/-- The environment before any question. -/
def new (plugins : List String) (host : Host) : Environment :=
  ⟨plugins, host, []⟩

/-- Whether a plugin of the given id is present. -/
def hasPlugin (e : Environment) (id : String) : Bool :=
  e.plugins.contains id

/-- The keys that the host was asked for, oldest first. -/
def asked (e : Environment) : List String :=
  e.answers.map Prod.fst

/-- The value of a property, if it has one. -/
def property (key : String) : StateM Environment (Option String) := fun e =>
  match e.host.properties.lookup key with
  | some value => (some value, e)
  | none =>
    match e.answers.lookup key with
    | some answer => (answer, e)
    | none =>
      let answer := e.host.resolve e.answers.length key
      (answer, { e with answers := e.answers ++ [(key, answer)] })

end Environment

end ClassWeaver
