import TaskSieve.Proofs.Table
import TaskSieve.Registry

/-!
# Building trees of names

A tree is built by putting a registered strategy in place of each name.  The
builder and the list of all names go through a tree in the same order, so when
some name is not registered, building fails with the first such name of that
list.
-/

namespace TaskSieve

namespace Registry

/-- The strategy that stands for a name in a tree; names that are not registered
are never built. -/
def pick (registry : Registry) (name : String) : Strategy :=
  (registry.find? name).getD default

/-- The first of some names that is not registered. -/
def unregistered? (registry : Registry) (names : List String) : Option String :=
  names.find? fun name => !registry.contains name

variable {registry : Registry} {names : List String}

theorem unregistered?_append (first second : List String) :
    registry.unregistered? (first ++ second) =
      (registry.unregistered? first).or (registry.unregistered? second) :=
  List.find?_append

theorem unregistered?_eq_none_iff :
    registry.unregistered? names = none ↔
      ∀ name ∈ names, registry.contains name = true := by
  simp [unregistered?]

theorem require_eq (registry : Registry) (name : String) :
    registry.require name =
      if registry.contains name then .ok (registry.pick name)
      else .error (.unknown name) := by
  cases found : registry.find? name with
  | none => simp [require, Table.contains, found]
  | some strategy => simp [require, Table.contains, pick, found]

end Registry

namespace Spec

mutual

/-- The strategy of a tree with strategies in place of its names. -/
def assemble (pick : String → Strategy) : Spec → Strategy
  | .named name => pick name
  | .any children => .any (assembleAll pick children)
  | .all children => .all (assembleAll pick children)
  | .not child => .not (child.assemble pick)

def assembleAll (pick : String → Strategy) : List Spec → List Strategy
  | [] => []
  | child :: rest => child.assemble pick :: assembleAll pick rest

end

@[simp] theorem assembleAll_eq_map (pick : String → Strategy)
    (children : List Spec) :
    assembleAll pick children = children.map (assemble pick) := by
  induction children with
  | nil => rfl
  | cons child rest induction => rw [assembleAll, induction, List.map_cons]

theorem namesOfAll_eq_flatMap (children : List Spec) :
    namesOfAll children = children.flatMap names := by
  induction children with
  | nil => rfl
  | cons child rest induction => rw [namesOfAll, induction, List.flatMap_cons]

variable {registry : Registry}

mutual

/-- Building succeeds when every name is registered, and otherwise fails with
the first that is not. -/
theorem build_eq (registry : Registry) (spec : Spec) :
    spec.build registry =
      match registry.unregistered? spec.names with
      | some name => .error (.unknown name)
      | none => .ok (spec.assemble registry.pick) := by
  cases spec with
  | named name =>
      rw [build, Registry.require_eq]
      by_cases registered : registry.contains name = true
      · simp [registered, Registry.unregistered?, names, assemble]
      · simp [registered, Registry.unregistered?, names]
  | any children =>
      rw [build, buildAll_eq, names]
      cases registry.unregistered? (namesOfAll children) with
      | some name => rfl
      | none => rfl
  | all children =>
      rw [build, buildAll_eq, names]
      cases registry.unregistered? (namesOfAll children) with
      | some name => rfl
      | none => rfl
  | not child =>
      rw [build, build_eq, names]
      cases registry.unregistered? child.names with
      | some name => rfl
      | none => rfl

theorem buildAll_eq (registry : Registry) (children : List Spec) :
    buildAll registry children =
      match registry.unregistered? (namesOfAll children) with
      | some name => .error (.unknown name)
      | none => .ok (assembleAll registry.pick children) := by
  cases children with
  | nil => rfl
  | cons child rest =>
      rw [buildAll, build_eq, buildAll_eq, namesOfAll,
        Registry.unregistered?_append]
      cases registry.unregistered? child.names with
      | some name => rfl
      | none =>
          cases registry.unregistered? (namesOfAll rest) with
          | some name => rfl
          | none => rfl

end

theorem build_of_registered {spec : Spec}
    (registered : ∀ name ∈ spec.names, registry.contains name = true) :
    spec.build registry = .ok (spec.assemble registry.pick) := by
  rw [build_eq, Registry.unregistered?_eq_none_iff.mpr registered]

end Spec

end TaskSieve
