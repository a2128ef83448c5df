import TaskSieve.Config.Files
import TaskSieve.Proofs.Path

/-!
# The order in which configuration files are looked for

A place where a configuration may be is told by three numbers: how many levels
it lies above the start, which of the names it has, and whether it is inside
the directory `.github`.  The search finds the first place in the order of
these, compared one after the other, where there is anything at all.
-/

namespace TaskSieve

namespace Search

variable {α β : Type} {items : List α}

/-- The first item that a test gives a value for. -/
theorem findSome?_eq_some_iff_getElem? {test : α → Option β} {value : β} :
    items.findSome? test = some value ↔
      ∃ (index : Nat) (item : α), items[index]? = some item ∧
        test item = some value ∧
        ∀ earlier < index, ∀ other, items[earlier]? = some other →
          test other = none := by
  rw [List.findSome?_eq_some_iff]
  constructor
  · rintro ⟨front, item, back, rfl, passes, fail⟩
    refine ⟨front.length, item, by simp, passes, ?_⟩
    intro earlier before other isOther
    rw [List.getElem?_append_left before] at isOther
    exact fail other (List.mem_of_getElem? isOther)
  · rintro ⟨index, item, isAt, passes, fail⟩
    obtain ⟨inside, rfl⟩ := List.getElem?_eq_some_iff.mp isAt
    refine ⟨items.take index, items[index], items.drop (index + 1), by simp,
      passes, ?_⟩
    intro other member
    obtain ⟨earlier, before, rfl⟩ := List.mem_take_iff_getElem.mp member
    exact fail earlier (by omega) _ (List.getElem?_eq_getElem _)

/-- The first place that passes, among the places of one item after the
other. -/
theorem find?_flatMap_eq_some_iff {places : α → List β} {test : β → Bool}
    {place : β} :
    (items.flatMap places).find? test = some place ↔
      ∃ (index : Nat) (item : α), items[index]? = some item ∧
        (places item).find? test = some place ∧
        ∀ earlier < index, ∀ other, items[earlier]? = some other →
          ∀ before ∈ places other, test before = false := by
  rw [List.find?_flatMap, findSome?_eq_some_iff_getElem?]
  simp only [List.find?_eq_none, Bool.not_eq_true]

end Search

namespace Config

/-- Where a configuration may be, seen from a start. -/
structure Spot where
  /-- How many levels above the start. -/
  level : Nat
  /-- The number of the name. -/
  name : Nat
  /-- Whether it is in the directory `.github` of that level. -/
  nested : Bool

namespace Spot

/-- The path of a name in a directory or in its directory `.github`. -/
def pathIn (directory name : String) (nested : Bool) : String :=
  Path.join (if nested then Path.join directory ".github" else directory) name

/-- The path of a place, if there are so many levels and names. -/
def path? (start : String) (spot : Spot) : Option String := do
  let directory ← Path.above? spot.level start
  let name ← fileNames[spot.name]?
  return pathIn directory name spot.nested

/-- The order of preference: nearer levels first, then names that are listed
earlier, then places outside `.github`. -/
inductive Before : Spot → Spot → Prop where
  | nearer {first second : Spot} (levels : first.level < second.level) :
      Before first second
  | preferred {first second : Spot} (level : first.level = second.level)
      (names : first.name < second.name) : Before first second
  | outside {first second : Spot} (level : first.level = second.level)
      (name : first.name = second.name) (outer : first.nested = false)
      (inner : second.nested = true) : Before first second

variable {start path directory name : String} {spot : Spot} {nested : Bool}

theorem path?_eq_some_iff :
    spot.path? start = some path ↔
      ∃ directory name, (Path.levels start)[spot.level]? = some directory ∧
        fileNames[spot.name]? = some name ∧ pathIn directory name spot.nested =
          path := by
  simp only [path?, Path.getElem?_levels, Option.bind_eq_bind,
    Option.bind_eq_some_iff, Option.pure_def, Option.some.injEq,
    exists_and_left]

theorem mem_pair_iff :
    path ∈ [pathIn directory name false, pathIn directory name true] ↔
      ∃ nested, pathIn directory name nested = path := by
  rw [Bool.exists_bool, List.mem_cons, List.mem_singleton, eq_comm,
    @eq_comm _ path]

theorem mem_places_iff :
    path ∈ places directory ↔
      ∃ (index : Nat) (name : String) (nested : Bool),
        fileNames[index]? = some name ∧
        pathIn directory name nested = path := by
  rw [places, List.mem_flatMap]
  constructor
  · rintro ⟨name, listed, inPair⟩
    obtain ⟨index, isName⟩ := List.mem_iff_getElem?.mp listed
    obtain ⟨nested, same⟩ := mem_pair_iff.mp inPair
    exact ⟨index, name, nested, isName, same⟩
  · rintro ⟨index, name, nested, isName, same⟩
    exact ⟨name, List.mem_of_getElem? isName, mem_pair_iff.mpr ⟨nested, same⟩⟩

/-- Of the two places of a name the one outside `.github` is found first. -/
theorem find?_pair_eq_some_iff {test : String → Bool} :
    [pathIn directory name false, pathIn directory name true].find? test =
      some path ↔
      ∃ nested, pathIn directory name nested = path ∧ test path = true ∧
        (nested = true → test (pathIn directory name false) = false) := by
  by_cases outer : test (pathIn directory name false) = true
  · rw [List.find?_cons_of_pos outer, Option.some.injEq]
    constructor
    · rintro rfl
      exact ⟨false, rfl, outer, by simp⟩
    · rintro ⟨nested, rfl, _, outerFails⟩
      cases nested with
      | false => rfl
      | true => simp [outer] at outerFails
  · rw [List.find?_cons_of_neg outer, List.find?_singleton,
      Option.ite_none_right_eq_some, Option.some.injEq]
    constructor
    · rintro ⟨inner, rfl⟩
      exact ⟨true, rfl, inner, fun _ => by simpa using outer⟩
    · rintro ⟨nested, rfl, present, _⟩
      cases nested with
      | false => exact (outer present).elim
      | true => exact ⟨present, rfl⟩

end Spot

open Spot

variable {files : Files} {start path : String}

/-- The search finds the first place, in the order of preference, where there is
anything. -/
theorem find?_eq_some_iff :
    find? files start = some path ↔
      ∃ spot : Spot, spot.path? start = some path ∧ files.hasEntry path = true ∧
        ∀ earlier : Spot, earlier.Before spot →
          ∀ other, earlier.path? start = some other →
          files.hasEntry other = false := by
  rw [find?, searchPath, Search.find?_flatMap_eq_some_iff]
  constructor
  · rintro ⟨level, directory, isLevel, inPlaces, nearerFail⟩
    obtain ⟨index, name, isName, inPair, preferredFail⟩ :=
      Search.find?_flatMap_eq_some_iff.mp inPlaces
    obtain ⟨nested, rfl, present, outerFails⟩ :=
      find?_pair_eq_some_iff.mp inPair
    have isPath : (⟨level, index, nested⟩ : Spot).path? start =
        some (pathIn directory name nested) :=
      path?_eq_some_iff.mpr ⟨_, _, isLevel, isName, rfl⟩
    refine ⟨⟨level, index, nested⟩, isPath, present, ?_⟩
    intro earlier before other isOther
    obtain ⟨otherDirectory, otherName, otherLevel, isOtherName, rfl⟩ :=
      path?_eq_some_iff.mp isOther
    cases before with
    | nearer nearer =>
        exact nearerFail _ nearer _ otherLevel
          _ (mem_places_iff.mpr ⟨_, _, _, isOtherName, rfl⟩)
    | preferred sameLevel preferred =>
        obtain rfl : otherDirectory = directory := by
          rw [sameLevel, isLevel] at otherLevel
          exact (Option.some.inj otherLevel).symm
        exact preferredFail _ preferred _ isOtherName
          _ (mem_pair_iff.mpr ⟨_, rfl⟩)
    | outside sameLevel sameName outer inner =>
        obtain rfl : otherDirectory = directory := by
          rw [sameLevel, isLevel] at otherLevel
          exact (Option.some.inj otherLevel).symm
        obtain rfl : otherName = name := by
          rw [sameName, isName] at isOtherName
          exact (Option.some.inj isOtherName).symm
        rw [outer]
        exact outerFails inner
  · rintro ⟨⟨level, index, nested⟩, isPath, present, fail⟩
    obtain ⟨directory, name, isLevel, isName, rfl⟩ :=
      path?_eq_some_iff.mp isPath
    refine ⟨level, directory, isLevel, Search.find?_flatMap_eq_some_iff.mpr
      ⟨index, name, isName,
      find?_pair_eq_some_iff.mpr ⟨nested, rfl, present, ?_⟩, ?_⟩, ?_⟩
    · intro inner
      exact fail ⟨level, index, false⟩ (.outside rfl rfl rfl inner) _
        (path?_eq_some_iff.mpr ⟨_, _, isLevel, isName, rfl⟩)
    · intro earlier preferred other isOther before member
      obtain ⟨otherNested, rfl⟩ := mem_pair_iff.mp member
      exact fail ⟨level, earlier, otherNested⟩ (.preferred rfl preferred) _
        (path?_eq_some_iff.mpr ⟨_, _, isLevel, isOther, rfl⟩)
    · intro earlier nearer other isOther before member
      obtain ⟨otherIndex, otherName, otherNested, isOtherName, rfl⟩ :=
        mem_places_iff.mp member
      exact fail ⟨earlier, otherIndex, otherNested⟩ (.nearer nearer) _
        (path?_eq_some_iff.mpr ⟨_, _, isOther, isOtherName, rfl⟩)

theorem find?_eq_none_iff :
    find? files start = none ↔
      ∀ (spot : Spot) path, spot.path? start = some path →
        files.hasEntry path = false := by
  rw [find?, List.find?_eq_none]
  constructor
  · intro absent spot path isPath
    obtain ⟨directory, name, isLevel, isName, rfl⟩ :=
      path?_eq_some_iff.mp isPath
    have listed : pathIn directory name spot.nested ∈ searchPath start :=
      List.mem_flatMap.mpr ⟨directory, List.mem_of_getElem? isLevel,
        mem_places_iff.mpr ⟨_, _, _, isName, rfl⟩⟩
    simpa using absent _ listed
  · intro absent path listed
    obtain ⟨directory, isDirectory, inPlaces⟩ := List.mem_flatMap.mp listed
    obtain ⟨level, isLevel⟩ := List.mem_iff_getElem?.mp isDirectory
    obtain ⟨index, name, nested, isName, rfl⟩ := mem_places_iff.mp inPlaces
    simpa using absent ⟨level, index, nested⟩ _
      (path?_eq_some_iff.mpr ⟨_, _, isLevel, isName, rfl⟩)

theorem isComponent_of_mem_fileNames {name : String}
    (listed : name ∈ fileNames) : Path.IsComponent name := by
  simp only [fileNames, List.mem_cons, List.not_mem_nil, or_false] at listed
  rcases listed with rfl | rfl | rfl | rfl <;> exact ⟨by decide, by decide⟩

/-- A place in a directory, given by the names on the way from the root. -/
theorem pathIn_ofSegments {names : List String} {name : String} (nested : Bool)
    (proper : ∀ other ∈ names, Path.IsComponent other)
    (listed : name ∈ fileNames) :
    pathIn (Path.ofSegments names) name nested =
      Path.ofSegments
        (names ++ (if nested then [".github"] else []) ++ [name]) := by
  have isName := isComponent_of_mem_fileNames listed
  cases nested with
  | false =>
      rw [pathIn, if_neg Bool.false_ne_true, Path.join_ofSegments]
      · simp
      · simpa [or_imp, forall_and] using ⟨proper, isName⟩
  | true =>
      have inner : Path.IsComponent ".github" := ⟨by decide, by decide⟩
      rw [pathIn, if_pos rfl, Path.join_ofSegments, Path.join_ofSegments]
      · simp
      · simpa [or_imp, forall_and] using ⟨proper, inner, isName⟩
      · simpa [or_imp, forall_and] using ⟨proper, inner⟩

/-- The places on the search path from a directory that is given by the names on
the way to it: a level is what is left of the names without the last ones. -/
theorem path?_ofSegments {names : List String}
    (proper : ∀ name ∈ names, Path.IsComponent name) (spot : Spot) :
    spot.path? (Path.ofSegments names) =
      if spot.level ≤ names.length then
        fileNames[spot.name]?.map fun name =>
          Path.ofSegments (names.take (names.length - spot.level) ++
            (if spot.nested then [".github"] else []) ++ [name])
      else none := by
  rw [path?, Path.above?_ofSegments proper]
  by_cases within : spot.level ≤ names.length
  · rw [if_pos within, if_pos within]
    cases isName : fileNames[spot.name]? with
    | none => rfl
    | some name =>
        have properFront : ∀ other ∈ names.take (names.length - spot.level),
            Path.IsComponent other :=
          fun other member => proper other (List.mem_of_mem_take member)
        exact congrArg some
          (pathIn_ofSegments spot.nested properFront
            (List.mem_of_getElem? isName))
  · rw [if_neg within, if_neg within]
    rfl

/-- Going up from the start comes to an end.  The search finds the first place,
in the order of preference, where there is anything, and nothing exactly when
there is nothing anywhere.  From a directory that is given by the names on the
way from the root, the levels are the directories on this way, down to the root
itself. -/
theorem find?_in_order (files : Files) (start : String) :
    (∃ count, Path.above? count start = none) ∧
    (∀ path, find? files start = some path ↔
      ∃ spot : Spot, spot.path? start = some path ∧ files.hasEntry path = true ∧
        ∀ earlier : Spot, earlier.Before spot →
          ∀ other, earlier.path? start = some other →
          files.hasEntry other = false) ∧
    (find? files start = none ↔
      ∀ (spot : Spot) path, spot.path? start = some path →
        files.hasEntry path = false) ∧
    ∀ names, (∀ name ∈ names, Path.IsComponent name) →
      start = Path.ofSegments names →
      ∀ spot : Spot, spot.path? start =
        if spot.level ≤ names.length then
          fileNames[spot.name]?.map fun name =>
            Path.ofSegments (names.take (names.length - spot.level) ++
              (if spot.nested then [".github"] else []) ++ [name])
        else none := by
  refine ⟨⟨_, Path.above?_length_levels start⟩, fun path => find?_eq_some_iff,
    find?_eq_none_iff, ?_⟩
  rintro names proper rfl spot
  exact path?_ofSegments proper spot

-- The file in `.github` of the nearer directory wins over one there with a
-- later name and over one in a farther directory.
example :
    let root : FileTree := .directory [
      ("gantry.toml", .file ⟨#[]⟩),
      ("a", .directory [
        ("b", .directory []),
        ("gantry.yaml", .file ⟨#[]⟩),
        (".github", .directory [("gantry.toml", .file ⟨#[]⟩)])])]
    find? root.files "/a/b" = some "/a/.github/gantry.toml" := by decide

end Config

end TaskSieve
