import TaskSieve.Proofs.Dispersal.Redundancy

/-!
# What the name of a configuration tells

A plan knows configurations by their names: the platform, the variant and the
mark of a single process, joined by hyphens.  The parts may have hyphens of
their own, so a name does not tell where one part ends.  Candidates with the
same parts have the same name.  Others have the same name exactly if they
clash: a part of one of them takes over what are separate parts of the other.
So the room for new configurations goes by their parts as long as no retained
candidate of the group clashes with the one that is decided on.
-/

namespace TaskSieve

namespace Text

theorem append_eq_append_iff {first second third fourth : String} :
    first ++ second = third ++ fourth ↔
      (∃ middle, third = first ++ middle ∧ second = middle ++ fourth) ∨
        ∃ middle, first = third ++ middle ∧ fourth = middle ++ second := by
  constructor
  · intro same
    have characters := congrArg String.toList same
    rw [String.toList_append, String.toList_append, List.append_eq_append_iff]
        at characters
    have spell {whole start : String} {middle : List Char}
        (spelled : whole.toList = start.toList ++ middle) :
        whole = start ++ String.ofList middle := by
      apply String.toList_inj.mp
      rw [spelled, String.toList_append, String.toList_ofList]
    have spellRest {whole rest : String} {middle : List Char}
        (spelled : whole.toList = middle ++ rest.toList) :
        whole = String.ofList middle ++ rest := by
      apply String.toList_inj.mp
      rw [spelled, String.toList_append, String.toList_ofList]
    rcases characters with ⟨middle, longer, rest⟩ | ⟨middle, longer, rest⟩
    · exact .inl ⟨String.ofList middle, spell longer, spellRest rest⟩
    · exact .inr ⟨String.ofList middle, spell longer, spellRest rest⟩
  · rintro (⟨middle, rfl, rfl⟩ | ⟨middle, rfl, rfl⟩)
    · exact String.append_assoc.symm
    · exact String.append_assoc

theorem hyphen_append_ne (text : String) : "-" ++ text ≠ "" := by
  intro same
  have characters := congrArg String.toList same
  rw [String.toList_append] at characters
  contradiction

theorem append_hyphen_ne (start text : String) :
    start ++ ("-" ++ text) ≠ start := by
  intro same
  have nothing : start ++ ("-" ++ text) = start ++ "" :=
    same.trans String.append_empty.symm
  exact hyphen_append_ne text ((String.append_right_inj start).mp nothing)

theorem exists_hyphen_append {start rest text : String} (nonempty : start ≠ "")
    (same : "-" ++ text = start ++ rest) : ∃ inner, start = "-" ++ inner := by
  cases characters : start.toList with
  | nil => exact (nonempty (String.toList_eq_nil_iff.mp characters)).elim
  | cons first others =>
      have begins : '-' :: text.toList = first :: (others ++ rest.toList) := by
        have spelled := congrArg String.toList same
        rw [String.toList_append, String.toList_append, characters] at spelled
        exact spelled
      refine ⟨String.ofList others, String.toList_inj.mp ?_⟩
      rw [characters, String.toList_append, ← (List.cons.inj begins).1]
      exact congrArg (List.cons '-') String.toList_ofList.symm

end Text

/-- Whether tasks run on the same platform, in the same variant and with the
same kind of processes.  An empty variant is none. -/
def Attributes.RunAlike (left right : Attributes) : Prop :=
  left.platform = right.platform ∧ left.variant.getD "" =
    right.variant.getD "" ∧
    left.multiProcess = right.multiProcess

namespace Candidate

variable {left right candidate : Candidate}

/-- The parts of the configuration that a candidate runs in. -/
def combination (candidate : Candidate) : String × String × Bool :=
  (candidate.platform, candidate.variant, candidate.multiProcess)

theorem attributes_of_ofTask? {importance : Table String Importance}
    {task : Task} (made : ofTask? importance task = some candidate) :
    task.attributes.platform = some candidate.platform ∧
      task.attributes.variant.getD "" = candidate.variant ∧
      task.attributes.multiProcess = candidate.multiProcess := by
  unfold ofTask? at made
  cases platform : task.attributes.platform with
  | none => simp [platform] at made
  | some name =>
      cases groups : (groupsOf importance task).isEmpty with
      | true => simp [platform, groups] at made
      | false =>
          simp only [platform, groups] at made
          cases made
          exact ⟨rfl, rfl, rfl⟩

theorem combination_eq_iff {importance : Table String Importance}
    {first second : Task} (madeLeft : ofTask? importance first = some left)
    (madeRight : ofTask? importance second = some right) :
    left.combination = right.combination ↔
      first.attributes.RunAlike second.attributes := by
  obtain ⟨leftPlatform, leftVariant, leftProcesses⟩ :=
    attributes_of_ofTask? madeLeft
  obtain ⟨rightPlatform, rightVariant, rightProcesses⟩ :=
    attributes_of_ofTask? madeRight
  rw [Attributes.RunAlike, leftPlatform, leftVariant, leftProcesses,
    rightPlatform, rightVariant, rightProcesses, Option.some_inj, combination,
    combination, Prod.mk.injEq, Prod.mk.injEq]

/-- What a variant adds to the name of a configuration. -/
def variantPart (variant : String) : String :=
  if variant.isEmpty then "" else "-" ++ variant

/-- What the kind of processes adds to the name of a configuration. -/
def processPart (multiProcess : Bool) : String :=
  if multiProcess then "" else "-1proc"

/-- What the name of a configuration says after the platform. -/
def particulars (candidate : Candidate) : String :=
  variantPart candidate.variant ++ processPart candidate.multiProcess

/-- A variant together with the mark of a single process. -/
def marked (variant : String) : String :=
  if variant.isEmpty then "1proc" else variant ++ "-1proc"

theorem configuration_eq (candidate : Candidate) :
    candidate.configuration = candidate.platform ++ candidate.particulars :=
  String.append_assoc

theorem variantPart_of_ne {variant : String} (nonempty : variant ≠ "") :
    variantPart variant = "-" ++ variant := by
  apply if_neg
  rw [String.isEmpty_iff]
  exact nonempty

theorem variantPart_injective : Function.Injective variantPart := by
  intro left right same
  by_cases leftEmpty : left = ""
  · by_cases rightEmpty : right = ""
    · rw [leftEmpty, rightEmpty]
    · rw [leftEmpty, variantPart_of_ne rightEmpty] at same
      exact (Text.hyphen_append_ne right same.symm).elim
  · by_cases rightEmpty : right = ""
    · rw [rightEmpty, variantPart_of_ne leftEmpty] at same
      exact (Text.hyphen_append_ne left same).elim
    · rw [variantPart_of_ne leftEmpty, variantPart_of_ne rightEmpty] at same
      exact (String.append_right_inj "-").mp same

theorem variantPart_marked (variant : String) :
    variantPart (marked variant) = variantPart variant ++ "-1proc" := by
  by_cases empty : variant = ""
  · rw [empty]
    rfl
  · have notEmpty : variant.isEmpty = false := by
      rw [Bool.eq_false_iff, ne_eq, String.isEmpty_iff]
      exact empty
    have markedNotEmpty : variant ++ "-1proc" ≠ "" := by simp
    rw [marked, notEmpty, if_neg Bool.false_ne_true,
      variantPart_of_ne markedNotEmpty, variantPart_of_ne empty,
      String.append_assoc]

theorem particulars_cases (candidate : Candidate) :
    candidate.particulars = "" ∨ ∃ rest, candidate.particulars =
      "-" ++ rest := by
  unfold particulars
  by_cases empty : candidate.variant = ""
  · rw [empty]
    cases candidate.multiProcess with
    | true => exact .inl rfl
    | false => exact .inr ⟨"1proc", rfl⟩
  · rw [variantPart_of_ne empty, String.append_assoc]
    exact .inr ⟨_, rfl⟩

theorem variant_eq_of_particulars_eq
    (same : left.particulars = right.particulars)
    (processes : left.multiProcess = right.multiProcess) :
    left.variant = right.variant := by
  rw [particulars, particulars, processes, String.append_left_inj] at same
  exact variantPart_injective same

theorem variant_eq_marked_of_particulars_eq
    (same : left.particulars = right.particulars)
    (multiple : left.multiProcess = true)
    (single : right.multiProcess = false) :
    left.variant = marked right.variant := by
  apply variantPart_injective
  rw [particulars, particulars, multiple, single] at same
  rw [variantPart_marked, ← String.append_empty (s := variantPart left.variant)]
  exact same

/-- Whether a part of one candidate takes over what are separate parts of
another one. -/
inductive Absorbs (left right : Candidate) : Prop
  /-- The platform takes over the beginning of what the other name says after
  its platform. -/
  | platform (inner : String)
    (goesOn : left.platform = right.platform ++ ("-" ++ inner))
      (same : right.particulars = "-" ++ inner ++ left.particulars)
  /-- The variant takes over the mark of a single process. -/
  | variant (same : left.platform = right.platform)
    (multiple : left.multiProcess = true)
      (single : right.multiProcess = false)
        (goesOn : left.variant = marked right.variant)

/-- Whether a part of one of two candidates takes over separate parts of the
other. -/
def Clash (left right : Candidate) : Prop :=
  Absorbs left right ∨ Absorbs right left

theorem Absorbs.configuration_eq (absorbs : Absorbs left right) :
    left.configuration = right.configuration := by
  rw [Candidate.configuration_eq, Candidate.configuration_eq]
  cases absorbs with
  | platform inner goesOn same => rw [goesOn, same, String.append_assoc]
  | variant same multiple single goesOn =>
      rw [same, particulars, particulars, multiple, single, goesOn,
        variantPart_marked]
      exact congrArg _ String.append_empty

theorem Absorbs.processes_ne (absorbs : Absorbs left right)
    (platform : left.platform = right.platform) :
    left.multiProcess ≠ right.multiProcess := by
  cases absorbs with
  | platform inner goesOn _ =>
      exact (Text.append_hyphen_ne _ inner (goesOn.symm.trans platform)).elim
  | variant _ multiple single _ =>
      rw [multiple, single]
      exact Bool.false_ne_true.symm

theorem Clash.symm (clash : Clash left right) : Clash right left :=
  Or.symm clash

theorem Clash.configuration_eq (clash : Clash left right) :
    left.configuration = right.configuration := by
  rcases clash with absorbs | absorbs
  · exact absorbs.configuration_eq
  · exact absorbs.configuration_eq.symm

theorem Clash.processes_ne (clash : Clash left right)
    (platform : left.platform = right.platform) :
    left.multiProcess ≠ right.multiProcess := by
  rcases clash with absorbs | absorbs
  · exact absorbs.processes_ne platform
  · exact (absorbs.processes_ne platform.symm).symm

theorem Clash.combination_ne (clash : Clash left right) :
    left.combination ≠ right.combination := by
  intro same
  simp only [combination, Prod.mk.injEq] at same
  obtain ⟨platform, -, processes⟩ := same
  exact clash.processes_ne platform processes

theorem eq_or_clash_of_particulars_eq
    (platform : left.platform = right.platform)
    (same : left.particulars = right.particulars) :
    left.combination = right.combination ∨ Clash left right := by
  by_cases processes : left.multiProcess = right.multiProcess
  · left
    have variant := variant_eq_of_particulars_eq same processes
    rw [combination, combination, platform, variant, processes]
  · right
    cases leftProcesses : left.multiProcess with
    | true =>
        have rightProcesses : right.multiProcess = false := by
          simpa [leftProcesses] using processes
        left
        apply Absorbs.variant platform leftProcesses rightProcesses
        exact variant_eq_marked_of_particulars_eq same leftProcesses
          rightProcesses
    | false =>
        have rightProcesses : right.multiProcess = true := by
          simpa [leftProcesses] using processes
        right
        apply Absorbs.variant platform.symm rightProcesses leftProcesses
        exact variant_eq_marked_of_particulars_eq same.symm rightProcesses
          leftProcesses

theorem absorbs_of_platform_append {extra : String} (nonempty : extra ≠ "")
    (goesOn : left.platform = right.platform ++ extra)
    (same : right.particulars = extra ++ left.particulars) :
    Absorbs left right := by
  obtain ⟨inner, rfl⟩ : ∃ inner, extra = "-" ++ inner := by
    rcases particulars_cases right with nothing | ⟨rest, begins⟩
    · rw [nothing] at same
      exact (nonempty (String.append_eq_empty_iff.mp same.symm).1).elim
    · exact Text.exists_hyphen_append nonempty (begins.symm.trans same)
  exact .platform inner goesOn same

theorem eq_or_clash_of_platform_append {extra : String}
    (goesOn : left.platform = right.platform ++ extra)
    (same : right.particulars = extra ++ left.particulars) :
    left.combination = right.combination ∨ Clash left right := by
  by_cases nothing : extra = ""
  · rw [nothing, String.append_empty] at goesOn
    rw [nothing, String.empty_append] at same
    exact eq_or_clash_of_particulars_eq goesOn same.symm
  · exact .inr (.inl (absorbs_of_platform_append nothing goesOn same))

/-- Candidates with the same name have the same parts, or they clash. -/
theorem configuration_eq_iff :
    left.configuration = right.configuration ↔
      left.combination = right.combination ∨ Clash left right := by
  constructor
  · intro same
    -- One of the platforms begins with the other one and goes on with its
    -- particulars.
    rw [configuration_eq, configuration_eq, Text.append_eq_append_iff] at same
    rcases same with ⟨extra, goesOn, particulars⟩ | ⟨extra, goesOn, particulars⟩
    · exact (eq_or_clash_of_platform_append goesOn particulars).imp Eq.symm
        Clash.symm
    · exact eq_or_clash_of_platform_append goesOn particulars
  · rintro (same | clash)
    · simp only [combination, Prod.mk.injEq] at same
      obtain ⟨platform, variant, processes⟩ := same
      rw [configuration, configuration, platform, variant, processes]
    · exact clash.configuration_eq

theorem faithful_iff_not_clash :
    (left.configuration = right.configuration ↔
      left.combination = right.combination) ↔
      ¬ Clash left right := by
  rw [configuration_eq_iff]
  constructor
  · intro faithful clash
    exact clash.combination_ne (faithful.mp (.inr clash))
  · intro apart
    rw [or_iff_left apart]

end Candidate

namespace Plan

open Candidate (Clash)

variable {targets : Targets} {group : String} {candidate : Candidate}
  {retained : List Candidate} {listed : String × Importance}

/-- Whether a retained candidate runs a group in a configuration with the same
parts. -/
def hasCombination (retained : List Candidate) (group : String)
    (candidate : Candidate) : Bool :=
  retained.any fun kept => kept.runs group &&
    kept.combination == candidate.combination

theorem hasCombination_iff :
    hasCombination retained group candidate = true ↔
      ∃ kept ∈ retained, kept.runs group = true ∧
        kept.combination = candidate.combination := by
  simp only [hasCombination, List.any_eq_true, Bool.and_eq_true, beq_iff_eq]

theorem covers_iff_exists :
    covers retained group candidate.configuration = true ↔
      ∃ kept ∈ retained, kept.runs group = true ∧
        kept.configuration = candidate.configuration := by
  simp only [covers, Candidate.runs, List.any_eq_true, Bool.and_eq_true,
    beq_iff_eq, and_comm]

/-- A configuration passes for covered because of retained candidates with the
same parts and of retained candidates that clash. -/
theorem covers_iff_combination_or_clash :
    covers retained group candidate.configuration = true ↔
      hasCombination retained group candidate = true ∨
        ∃ kept ∈ retained, kept.runs group = true ∧ Clash kept candidate := by
  rw [covers_iff_exists, hasCombination_iff]
  simp only [Candidate.configuration_eq_iff, and_or_left, exists_or]

theorem limit_eq_iff :
    limit targets retained candidate.configuration listed =
        targets.count listed.2 +
          (if hasCombination retained listed.1 candidate then
      0 else targets.unseen) ↔
      targets.unseen = 0 ∨ hasCombination retained listed.1 candidate = true ∨
        ∀ kept ∈ retained, kept.runs listed.1 = true →
          ¬ Clash kept candidate := by
  have covered : covers retained listed.1 candidate.configuration = true ↔ _ :=
    covers_iff_combination_or_clash
  rw [limit, UInt64.add_right_inj]
  by_cases same : hasCombination retained listed.1 candidate = true
  · simp only [covered, same, true_or, or_true, if_true]
  · by_cases clash : ∃ kept ∈ retained, kept.runs listed.1 = true ∧
      Clash kept candidate
    · have notApart : ¬ ∀ kept ∈ retained, kept.runs listed.1 = true →
          ¬ Clash kept candidate := by
        intro apart
        obtain ⟨kept, member, runs, clashes⟩ := clash
        exact apart kept member runs clashes
      rw [if_pos (covered.mpr (.inr clash)), if_neg same]
      simp only [same, notApart, or_false, Bool.false_eq_true]
      exact eq_comm
    · have apart : ∀ kept ∈ retained, kept.runs listed.1 = true →
          ¬ Clash kept candidate :=
        fun kept member runs clashes => clash ⟨kept, member, runs, clashes⟩
      have uncovered : ¬ covers retained listed.1 candidate.configuration =
          true := by
        rw [covered]
        exact not_or.mpr ⟨same, clash⟩
      rw [if_neg uncovered, if_neg same]
      exact iff_of_true rfl (.inr (.inr apart))

/-- The name of a configuration tells two candidates apart by what their tasks
run exactly if they do not clash.  At each place of a walk the room for new
configurations goes by what has been retained of the group exactly if there is
no such room, if the same combination has been retained, or if no retained
candidate of the group clashes. -/
theorem configuration_identifies (importance : Table String Importance) :
    (∀ first second left right, Candidate.ofTask? importance first = some left →
      Candidate.ofTask? importance second = some right →
      ((left.configuration = right.configuration ↔
          first.attributes.RunAlike second.attributes) ↔ ¬ Clash left right)) ∧
    ∀ tasks targets front candidate back,
      candidates tasks importance = front ++ candidate :: back →
      ∀ listed ∈ candidate.groups,
        let retained := walk targets [] front
        (limit targets retained candidate.configuration listed =
            targets.count listed.2 +
              (if hasCombination retained listed.1 candidate then
      0 else targets.unseen) ↔
          targets.unseen = 0 ∨
          hasCombination retained listed.1 candidate = true ∨
            ∀ kept ∈ retained, kept.runs listed.1 = true →
              ¬ Clash kept candidate) := by
  constructor
  · intro first second left right madeLeft madeRight
    rw [← Candidate.combination_eq_iff madeLeft madeRight]
    exact Candidate.faithful_iff_not_clash
  · intro tasks targets front candidate back _ listed _ retained
    exact limit_eq_iff

/-- A task that runs one group on some platform in some variant. -/
def variantRunner (label platform : String) (variant : Option String) :
    Task where
  label := label
  attributes :=
    { manifests := some ["group"], platform := some platform, variant }

/-- The candidate that such a task makes when its group is of low importance. -/
def variantCandidate (label platform variant : String) : Candidate where
  label := label
  platform := platform
  variant := variant
  multiProcess := true
  groups := [("group", .low)]

/-- A variant of a platform is told apart from the platform without it, and has
room of its own after it. -/
theorem configuration_identifies_of_variant :
    let importance := Table.ofList [("group", Importance.low)]
    let first := variantRunner "a" "linux" none
    let second := variantRunner "b" "linux" (some "asan")
    let left := variantCandidate "a" "linux" ""
    let right := variantCandidate "b" "linux" "asan"
    ¬ Clash left right ∧ left.configuration ≠ right.configuration ∧
      candidates [first, second] importance = [left] ++ right :: [] ∧
      limit {} (walk {} [] [left]) right.configuration ("group", .low) = 2 := by
  intro importance first second left right
  have apart : ¬ Clash left right := fun clash => clash.processes_ne rfl rfl
  have made : [first, second].filterMap (Candidate.ofTask? importance) =
      [left, right] := by decide
  have walked : candidates [first, second] importance =
      [left] ++ right :: [] := by
    rw [candidates, made]
    exact List.mergeSort_of_pairwise (by decide)
  obtain ⟨names, places⟩ := configuration_identifies importance
  refine ⟨apart, ?_, walked, ?_⟩
  · intro same
    have alike := ((names first second left right rfl rfl).mpr apart).mp same
    exact absurd alike.2.1 (by decide)
  · have room := places [first, second] {} [left] right [] walked
      ("group", .low) (by decide)
    apply room.mpr
    right
    right
    intro kept member _
    have same : kept = left := by
      have early := (walk_sublist {} [left]).subset member
      exact List.mem_singleton.mp early
    rw [same]
    exact apart

/-- The platform `linux-asan` and the variant `asan` of the platform `linux`
make the same name.  So a task of the variant has no room of its own after one
of that platform and is removed, although its combination has not been
retained. -/
theorem limit_refuses_new_combination :
    let importance := Table.ofList [("group", Importance.low)]
    let first := variantRunner "a" "linux-asan" none
    let second := variantRunner "b" "linux" (some "asan")
    ∃ left right, Candidate.ofTask? importance first = some left ∧
      Candidate.ofTask? importance second = some right ∧
      left.configuration = right.configuration ∧
      ¬ first.attributes.RunAlike second.attributes ∧
      candidates [first, second] importance = [left] ++ right :: [] ∧
      hasCombination (walk {} [] [left]) "group" right = false ∧
      limit {} (walk {} [] [left]) right.configuration ("group", .low) = 1 ∧
      (compute [first, second] importance {}).removes "b" = true := by
  intro importance first second
  let left := variantCandidate "a" "linux-asan" ""
  let right := variantCandidate "b" "linux" "asan"
  have made : [first, second].filterMap (Candidate.ofTask? importance) =
      [left, right] := by decide
  have walked : candidates [first, second] importance =
      [left] ++ right :: [] := by
    rw [candidates, made]
    exact List.mergeSort_of_pairwise (by decide)
  have removed : (compute [first, second] importance {}).removes "b" =
      true := by
    rw [removes_compute_iff, walked]
    decide
  have different : ¬ first.attributes.RunAlike second.attributes := by
    intro alike
    exact absurd alike.1 (by decide)
  exact ⟨left, right, rfl, rfl, by decide, different,
    walked, by decide, by decide, removed⟩

end Plan

end TaskSieve
