import TaskSieve.Proofs.Text.Splitting

/-!
# Going up from a path

The levels of a path are what is reached by taking away its last component
again and again, until nothing is left to take away.  For a directory that is
given by the names on the way from the root, these are the directories on that
way, and the last of them is the root.
-/

namespace TaskSieve

namespace Path

/-- A path without its last components, of which so many are taken away. -/
def above? : Nat → String → Option String
  | 0, path => some path
  | count + 1, path => (parent? path).bind (above? count)

variable {path segment first : String} {back above : List String}

theorem slash_not_mem_of_mem_segments (member : segment ∈ segments path) :
    '/' ∉ segment.toList := by
  obtain ⟨piece, inPieces, rfl⟩ := List.mem_map.mp member
  intro slash
  rw [String.toList_ofList] at slash
  simpa using Text.not_of_mem_splitList inPieces slash

/-- The segments of the path that is made of some. -/
theorem segments_ofBackwards (solid : ∀ segment ∈ back, '/' ∉ segment.toList)
    (nonempty : back ≠ []) (notRoot : back ≠ [""]) :
    segments (ofBackwards back) = back.reverse := by
  have joined : (ofBackwards back).toList =
      ['/'].intercalate (back.reverse.map String.toList) := by
    unfold ofBackwards
    split
    · exact (notRoot rfl).elim
    · rw [String.toList_intercalate]
      rfl
  rw [segments_eq, joined, List.splitOn_intercalate]
  · simp
  · simpa using solid
  · simpa using nonempty

/-! ### What is left out at the end of a path -/

theorem ancestorsOf_cons_cons (segment first : String) (above : List String) :
    ancestorsOf (segment :: first :: above) =
      if isIdle segment then ancestorsOf (first :: above)
      else
        ofBackwards (trimmed (first :: above)) ::
          ancestorsOf (first :: above) := rfl

theorem trimmed_suffix (back : List String) : trimmed back <:+ back := by
  fun_induction trimmed back with
  | case1 => exact List.suffix_rfl
  | case2 first => exact List.suffix_rfl
  | case3 segment above _ idle induction =>
      exact induction.trans (List.suffix_cons _ _)
  | case4 segment above _ solid => exact List.suffix_rfl

theorem not_isIdle_of_trimmed
    (ends : trimmed back = segment :: first :: above) :
    isIdle segment = false := by
  fun_induction trimmed back with
  | case1 => cases ends
  | case2 only => cases ends
  | case3 other rest _ idle induction => exact induction ends
  | case4 other rest _ solid =>
      cases ends
      simpa using solid

theorem ancestorsOf_trimmed (back : List String) :
    ancestorsOf (trimmed back) = ancestorsOf back := by
  fun_induction trimmed back with
  | case1 => rfl
  | case2 first => rfl
  | case3 segment above long idle induction =>
      rw [induction]
      cases above with
      | nil => exact (long rfl).elim
      | cons first rest => rw [ancestorsOf_cons_cons, if_pos idle]
  | case4 segment above long solid => rfl

theorem ancestorsOf_segments_ofBackwards
    (solid : ∀ segment ∈ back, '/' ∉ segment.toList) :
    ancestorsOf (segments (ofBackwards back)).reverse = ancestorsOf back := by
  by_cases empty : back = []
  · subst empty
    decide
  by_cases root : back = [""]
  · subst root
    decide
  rw [segments_ofBackwards solid empty root, List.reverse_reverse]

theorem parent?_of_trimmed
    (ends : trimmed (segments path).reverse = segment :: first :: above) :
    parent? path = some (ofBackwards (trimmed (first :: above))) := by
  rw [parent?, ends]

/-- The levels of a path are the path and the levels of its parent. -/
theorem levels_eq (path : String) :
    levels path = path :: match parent? path with
      | none => []
      | some up => levels up := by
  have solid : ∀ segment ∈ trimmed (segments path).reverse,
      '/' ∉ segment.toList := by
    intro segment member
    have kept := (trimmed_suffix _).subset member
    exact slash_not_mem_of_mem_segments (List.mem_reverse.mp kept)
  rw [levels, ← ancestorsOf_trimmed, parent?]
  cases ends : trimmed (segments path).reverse with
  | nil => rfl
  | cons segment above =>
      cases above with
      | nil =>
          by_cases root : (segment == "") = true
          · simp [ancestorsOf, root]
          · have empty : levels "" = [""] := by decide
            simp [ancestorsOf, root, empty]
      | cons first above =>
          have solidAbove : ∀ segment ∈ trimmed (first :: above),
              '/' ∉ segment.toList := by
            intro segment member
            apply solid
            rw [ends]
            exact List.mem_cons_of_mem _ ((trimmed_suffix _).subset member)
          have notIdle : ¬ isIdle segment = true := by
            simp [not_isIdle_of_trimmed ends]
          rw [ancestorsOf_cons_cons, if_neg notIdle]
          simp only [levels, ancestorsOf_segments_ofBackwards solidAbove,
            ancestorsOf_trimmed]

theorem getElem?_levels (count : Nat) (path : String) :
    (levels path)[count]? = above? count path := by
  induction count generalizing path with
  | zero => rw [levels_eq, List.getElem?_cons_zero, above?]
  | succ count induction =>
      rw [levels_eq, List.getElem?_cons_succ, above?]
      cases parent? path with
      | none => rfl
      | some up => exact induction up

/-- Going up from a path comes to an end. -/
theorem above?_length_levels (path : String) :
    above? (levels path).length path = none := by
  rw [← getElem?_levels, List.getElem?_length]

/-! ### Directories by the names on the way from the root -/

/-- A text that leads somewhere as a part of a path. -/
structure IsComponent (name : String) : Prop where
  solid : '/' ∉ name.toList
  leads : isIdle name = false

variable {names : List String} {name : String}

/-- The path over names from the root is that over an empty first segment and
the names. -/
theorem ofBackwards_root (names : List String) :
    ofBackwards (names.reverse ++ [""]) = ofSegments names := by
  cases names with
  | nil => rfl
  | cons name rest =>
      have nonempty : name :: rest ≠ [] := List.cons_ne_nil _ _
      rw [ofBackwards]
      · simp only [List.reverse_append, List.reverse_reverse,
          List.reverse_singleton, List.singleton_append]
        rw [String.intercalate_cons_of_ne_nil nonempty, String.empty_append,
          ofSegments]
      · intro isRoot
        have lengths := congrArg List.length isRoot
        simp at lengths

theorem slash_not_mem_of_proper (proper : ∀ name ∈ names, IsComponent name) :
    ∀ segment ∈ names.reverse ++ [""], '/' ∉ segment.toList := by
  intro segment member
  rcases List.mem_append.mp member with isName | isRoot
  · exact (proper segment (List.mem_reverse.mp isName)).solid
  · rw [List.mem_singleton.mp isRoot]
    simp

theorem trimmed_backwards (proper : ∀ name ∈ names, IsComponent name) :
    trimmed (names.reverse ++ [""]) = names.reverse ++ [""] := by
  cases backwards : names.reverse with
  | nil => rfl
  | cons last front =>
      have leads : isIdle last = false := by
        apply (proper last _).leads
        rw [← List.mem_reverse, backwards]
        exact List.mem_cons_self
      cases front with
      | nil => simp [trimmed, leads]
      | cons other front => simp [trimmed, leads]

theorem trimmed_segments_ofSegments
    (proper : ∀ name ∈ names, IsComponent name) :
    trimmed (segments (ofSegments names)).reverse = names.reverse ++ [""] := by
  by_cases empty : names = []
  · subst empty
    decide
  · rw [← ofBackwards_root,
      segments_ofBackwards (slash_not_mem_of_proper proper) (by simp)
      (by simpa using empty), List.reverse_reverse, trimmed_backwards proper]

theorem parent?_root : parent? (ofSegments []) = none := by decide

theorem parent?_ofSegments
    (proper : ∀ other ∈ names ++ [name], IsComponent other) :
    parent? (ofSegments (names ++ [name])) = some (ofSegments names) := by
  have properFront : ∀ other ∈ names, IsComponent other :=
    fun other member => proper other (List.mem_append_left _ member)
  have ends : trimmed (segments (ofSegments (names ++ [name]))).reverse =
      name :: (names.reverse ++ [""]) := by
    rw [trimmed_segments_ofSegments proper]
    simp
  obtain ⟨first, above, backwards⟩ :
      ∃ first above, names.reverse ++ [""] = first :: above :=
    List.exists_cons_of_ne_nil (by simp)
  rw [backwards] at ends
  rw [parent?_of_trimmed ends, ← backwards, trimmed_backwards properFront,
    ofBackwards_root]

/-- The levels above a directory are those over fewer of the names on the way to
it. -/
theorem above?_ofSegments (proper : ∀ name ∈ names, IsComponent name)
    (count : Nat) :
    above? count (ofSegments names) =
      if count ≤ names.length then
        some (ofSegments (names.take (names.length - count)))
      else none := by
  induction count generalizing names with
  | zero => simp [above?]
  | succ count induction =>
      rw [above?]
      rcases List.eq_nil_or_concat' names with rfl | ⟨front, last, rfl⟩
      · rw [parent?_root]
        simp
      · have properFront : ∀ other ∈ front, IsComponent other :=
          fun other member => proper other (List.mem_append_left _ member)
        rw [parent?_ofSegments proper, Option.bind_some, induction properFront]
        have length : (front ++ [last]).length - (count + 1) =
            front.length - count := by simp
        rw [length, List.take_append_of_le_length (Nat.sub_le _ _)]
        simp

theorem ofSegments_append_singleton (nonempty : names ≠ []) (name : String) :
    ofSegments (names ++ [name]) = ofSegments names ++ "/" ++ name := by
  rw [ofSegments, ofSegments,
    String.intercalate_append_of_ne_nil nonempty (List.cons_ne_nil _ _),
    String.intercalate_singleton]
  simp only [String.append_assoc]

/-- The path of a directory other than the root does not end with a slash. -/
theorem getLast?_ofSegments
    (proper : ∀ other ∈ names ++ [name], IsComponent other) :
    (ofSegments (names ++ [name])).toList.getLast? ≠ some '/' := by
  obtain ⟨solid, leads⟩ := proper name (by simp)
  have ending : ∃ front : String, ofSegments (names ++ [name]) =
      front ++ name := by
    by_cases empty : names = []
    · exact ⟨"/", by rw [empty, ofSegments, List.nil_append,
          String.intercalate_singleton]⟩
    · exact ⟨_, ofSegments_append_singleton empty name⟩
  obtain ⟨front, whole⟩ := ending
  cases letters : name.toList.getLast? with
  | none =>
      have empty : name = "" := by simpa using letters
      simp [isIdle, empty] at leads
  | some last =>
      rw [whole, String.toList_append, List.getLast?_append, letters,
        Option.some_or]
      rintro ⟨⟩
      exact solid (List.mem_of_getLast? letters)

/-- What has a name in a directory is reached over one more name. -/
theorem join_ofSegments
    (proper : ∀ other ∈ names ++ [name], IsComponent other) :
    join (ofSegments names) name = ofSegments (names ++ [name]) := by
  have relative : isAbsolute name = false := by
    rw [isAbsolute, beq_eq_false_iff_ne]
    intro starts
    exact (proper name (by simp)).solid (List.mem_of_head? starts)
  rw [join, relative, if_neg Bool.false_ne_true]
  rcases List.eq_nil_or_concat' names with rfl | ⟨front, last, rfl⟩
  · rfl
  · have properFront : ∀ other ∈ front ++ [last], IsComponent other :=
      fun other member => proper other (List.mem_append_left _ member)
    have notEmpty : (ofSegments (front ++ [last])).isEmpty = false := by
      simp [ofSegments]
    have noSlash := getLast?_ofSegments properFront
    have nonempty : front ++ [last] ≠ [] := by simp
    rw [if_neg (by simpa [notEmpty] using noSlash),
      ofSegments_append_singleton nonempty name]

end Path

end TaskSieve
