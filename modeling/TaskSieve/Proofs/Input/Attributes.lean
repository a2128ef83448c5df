import TaskSieve.Proofs.Datum.Settling
import TaskSieve.Task

/-!
# The attributes of a task

One record holds the known attributes and all others.  Reading takes it apart,
so that no known name is among the extra attributes, and writing puts it
together again.
-/

namespace TaskSieve.Attributes

open Datum Decoder

/-- Extra attributes as they are read: none of them is known, their values are
settled, and a reader takes them. -/
structure Canonical (levels : Nat) (attributes : Attributes) : Prop where
  unknown : ∀ field ∈ attributes.extra.toList, field.1 ∉ names
  settled : ∀ field ∈ attributes.extra.toList, field.2.settle = field.2
  fits : fitsFields levels attributes.extra.toList = true

theorem canonical_default (levels : Nat) : Canonical levels {} :=
  ⟨nofun, nofun, rfl⟩

/-- An extra attribute has the last value that it was given. -/
theorem find?_extraOf (fields : List (String × Datum)) {key : String}
    (unknown : key ∉ names) :
    (extraOf fields).find? key = (lastField? key fields).map settle := by
  have kept : (!names.contains key) = true := by simpa using unknown
  rw [extraOf, find?_ofList_eq_lastField?, lastField?_map,
    lastField?_filter (fun key => !names.contains key) kept]

theorem mem_extraOf {fields : List (String × Datum)} {field : String × Datum}
    (member : field ∈ (extraOf fields).toList) :
    field.1 ∉ names ∧ ∃ value, (field.1, value) ∈ fields ∧
      field.2 = value.settle := by
  obtain ⟨given, there, rfl⟩ := List.mem_map.mp (Table.mem_of_mem_ofList member)
  obtain ⟨inFields, unknown⟩ := List.mem_filter.mp there
  exact ⟨by simpa using unknown, given.2, inFields, rfl⟩

theorem extra_of_decode {levels : Nat} {fields : List (String × Datum)}
    {attributes : Attributes}
    (read : decode levels (.record fields) = some attributes) :
    attributes.extra = extraOf fields ∧
      fitsFields levels (fields.filter fun field => !names.contains field.1) =
        true := by
  rw [decode] at read
  by_cases repeated : repeats names fields = true
  · rw [if_pos repeated] at read
    cases read
  · by_cases fits :
        fitsFields levels (fields.filter fun field => !names.contains field.1) =
          true
    · simp only [if_neg repeated, fits, Bool.not_true, Bool.false_eq_true,
        if_false, Option.bind_eq_bind, Option.bind_eq_some_iff] at read
      obtain ⟨manifests, -, buildType, -, platform, -, variant, -, suite,
        -, multiProcess, -, components, -, built⟩ := read
      cases built
      exact ⟨rfl, fits⟩
    · rw [if_neg repeated, if_pos (by simpa using fits)] at read
      cases read

/-- The attributes that are read are canonical. -/
theorem canonical_of_decode {levels : Nat} {value : Datum}
    {attributes : Attributes} (read : decode levels value = some attributes) :
    attributes.Canonical levels := by
  cases value with
  | record fields =>
      obtain ⟨extra, fits⟩ := extra_of_decode read
      rw [fitsFields_iff] at fits
      refine ⟨?_, ?_, fitsFields_iff.mpr ?_⟩ <;> rw [extra] <;>
        intro field member
      · exact (mem_extraOf member).1
      · obtain ⟨_, value, _, settled⟩ := mem_extraOf member
        rw [settled, settle_settle]
      · obtain ⟨unknown, value, there, settled⟩ := mem_extraOf member
        rw [settled]
        exact fits_settle (fits (field.1, value)
          (List.mem_filter.mpr ⟨there, by simpa using unknown⟩))
  | _ => cases read

theorem isJson_extra_of_decode {levels : Nat} {value : Datum}
    {attributes : Attributes} (json : value.isJson = true)
    (read : decode levels value = some attributes) :
    ∀ field ∈ attributes.extra.toList, field.2.isJson = true := by
  cases value with
  | record fields =>
      intro field member
      rw [(extra_of_decode read).1] at member
      obtain ⟨_, value, there, settled⟩ := mem_extraOf member
      rw [settled]
      exact isJson_settle (haveJson_iff.mp json _ there)
  | _ => cases read

/-- The fields of the known attributes. -/
def knownFields (attributes : Attributes) : List (String × Datum) := [
  ("test_manifests", Datum.ofOption Datum.ofNames attributes.manifests),
  ("build_type", Datum.ofOption .text attributes.buildType),
  ("test_platform", Datum.ofOption .text attributes.platform),
  ("unittest_variant", Datum.ofOption .text attributes.variant),
  ("unittest_suite", Datum.ofOption .text attributes.suite),
  ("e10s", .bool attributes.multiProcess),
  ("schedules", Datum.ofNames attributes.components)]

theorem map_knownFields (attributes : Attributes) :
    (attributes.knownFields.map (·.1)) = names := rfl

theorem encode_eq (attributes : Attributes) :
    attributes.encode =
      .record (attributes.knownFields ++ attributes.extra.toList) := rfl

/-- An extra attribute is written with the value that it has. -/
theorem field?_encode (attributes : Attributes) {key : String}
    (unknown : key ∉ names) :
    attributes.encode.field? key = attributes.extra.find? key := by
  have absent : lastField? key attributes.knownFields = none := by
    apply lastField?_eq_none
    rintro field member rfl
    exact unknown (attributes.map_knownFields ▸ List.mem_map_of_mem member)
  rw [encode_eq, field?, lastField?_append, absent, Option.or_none,
    find?_eq_lastField?]

theorem isJson_encode {attributes : Attributes}
    (json : ∀ field ∈ attributes.extra.toList, field.2.isJson = true) :
    attributes.encode.isJson = true := by
  have known : haveJson attributes.knownFields = true := by
    simp [knownFields, haveJson, isJson_ofOption isJson_text,
      isJson_ofOption isJson_ofNames]
  rw [encode_eq, isJson_record, haveJson_iff]
  intro field member
  rcases List.mem_append.mp member with inKnown | inExtra
  · exact haveJson_iff.mp known field inKnown
  · exact json field inExtra

section Canonical

variable {levels : Nat} {attributes : Attributes}
  (canonical : attributes.Canonical levels)

include canonical

theorem Canonical.keys_nodup :
    ((attributes.knownFields ++ attributes.extra.toList).map (·.1)).Nodup := by
  rw [List.map_append, map_knownFields, List.nodup_append]
  refine ⟨by decide, attributes.extra.keys_nodup, ?_⟩
  rintro name declared key extra rfl
  obtain ⟨field, member, same⟩ := List.mem_map.mp extra
  exact canonical.unknown field member (same ▸ declared)

/-- No known attribute is among the extra ones. -/
theorem Canonical.find?_extra {name : String} (known : name ∈ names) :
    attributes.extra.find? name = none := by
  rw [find?_eq_lastField?]
  apply lastField?_eq_none
  rintro field member rfl
  exact canonical.unknown field member known

theorem Canonical.lastField?_known {name : String} (known : name ∈ names) :
    lastField? name (attributes.knownFields ++ attributes.extra.toList) =
      lastField? name attributes.knownFields := by
  rw [lastField?_append, ← find?_eq_lastField?, canonical.find?_extra known,
    Option.none_or]

theorem Canonical.filter_unknown :
    ((attributes.knownFields ++ attributes.extra.toList).filter fun field =>
      !names.contains field.1) = attributes.extra.toList := by
  have none : (attributes.knownFields.filter fun field =>
      !names.contains field.1) = [] := rfl
  have all :
      (attributes.extra.toList.filter fun field => !names.contains field.1) =
      attributes.extra.toList := by
    rw [List.filter_eq_self]
    intro field member
    simpa using canonical.unknown field member
  rw [List.filter_append, none, all, List.nil_append]

theorem Canonical.extraOf_eq :
    extraOf (attributes.knownFields ++ attributes.extra.toList) =
      attributes.extra := by
  rw [extraOf, canonical.filter_unknown, map_settle canonical.settled,
    Table.ofList_toList]

/-- Canonical attributes are read as they were written. -/
theorem Canonical.decode_encode :
    decode levels attributes.encode = some attributes := by
  have taken := canonical.fits
  rw [← canonical.filter_unknown] at taken
  obtain ⟨fields, written, once, fits, extra, manifests, buildType, platform,
      variant, suite, multiProcess, components⟩ : ∃ fields,
      attributes.encode = .record fields ∧
        repeats names fields = false ∧
        fitsFields levels (fields.filter fun field => !names.contains field.1) =
          true ∧
        extraOf fields = attributes.extra ∧
        lastField? "test_manifests" fields =
          some (ofOption ofNames attributes.manifests) ∧
        lastField? "build_type" fields =
          some (ofOption .text attributes.buildType) ∧
        lastField? "test_platform" fields =
          some (ofOption .text attributes.platform) ∧
        lastField? "unittest_variant" fields =
          some (ofOption .text attributes.variant) ∧
        lastField? "unittest_suite" fields =
          some (ofOption .text attributes.suite) ∧
        lastField? "e10s" fields = some (.bool attributes.multiProcess) ∧
        lastField? "schedules" fields = some (ofNames attributes.components) :=
    ⟨_, encode_eq attributes, repeats_eq_false canonical.keys_nodup, taken,
      canonical.extraOf_eq, canonical.lastField?_known (by decide),
      canonical.lastField?_known (by decide),
      canonical.lastField?_known (by decide), canonical.lastField?_known
        (by decide), canonical.lastField?_known (by decide),
      canonical.lastField?_known (by decide),
      canonical.lastField?_known (by decide)⟩
  rw [written, decode]
  simp only [once, fits, extra, withDefault, manifests, buildType, platform,
    variant, suite, multiProcess, components, optional_names, optional_text,
    bool_bool, list_ofNames, Option.bind_eq_bind, Option.bind_some,
    Bool.not_true, Bool.false_eq_true, if_false]
  rfl

end Canonical

end TaskSieve.Attributes
