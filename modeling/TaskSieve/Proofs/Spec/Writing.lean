import TaskSieve.Proofs.Datum.Json
import TaskSieve.Spec

/-!
# Writing composition trees down

The constructors of a tree are written under names of their own, and a record
that has one of the names alone offers one choice only.  Therefore a written
tree is read as the same tree, whatever its depth, and also where a composite
has no children.
-/

namespace TaskSieve.Spec

/-- What a record with a single field offers under a name. -/
theorem isOnlyKey_single (key name : String) :
    isOnlyKey [.text key] (.text key) name = (key == name) := by
  cases same : key == name with
  | true => simp [isOnlyKey, isKeyOf, same]
  | false => simp [isOnlyKey, isKeyOf, same]

/-- A record with a single field offers its value under the name of the
field. -/
theorem ofDatum?_single (key : String) (value : Datum) :
    ofDatum? (.record [(key, value)]) =
      (({} : Choices).offer (key == ·) (childrenOf? value)
        (ofDatum? value)).spec? := by
  have offered : isOnlyKey [.text key] (.text key) = (key == ·) :=
    funext (isOnlyKey_single key)
  rw [ofDatum?, List.map_singleton, choicesOfFields, choicesOfFields, offered]

mutual

/-- A written tree is read as it was. -/
theorem ofDatum?_encode : ∀ spec : Spec, ofDatum? spec.encode = some spec
  | .named _ => rfl
  | .any children => by
      rw [encode, ofDatum?_single, childrenOf?, ofItems?_encodeAll children]
      rfl
  | .all children => by
      rw [encode, ofDatum?_single, childrenOf?, ofItems?_encodeAll children]
      rfl
  | .not child => by
      rw [encode, ofDatum?_single, ofDatum?_encode child]
      rfl

/-- Written children are read as they were, also if there are none. -/
theorem ofItems?_encodeAll :
    ∀ children : List Spec, ofItems? (encodeAll children) = some children
  | [] => rfl
  | child :: rest => by
      rw [encodeAll, ofItems?, ofDatum?_encode child, ofItems?_encodeAll rest]

end

mutual

/-- Trees are written in JSON. -/
theorem isJson_encode : ∀ spec : Spec, spec.encode.isJson = true
  | .named _ => rfl
  | .any children => by
      simp [encode, Datum.haveJson, areJson_encodeAll children]
  | .all children => by
      simp [encode, Datum.haveJson, areJson_encodeAll children]
  | .not child => by simp [encode, Datum.haveJson, isJson_encode child]

theorem areJson_encodeAll :
    ∀ children : List Spec, Datum.areJson (encodeAll children) = true
  | [] => rfl
  | child :: rest => by
      rw [encodeAll, Datum.areJson, isJson_encode child, areJson_encodeAll rest,
        Bool.and_self]

end

/-- A reader that follows the levels of a written tree reads the tree. -/
theorem decode_encode {spec : Spec} {levels : Nat}
    (deep : spec.encode.depth ≤ levels) :
    decode levels spec.encode = some spec := by
  rw [decode, if_pos ((Datum.fits_iff_depth_le (isJson_encode spec)).mpr deep),
    ofDatum?_encode]

end TaskSieve.Spec
