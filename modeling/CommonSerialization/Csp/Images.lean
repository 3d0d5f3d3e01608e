import CommonSerialization.Csp.Types
import CommonSerialization.Library.Chunks

namespace CommonSerialization.Csp

open Chunks

/-! Object representations of plain types. -/

theorem ofFn_eq_map_range (length : Nat) (element : Nat → α) :
    List.ofFn (fun index : Fin length => element index) =
      (List.range length).map element := by
  apply List.ext_getElem <;> simp

mutual
theorem Ty.length_image (platform : Platform) : (type : Ty P) →
    type.plain → (object : type.Obj) →
      (type.image platform object).length = type.sizeof
  | .scalar type, _, object => by
      simp [Ty.image, Ty.sizeof]
  | .array element length, plain, object => by
      have sized := Ty.length_image platform element plain
      simp only [Ty.image, Ty.sizeof]
      rw [length_flatMap (fun object _ => sized object), List.length_ofFn]
  | .struct decl fields, plain, object => by
      simp [Ty.image, Ty.sizeof, Fields.length_image platform fields plain]

theorem Fields.length_image (platform : Platform) : (fields : Fields P) →
    fields.plain → (objects : fields.Objs) →
      (fields.image platform objects).length = fields.sizeof
  | .nil, _, _ => rfl
  | .cons padding field rest, plain, objects => by
      simp only [Fields.plain, Bool.and_eq_true] at plain
      simp [Fields.image, Fields.sizeof,
        Ty.length_image platform field plain.1,
        Fields.length_image platform rest plain.2, Nat.add_assoc]
end

private theorem ofFn_getD_drop (octets : List UInt8) (start count : Nat)
    (enough : start + count ≤ octets.length) :
    List.ofFn (fun index : Fin count => octets.getD (start + index) 0) =
      (octets.drop start).take count := by
  apply List.ext_getElem
  · simp
    omega
  · intro index left _
    have bound : index < count := by simpa using left
    have inside : start + index < octets.length := by omega
    simp [inside]

mutual
theorem Ty.image_ofImage (platform : Platform) : (type : Ty P) →
    type.plain → (octets : List UInt8) → type.sizeof ≤ octets.length →
      type.image platform (type.ofImage platform octets) =
        octets.take type.sizeof
  | .scalar type, _, octets, enough => by
      simp only [Ty.sizeof] at enough
      simp only [Ty.image, Ty.ofImage, Ty.sizeof]
      exact Platform.store_load _ _ _ (by simpa using enough)
  | .array element length, plain, octets, enough => by
      simp only [Ty.sizeof] at enough
      have covers := Ty.image_ofImage platform element plain
      simp only [Ty.image, Ty.ofImage, Ty.sizeof]
      rw [ofFn_eq_map_range length fun index =>
        element.ofImage platform (octets.drop (element.sizeof * index))]
      exact flatMap_windows covers length octets enough
  | .struct decl fields, plain, octets, enough => by
      simp only [Ty.sizeof] at enough
      have front := Fields.image_ofImage platform fields plain octets (by omega)
      have tail := ofFn_getD_drop octets fields.sizeof decl.tailPadding enough
      simp only [Ty.image, Ty.ofImage, Ty.sizeof, front, tail]
      rw [List.take_add]

theorem Fields.image_ofImage (platform : Platform) : (fields : Fields P) →
    fields.plain → (octets : List UInt8) → fields.sizeof ≤ octets.length →
      fields.image platform (fields.ofImage platform octets) =
        octets.take fields.sizeof
  | .nil, _, _, _ => rfl
  | .cons padding field rest, plain, octets, enough => by
      simp only [Fields.plain, Bool.and_eq_true] at plain
      simp only [Fields.sizeof] at enough
      have before := ofFn_getD_drop octets 0 padding (by omega)
      have object := Ty.image_ofImage platform field plain.1
        (octets.drop padding) (by rw [List.length_drop]; omega)
      have others := Fields.image_ofImage platform rest plain.2
        (octets.drop (padding + field.sizeof))
        (by rw [List.length_drop]; omega)
      simp only [Nat.zero_add, List.drop_zero] at before
      simp only [Fields.image, Fields.ofImage, Fields.sizeof, before, object,
        others]
      rw [List.take_add, List.take_add]
end

mutual
theorem Ty.valueOf_eq_of_image_eq (platform : Platform) : (type : Ty P) →
    type.plain → (first second : type.Obj) →
      type.image platform first = type.image platform second →
        type.valueOf first = type.valueOf second
  | .scalar type, _, first, second, equality => by
      have loaded := congrArg (platform.load type.size) equality
      simpa only [Ty.image, Ty.valueOf, Platform.load_store] using loaded
  | .array element length, plain, first, second, equality => by
      have sized := Ty.length_image platform element plain
      have pieces := forall₂_of_flatMap_eq sized sized (by simp) equality
      funext index
      apply Ty.valueOf_eq_of_image_eq platform element plain
      have piece := pieces.get (by simp) (by simp : index.val < _)
      simpa using piece
  | .struct decl fields, plain, first, second, equality => by
      have sized := Fields.length_image platform fields plain
      have parts := List.append_inj equality (by rw [sized, sized])
      exact Fields.valuesOf_eq_of_image_eq platform fields plain _ _ parts.1

theorem Fields.valuesOf_eq_of_image_eq (platform : Platform) :
    (fields : Fields P) → fields.plain → (first second : fields.Objs) →
      fields.image platform first = fields.image platform second →
        fields.valuesOf first = fields.valuesOf second
  | .nil, _, _, _, _ => rfl
  | .cons padding field rest, plain, first, second, equality => by
      simp only [Fields.plain, Bool.and_eq_true] at plain
      have sized := Ty.length_image platform field plain.1
      have outer := List.append_inj equality (by simp [sized])
      have inner := List.append_inj outer.1 (by simp)
      simp only [Fields.valuesOf,
        Ty.valueOf_eq_of_image_eq platform field plain.1 _ _ inner.2,
        Fields.valuesOf_eq_of_image_eq platform rest plain.2 _ _ outer.2]
end

end CommonSerialization.Csp
