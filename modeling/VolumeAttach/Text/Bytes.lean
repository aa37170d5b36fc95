/-
Module: VolumeAttach.Text.Bytes
Purpose: Texts as bytes.
Main exports: Bytes, encode, decode?, encode_append, decode?_eq_some_iff, encode_inj,
  mapM_decode?_eq_some_iff
-/

namespace VolumeAttach.Text

/-- A byte string. -/
abbrev Bytes := List UInt8

/-- The UTF-8 form of a text. -/
def encode (s : String) : Bytes := s.toUTF8.data.toList

/-- The text with a given UTF-8 form, if the bytes are one. -/
def decode? (bytes : Bytes) : Option String := String.fromUTF8? ⟨bytes.toArray⟩

/-- Texts that stand one behind the other are written one behind the other. -/
@[simp] theorem encode_append (s t : String) : encode (s ++ t) = encode s ++ encode t := by
  simp [encode]

/-- Bytes are read as the one text that is written as these bytes. -/
theorem decode?_eq_some_iff {bytes : Bytes} {s : String} :
    decode? bytes = some s ↔ bytes = encode s := by
  unfold decode? String.fromUTF8? encode
  constructor
  · intro h
    split at h
    · obtain rfl := Option.some.inj h
      rfl
    · cases h
  · rintro rfl
    exact dif_pos s.isValidUTF8

/-- Two texts have two UTF-8 forms. -/
theorem encode_inj {s t : String} : encode s = encode t ↔ s = t := by
  constructor
  · intro same
    have first : decode? (encode s) = some s := decode?_eq_some_iff.mpr rfl
    rw [same, decode?_eq_some_iff.mpr rfl] at first
    exact (Option.some.inj first).symm
  · rintro rfl
    rfl

/-- Several texts are read one by one. -/
theorem mapM_decode?_eq_some_iff {files : List Bytes} {texts : List String} :
    files.mapM decode? = some texts ↔ files = texts.map encode := by
  induction files generalizing texts with
  | nil => cases texts <;> simp
  | cons file rest ih =>
      rw [List.mapM_cons]
      constructor
      · intro read
        obtain ⟨first, here, others⟩ := Option.bind_eq_some_iff.mp read
        obtain ⟨last, behind, same⟩ := Option.bind_eq_some_iff.mp others
        obtain rfl := Option.some.inj same
        rw [List.map_cons, ← decode?_eq_some_iff.mp here, ← ih.mp behind]
      · intro same
        cases texts with
        | nil => cases same
        | cons first last =>
            obtain ⟨rfl, rfl⟩ := List.cons.inj same
            rw [decode?_eq_some_iff.mpr rfl, ih.mpr rfl]
            rfl

end VolumeAttach.Text
