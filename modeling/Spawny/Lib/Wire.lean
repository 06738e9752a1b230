import Mathlib.Data.List.Basic
import Mathlib.Tactic.Common

/-! # Messages as sequences of self-delimiting fields

A tagged binary format writes a message as a sequence of fields, each of which says where it ends,
and no length of the whole. `FieldCode F` is such a code for the fields `F`: a field is read back
whatever follows it, and a field of which a part is missing is not read at all.

* `decode_encode`: a sequence of whole fields is read back;
* `decode_cut`: a prefix of a sequence of fields is a sequence of whole fields, or is not decoded;
* `exists_groups`: if a stream of fields is cut into pieces that are all decoded, each piece is a
  sequence of whole fields. -/

namespace Spawny.Lib.Wire

/-- **A code for fields**: `enc` writes one field, `dec` reads the first field of a stream. -/
structure FieldCode (F : Type*) where
  enc : F → List UInt8
  dec : List UInt8 → Option (F × List UInt8)
  enc_ne_nil : ∀ f, enc f ≠ []
  dec_enc : ∀ f rest, dec (enc f ++ rest) = some (f, rest)
  dec_truncated : ∀ f p q, enc f = p ++ q → p ≠ [] → q ≠ [] → dec p = none

namespace FieldCode

variable {F : Type*} (C : FieldCode F)

/-- The bytes of a sequence of fields. -/
def encode (fs : List F) : List UInt8 := fs.flatMap C.enc

/-- Reads at most `n` fields up to the end of the bytes. -/
def decodeUpTo : ℕ → List UInt8 → Option (List F)
  | _, [] => some []
  | 0, _ :: _ => none
  | n + 1, b :: bs =>
    match C.dec (b :: bs) with
    | none => none
    | some (f, rest) => (decodeUpTo n rest).map (f :: ·)

/-- The fields of a byte string, if it is a sequence of whole fields. -/
def decode (bs : List UInt8) : Option (List F) := C.decodeUpTo bs.length bs

@[simp] theorem encode_nil : C.encode [] = [] := rfl

@[simp] theorem encode_cons (f : F) (fs : List F) : C.encode (f :: fs) = C.enc f ++ C.encode fs :=
  rfl

theorem encode_append (fs gs : List F) : C.encode (fs ++ gs) = C.encode fs ++ C.encode gs := by
  simp [encode]

theorem length_le_encode (fs : List F) : fs.length ≤ (C.encode fs).length := by
  induction fs with
  | nil => simp
  | cons f fs ih =>
    have := List.length_pos_of_ne_nil (C.enc_ne_nil f)
    simp only [List.length_cons, encode_cons, List.length_append]
    omega

theorem encode_eq_nil {fs : List F} : C.encode fs = [] ↔ fs = [] := by
  constructor
  · intro h
    have := C.length_le_encode fs
    rw [h] at this
    exact List.length_eq_zero_iff.mp (Nat.le_zero.mp this)
  · rintro rfl
    rfl

@[simp] theorem decode_nil : C.decode [] = some [] := rfl

theorem decodeUpTo_cons (n : ℕ) (f : F) (rest : List UInt8) :
    C.decodeUpTo (n + 1) (C.enc f ++ rest) = (C.decodeUpTo n rest).map (f :: ·) := by
  have h := C.dec_enc f rest
  obtain ⟨b, bs, hb⟩ := List.exists_cons_of_ne_nil
    (List.append_ne_nil_of_left_ne_nil (C.enc_ne_nil f) rest)
  rw [hb] at h ⊢
  simp only [decodeUpTo, h]

theorem decodeUpTo_append : ∀ (fs : List F) (n : ℕ) (rest : List UInt8),
    C.decodeUpTo (fs.length + n) (C.encode fs ++ rest) = (C.decodeUpTo n rest).map (fs ++ ·)
  | [], n, rest => by simp
  | f :: fs, n, rest => by
    rw [encode_cons, List.append_assoc, List.length_cons, Nat.add_right_comm, decodeUpTo_cons,
      decodeUpTo_append fs n rest, Option.map_map]
    rfl

/-- **A sequence of whole fields is read back.** -/
theorem decode_encode (fs : List F) : C.decode (C.encode fs) = some fs := by
  obtain ⟨k, hk⟩ := Nat.exists_eq_add_of_le (C.length_le_encode fs)
  have h := C.decodeUpTo_append fs k []
  rw [List.append_nil, ← hk] at h
  rw [decode, h]
  cases k <;> simp [decodeUpTo]

/-- Whole fields followed by a part of one are not decoded. -/
theorem decode_truncated (fs : List F) (f : F) {p q : List UInt8} (hf : C.enc f = p ++ q)
    (hp : p ≠ []) (hq : q ≠ []) : C.decode (C.encode fs ++ p) = none := by
  have hlen : fs.length ≤ (C.encode fs ++ p).length := by
    have := C.length_le_encode fs
    rw [List.length_append]
    omega
  obtain ⟨k, hk⟩ := Nat.exists_eq_add_of_le hlen
  rw [decode, hk, decodeUpTo_append]
  have hdec := C.dec_truncated f p q hf hp hq
  obtain ⟨b, bs, rfl⟩ := List.exists_cons_of_ne_nil hp
  cases k <;> simp [decodeUpTo, hdec]

/-- **Cutting a stream of fields.** A prefix of the bytes of `fs` ends at the end of a field, or it
is not decoded. -/
theorem decode_cut : ∀ (fs : List F) (p q : List UInt8), C.encode fs = p ++ q →
    (∃ fs₁ fs₂, fs = fs₁ ++ fs₂ ∧ p = C.encode fs₁ ∧ q = C.encode fs₂) ∨ C.decode p = none := by
  -- the whole fields before the cut are collected in `gs`
  suffices h : ∀ (fs gs : List F) (p q : List UInt8), C.encode fs = p ++ q →
      (∃ fs₁ fs₂, fs = fs₁ ++ fs₂ ∧ p = C.encode fs₁ ∧ q = C.encode fs₂) ∨
        C.decode (C.encode gs ++ p) = none from fun fs p q hpq => by simpa using h fs [] p q hpq
  intro fs
  induction fs with
  | nil =>
    intro gs p q hpq
    obtain ⟨rfl, rfl⟩ := List.append_eq_nil_iff.mp hpq.symm
    exact Or.inl ⟨[], [], rfl, rfl, rfl⟩
  | cons f fs ih =>
    intro gs p q hpq
    rw [encode_cons] at hpq
    by_cases hp : p = []
    · subst hp
      exact Or.inl ⟨[], f :: fs, rfl, rfl, by simpa using hpq.symm⟩
    rcases List.append_eq_append_iff.mp hpq with ⟨a, rfl, ha⟩ | ⟨c, hc, rfl⟩
    · rcases ih (gs ++ [f]) a q ha with ⟨fs₁, fs₂, rfl, rfl, rfl⟩ | hnone
      · exact Or.inl ⟨f :: fs₁, fs₂, rfl, rfl, rfl⟩
      · refine Or.inr ?_
        rw [encode_append] at hnone
        simpa [List.append_assoc] using hnone
    · by_cases hcn : c = []
      · subst hcn
        rw [List.append_nil] at hc
        exact Or.inl ⟨[f], fs, rfl, by simp [hc], rfl⟩
      · exact Or.inr (C.decode_truncated gs f hc hp hcn)

/-- **Pieces that are all decoded.** A stream of fields is cut between fields, if every piece can be
decoded. -/
theorem exists_groups : ∀ (segs : List (List UInt8)) (fs : List F), segs.flatten = C.encode fs →
    (∀ s ∈ segs, C.decode s ≠ none) →
      ∃ groups : List (List F), groups.flatten = fs ∧ segs = groups.map C.encode
  | [], fs, h, _ => ⟨[], by simpa using (C.encode_eq_nil.mp h.symm).symm, rfl⟩
  | s :: segs, fs, h, hdec => by
    rcases C.decode_cut fs s segs.flatten h.symm with ⟨g, fs', rfl, rfl, hrest⟩ | hnone
    · obtain ⟨groups, rfl, hsegs⟩ :=
        exists_groups segs fs' hrest fun s hs => hdec s (List.mem_cons_of_mem _ hs)
      exact ⟨g :: groups, rfl, by rw [List.map_cons, ← hsegs]⟩
    · exact absurd hnone (hdec s List.mem_cons_self)

end FieldCode

end Spawny.Lib.Wire
