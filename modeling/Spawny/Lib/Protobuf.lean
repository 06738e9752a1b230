import Spawny.Lib.Wire
import Mathlib.Data.Nat.Notation

/-! # Protocol buffer fields

The two wire types that messages with numbers, texts and submessages need: a varint, and bytes with
their length in front. A field starts with a varint for its number and its wire type, so it says
where it ends (`rawCode`).

* `readVarint_varint`, `readVarint_cut`: a varint is read back, and nothing is read from a part of
  it;
* `rawCode`: the code for single fields, `FieldCode.comap` carries it over to other types. -/

namespace Spawny.Lib.Protobuf

open Spawny.Lib.Wire

/-! ### Varints -/

/-- Seven bits a byte, lowest first, at most `fuel` bytes before the last one. -/
def varintUpTo : ℕ → ℕ → List UInt8
  | 0, n => [UInt8.ofNat n]
  | fuel + 1, n =>
    if n < 128 then [UInt8.ofNat n]
    else UInt8.ofNat (n % 128 + 128) :: varintUpTo fuel (n / 128)

/-- The varint of `n`. -/
def varint (n : ℕ) : List UInt8 := varintUpTo n n

/-- The number at the start of the bytes, and what follows it. -/
def readVarint : List UInt8 → Option (ℕ × List UInt8)
  | [] => none
  | b :: bs =>
    if b.toNat < 128 then some (b.toNat, bs)
    else (readVarint bs).map fun r => (b.toNat - 128 + 128 * r.1, r.2)

theorem readVarint_varintUpTo : ∀ (fuel n : ℕ) (rest : List UInt8), n ≤ fuel →
    readVarint (varintUpTo fuel n ++ rest) = some (n, rest)
  | 0, n, rest, h => by
    obtain rfl := Nat.le_zero.mp h
    rfl
  | fuel + 1, n, rest, h => by
    unfold varintUpTo
    split_ifs with hn
    · have hb : (UInt8.ofNat n).toNat = n := by rw [UInt8.toNat_ofNat']; omega
      simp [readVarint, hb, hn]
    · have hb : (UInt8.ofNat (n % 128 + 128)).toNat = n % 128 + 128 := by
        rw [UInt8.toNat_ofNat']; omega
      have ih := readVarint_varintUpTo fuel (n / 128) rest (by omega)
      rw [List.cons_append, readVarint, hb, if_neg (by omega), ih, Option.map_some]
      refine congrArg some (Prod.ext ?_ rfl)
      dsimp only
      omega

theorem readVarint_varint (n : ℕ) (rest : List UInt8) :
    readVarint (varint n ++ rest) = some (n, rest) := readVarint_varintUpTo n n rest (Nat.le_refl n)

theorem readVarint_cutUpTo : ∀ (fuel n : ℕ) (p q : List UInt8), n ≤ fuel →
    varintUpTo fuel n = p ++ q → q ≠ [] → readVarint p = none
  | _, _, [], _, _, _, _ => rfl
  | 0, n, b :: p, q, _, h, hq => by
    obtain ⟨-, h⟩ := List.cons.inj h
    exact absurd (List.append_eq_nil_iff.mp h.symm).2 hq
  | fuel + 1, n, b :: p, q, hn, h, hq => by
    unfold varintUpTo at h
    split_ifs at h with hlt
    · obtain ⟨-, h⟩ := List.cons.inj h
      exact absurd (List.append_eq_nil_iff.mp h.symm).2 hq
    · obtain ⟨rfl, htail⟩ := List.cons.inj (h.trans (List.cons_append ..))
      have hb : (UInt8.ofNat (n % 128 + 128)).toNat = n % 128 + 128 := by
        rw [UInt8.toNat_ofNat']; omega
      have ih := readVarint_cutUpTo fuel (n / 128) p q (by omega) htail hq
      rw [readVarint, hb, if_neg (by omega), ih, Option.map_none]

theorem readVarint_cut {n : ℕ} {p q : List UInt8} (h : varint n = p ++ q) (hq : q ≠ []) :
    readVarint p = none := readVarint_cutUpTo n n p q (Nat.le_refl n) h hq

theorem varint_ne_nil (n : ℕ) : varint n ≠ [] := by
  intro h
  have := readVarint_varint n []
  rw [h] at this
  cases this

/-! ### Fields -/

/-- A field with its number: a varint or bytes. -/
inductive RawField
  | varint (num n : ℕ)
  | bytes (num : ℕ) (bs : List UInt8)
  deriving DecidableEq, Repr

/-- The number and the wire type of a field. -/
def RawField.tag : RawField → ℕ
  | varint num _ => 8 * num
  | bytes num _ => 8 * num + 2

def RawField.payload : RawField → List UInt8
  | varint _ n => Protobuf.varint n
  | bytes _ bs => Protobuf.varint bs.length ++ bs

/-- Reads what follows the tag. -/
def readPayload (tag : ℕ) (bs : List UInt8) : Option (RawField × List UInt8) :=
  (readVarint bs).bind fun r =>
    if tag % 8 = 0 then some (.varint (tag / 8) r.1, r.2)
    else if tag % 8 = 2 ∧ r.1 ≤ r.2.length then
      some (.bytes (tag / 8) (r.2.take r.1), r.2.drop r.1)
    else none

theorem readPayload_payload (f : RawField) (rest : List UInt8) :
    readPayload f.tag (f.payload ++ rest) = some (f, rest) := by
  unfold readPayload
  cases f with
  | varint num n =>
    rw [RawField.payload, readVarint_varint, Option.bind_some, RawField.tag]
    simp
  | bytes num bs =>
    rw [RawField.payload, List.append_assoc, readVarint_varint, Option.bind_some, RawField.tag,
      if_neg (by omega), if_pos ⟨by omega, by simp⟩]
    simp only [List.take_left', List.drop_left', Option.some.injEq, Prod.mk.injEq, and_true,
      RawField.bytes.injEq]
    omega

theorem readPayload_cut {f : RawField} {p q : List UInt8} (h : f.payload = p ++ q) (hq : q ≠ []) :
    readPayload f.tag p = none := by
  unfold readPayload
  cases f with
  | varint num n => rw [readVarint_cut h hq, Option.bind_none]
  | bytes num bs =>
    rcases List.append_eq_append_iff.mp h with ⟨p', rfl, hbs⟩ | ⟨q', hlen, -⟩
    · have hlen : ¬bs.length ≤ p'.length := by
        have := List.length_pos_of_ne_nil hq
        rw [hbs, List.length_append]
        omega
      rw [readVarint_varint, Option.bind_some, RawField.tag, if_neg (by omega),
        if_neg fun h => hlen h.2]
    · by_cases hq' : q' = []
      · subst hq'
        rw [List.append_nil] at hlen
        have hbs : bs ≠ [] := by
          rintro rfl
          rw [RawField.payload, List.append_nil, hlen] at h
          exact hq (by simpa using h)
        have := List.length_pos_of_ne_nil hbs
        have hread := readVarint_varint bs.length []
        rw [List.append_nil, hlen] at hread
        rw [hread, Option.bind_some, RawField.tag, if_neg (by omega),
          if_neg fun h => absurd h.2 (by simpa using hbs)]
      · rw [readVarint_cut hlen hq', Option.bind_none]

/-- **The code for single fields.** -/
def rawCode : FieldCode RawField where
  enc f := varint f.tag ++ f.payload
  dec bs := (readVarint bs).bind fun r => readPayload r.1 r.2
  enc_ne_nil f := List.append_ne_nil_of_left_ne_nil (varint_ne_nil _) _
  dec_enc f rest := by
    rw [List.append_assoc, readVarint_varint, Option.bind_some, readPayload_payload]
  dec_truncated f p q h _ hq := by
    rcases List.append_eq_append_iff.mp h with ⟨p', rfl, hp⟩ | ⟨q', htag, hq'⟩
    · rw [readVarint_varint, Option.bind_some, readPayload_cut hp hq]
    · by_cases hnil : q' = []
      · subst hnil
        rw [List.append_nil] at htag
        have hread := readVarint_varint f.tag []
        rw [List.append_nil, htag] at hread
        rw [hread, Option.bind_some]
        exact readPayload_cut (p := []) (q := q) (by simpa using hq'.symm) hq
      · rw [readVarint_cut htag hnil, Option.bind_none]

/-- The code for another type of fields, each of which is one field of the old type. -/
def comap {F G : Type*} (C : FieldCode F) (toField : G → F)
    (ofField : F → Option G) (h : ∀ g, ofField (toField g) = some g) : FieldCode G where
  enc g := C.enc (toField g)
  dec bs := (C.dec bs).bind fun r => (ofField r.1).map fun g => (g, r.2)
  enc_ne_nil g := C.enc_ne_nil _
  dec_enc g rest := by rw [C.dec_enc, Option.bind_some, h, Option.map_some]
  dec_truncated g p q hg hp hq := by rw [C.dec_truncated _ p q hg hp hq, Option.bind_none]

end Spawny.Lib.Protobuf
