import Spawny.Lib.Wire
import Mathlib.Data.Nat.Notation

/-! # Messages on a stream without frames

A message is written as a sequence of fields, and nothing on the stream says where one ends. The
reader takes the stream in pieces and makes a message of the fields of each. A `Format` has a field
that each message has once, in front, and a message is not made of fewer fields than it has.

* `groups_eq_fields`: if groups of fields are read as the messages, they are the messages;
* `unpack_eq_iff`: **pieces of a stream are read as its messages exactly if they are the messages**. -/

namespace Spawny.Lib.Framing

open Spawny.Lib.Wire

/-- **A format**: the fields of a message, and the message that is made of a sequence of fields. -/
structure Format (F M : Type*) where
  fields : M → List F
  assemble : List F → Option M
  isHead : F → Bool
  exists_head : ∀ m, ∃ f fs, fields m = f :: fs ∧ isHead f = true
  countP_fields : ∀ m, (fields m).countP isHead = 1
  head_of_assemble : ∀ fs m, assemble fs = some m → ∃ f ∈ fs, isHead f = true
  assemble_fields : ∀ m, assemble (fields m) = some m
  length_le : ∀ fs m, assemble fs = some m → (fields m).length ≤ fs.length

namespace Format

variable {F M : Type*} (T : Format F M)

theorem countP_flatMap (ms : List M) : (ms.flatMap T.fields).countP T.isHead = ms.length := by
  induction ms with
  | nil => rfl
  | cons m ms ih =>
    rw [List.flatMap_cons, List.countP_append, ih, T.countP_fields, List.length_cons, Nat.add_comm]

theorem length_le_countP {groups : List (List F)} (h : ∀ g ∈ groups, ∃ f ∈ g, T.isHead f = true) :
    groups.length ≤ groups.flatten.countP T.isHead := by
  induction groups with
  | nil => exact Nat.zero_le _
  | cons g groups ih =>
    have hg := List.countP_pos_iff.mpr (h g List.mem_cons_self)
    have hgs := ih fun g' hg' => h g' (List.mem_cons_of_mem _ hg')
    rw [List.length_cons, List.flatten_cons, List.countP_append]
    omega

/-- No part of a message is read as the whole. -/
theorem eq_nil_of_cut {m : M} {g e : List F} (hcut : T.fields m = g ++ e)
    (h : T.assemble g = some m) : e = [] := by
  have hlen := T.length_le g m h
  rw [hcut, List.length_append] at hlen
  exact List.length_eq_zero_iff.mp (by omega)

/-- Every group that is read as a message has a head. -/
theorem exists_head_of_map {groups : List (List F)} {ms : List M}
    (h : groups.map T.assemble = ms.map some) : ∀ g ∈ groups, ∃ f ∈ g, T.isHead f = true := by
  intro g hg
  have hmem : T.assemble g ∈ ms.map some := h ▸ List.mem_map_of_mem hg
  obtain ⟨m, -, hm⟩ := List.mem_map.mp hmem
  exact T.head_of_assemble g m hm.symm

/-- **Groups of fields are messages**, if each is read as the message at its place. -/
theorem groups_eq_fields : ∀ (ms : List M) (groups : List (List F)),
    groups.flatten = ms.flatMap T.fields → groups.map T.assemble = ms.map some →
      groups = ms.map T.fields
  | [], [], _, _ => rfl
  | [], _ :: _, _, h => by simp at h
  | _ :: _, [], _, h => by simp at h
  | m :: ms, g :: groups, hflat, hread => by
    rw [List.flatten_cons, List.flatMap_cons] at hflat
    obtain ⟨hg, hgs⟩ := List.cons.inj hread
    rcases List.append_eq_append_iff.mp hflat with ⟨e, he, hrest⟩ | ⟨e, rfl, hrest⟩
    · -- the group ends inside the message
      obtain rfl := T.eq_nil_of_cut he hg
      rw [List.append_nil] at he
      rw [List.nil_append] at hrest
      rw [List.map_cons, he, groups_eq_fields ms groups hrest hgs]
    · rcases e with _ | ⟨f, e⟩
      · rw [List.nil_append] at hrest
        rw [List.append_nil, List.map_cons, groups_eq_fields ms groups hrest.symm hgs]
      · -- the group reaches into the next message, and there are too few heads for the others
        exfalso
        have hlen : groups.length = ms.length := by simpa using congrArg List.length hgs
        have hcount := T.length_le_countP (T.exists_head_of_map hgs)
        have htotal := T.countP_flatMap ms
        rcases ms with _ | ⟨m', ms⟩
        · cases hrest
        · obtain ⟨f', fs, hfields, hhead⟩ := T.exists_head m'
          have hf : f = f' := by
            rw [List.flatMap_cons, hfields] at hrest
            exact (List.cons.inj hrest).1.symm
          rw [hrest, List.countP_append, List.countP_cons, hf, hhead] at htotal
          simp only [if_true] at htotal
          omega

/-! ### Bytes -/

variable (C : FieldCode F)

def pack (m : M) : List UInt8 := C.encode (T.fields m)

def unpack (bs : List UInt8) : Option M := (C.decode bs).bind T.assemble

theorem unpack_pack (m : M) : T.unpack C (T.pack C m) = some m := by
  rw [unpack, pack, C.decode_encode, Option.bind_some, T.assemble_fields]

/-- **Pieces of a stream of messages** are read as these messages if and only if each piece is one
message. -/
theorem unpack_eq_iff {ms : List M} {segs : List (List UInt8)}
    (h : segs.flatten = ms.flatMap (T.pack C)) :
    segs.map (T.unpack C) = ms.map some ↔ segs = ms.map (T.pack C) := by
  constructor
  · intro hread
    have hstream : segs.flatten = C.encode (ms.flatMap T.fields) := by
      rw [h, FieldCode.encode, List.flatMap_assoc]
      rfl
    have hdec : ∀ s ∈ segs, C.decode s ≠ none := by
      intro s hs hnone
      have hmem : T.unpack C s ∈ ms.map some := hread ▸ List.mem_map_of_mem hs
      obtain ⟨m, -, hm⟩ := List.mem_map.mp hmem
      rw [unpack, hnone] at hm
      cases hm
    obtain ⟨groups, hflat, rfl⟩ := C.exists_groups segs _ hstream hdec
    have hgroups : groups = ms.map T.fields := by
      refine T.groups_eq_fields ms groups hflat ?_
      rw [← hread, List.map_map]
      refine List.map_congr_left fun g _ => ?_
      rw [Function.comp_apply, unpack, C.decode_encode]
      rfl
    rw [hgroups, List.map_map]
    rfl
  · rintro rfl
    rw [List.map_map]
    exact List.map_congr_left fun m _ => T.unpack_pack C m

end Format

end Spawny.Lib.Framing
