import Spawny.Lib.Framing
import Spawny.Protocol.Requests

/-! # The three protocols on their streams

A stream socket and a pipe do not keep the boundaries of what was written. In each protocol the type of
a message is a field that stands in front, so each is a `Format`.

* `greeterFormat`, `serverFormat`, `spawnFormat`: the protocols as formats;
* `received_iff`: **what is received is what was sent exactly if each read is one message**, in all
  three protocols. -/

namespace Spawny.Protocol.Streams

open Spawny.Lib.Wire Spawny.Lib.Framing Spawny.Protocol.Messages Spawny.Protocol.Requests

/-! ### Fields of one kind -/

theorem exists_mem_of_getLast? {F T : Type*} {f : F → Option T} {fs : List F} {t : T}
    (h : (fs.filterMap f).getLast? = some t) : ∃ x ∈ fs, (f x).isSome = true := by
  obtain ⟨x, hx, hsome⟩ := List.mem_filterMap.mp (List.mem_of_getLast? h)
  exact ⟨x, hx, by rw [hsome, Option.isSome_some]⟩

theorem length_getLast? {T : Type*} (l : List T) : l.getLast?.toList.length ≤ l.length := by
  cases h : l.getLast? with
  | none => exact Nat.zero_le _
  | some t => exact List.length_pos_of_mem (List.mem_of_getLast? h)

theorem length_of_getLast? {T : Type*} {l : List T} {t : T} (h : l.getLast? = some t) :
    1 ≤ l.length := List.length_pos_of_mem (List.mem_of_getLast? h)

/-! ### session_spawn.proto -/

/-- A field is of one kind. -/
theorem length_spawnFields (fs : List SpawnField) : (fs.filterMap SpawnField.type?).length +
    (fs.filterMap SpawnField.exit?).length = fs.length := by
  induction fs with
  | nil => rfl
  | cons f fs ih =>
    cases f <;> simp [List.filterMap_cons, SpawnField.type?, SpawnField.exit?] <;> omega

theorem length_spawnMessage {fs : List SpawnField} {m : SpawnMessage}
    (h : SpawnMessage.assemble fs = some m) : (SpawnMessage.fields m).length ≤ fs.length := by
  obtain ⟨t, ht, rfl⟩ := Option.map_eq_some_iff.mp h
  have htype := length_of_getLast? ht
  have hexit := length_getLast? (fs.filterMap SpawnField.exit?)
  have htotal := length_spawnFields fs
  simp only [SpawnMessage.fields, List.length_cons, Option.toList_map, List.length_map]
  omega

def spawnFormat : Format SpawnField SpawnMessage where
  fields := SpawnMessage.fields
  assemble := SpawnMessage.assemble
  isHead f := f.type?.isSome
  exists_head m := ⟨_, _, rfl, rfl⟩
  countP_fields m := by rcases m with ⟨t, _ | s⟩ <;> rfl
  head_of_assemble fs m h := by
    obtain ⟨t, ht, -⟩ := Option.map_eq_some_iff.mp h
    exact exists_mem_of_getLast? ht
  assemble_fields m := by rcases m with ⟨t, _ | s⟩ <;> rfl
  length_le _ _ h := length_spawnMessage h

/-! ### greeter.proto -/

theorem length_greeterFields (fs : List GreeterField) : (fs.filterMap GreeterField.type?).length +
    (fs.filterMap GreeterField.login?).length + (fs.filterMap GreeterField.session?).length =
      fs.length := by
  induction fs with
  | nil => rfl
  | cons f fs ih =>
    cases f <;>
      simp [List.filterMap_cons, GreeterField.type?, GreeterField.login?, GreeterField.session?] <;>
      omega

theorem length_greeterMessage {fs : List GreeterField} {m : GreeterMessage}
    (h : GreeterMessage.assemble fs = some m) : (GreeterMessage.fields m).length ≤ fs.length := by
  obtain ⟨t, ht, rfl⟩ := Option.map_eq_some_iff.mp h
  have htype := length_of_getLast? ht
  have hlogin := length_getLast? (fs.filterMap GreeterField.login?)
  have hsession := length_getLast? (fs.filterMap GreeterField.session?)
  have htotal := length_greeterFields fs
  simp only [GreeterMessage.fields, List.length_cons, List.length_append, Option.toList_map,
    List.length_map]
  omega

def greeterFormat : Format GreeterField GreeterMessage where
  fields := GreeterMessage.fields
  assemble := GreeterMessage.assemble
  isHead f := f.type?.isSome
  exists_head m := ⟨_, _, rfl, rfl⟩
  countP_fields m := by rcases m with ⟨t, _ | l, _ | s⟩ <;> rfl
  head_of_assemble fs m h := by
    obtain ⟨t, ht, -⟩ := Option.map_eq_some_iff.mp h
    exact exists_mem_of_getLast? ht
  assemble_fields m := by rcases m with ⟨t, _ | l, _ | s⟩ <;> rfl
  length_le _ _ h := length_greeterMessage h

/-! ### server.proto -/

theorem length_serverFields (fs : List ServerField) : (fs.filterMap ServerField.type?).length +
    (fs.filterMap ServerField.feedback?).length + (fs.filterMap ServerField.data?).length =
      fs.length := by
  induction fs with
  | nil => rfl
  | cons f fs ih =>
    cases f <;>
      simp [List.filterMap_cons, ServerField.type?, ServerField.feedback?, ServerField.data?] <;>
      omega

theorem length_mergeAll (ds : List Data) : (Data.mergeAll ds).toList.length ≤ ds.length := by
  cases ds <;> simp [Data.mergeAll]

theorem length_serverMessage {fs : List ServerField} {m : ServerMessage}
    (h : ServerMessage.assemble fs = some m) : (ServerMessage.fields m).length ≤ fs.length := by
  obtain ⟨t, ht, rfl⟩ := Option.map_eq_some_iff.mp h
  have htype := length_of_getLast? ht
  have hfeedback := length_getLast? (fs.filterMap ServerField.feedback?)
  have hdata := length_mergeAll (fs.filterMap ServerField.data?)
  have htotal := length_serverFields fs
  simp only [ServerMessage.fields, List.length_cons, List.length_append, Option.toList_map,
    List.length_map]
  omega

def serverFormat : Format ServerField ServerMessage where
  fields := ServerMessage.fields
  assemble := ServerMessage.assemble
  isHead f := f.type?.isSome
  exists_head m := ⟨_, _, rfl, rfl⟩
  countP_fields m := by rcases m with ⟨t, _ | fb, _ | d⟩ <;> rfl
  head_of_assemble fs m h := by
    obtain ⟨t, ht, -⟩ := Option.map_eq_some_iff.mp h
    exact exists_mem_of_getLast? ht
  assemble_fields m := by rcases m with ⟨t, _ | fb, _ | d⟩ <;> rfl
  length_le _ _ h := length_serverMessage h

/-! ### What is received -/

/-- **What is received is what was sent exactly if each read is one message**: a client's requests, the
daemon's messages to it, and the messages of a child. -/
theorem received_iff (G : FieldCode GreeterField) (S : FieldCode ServerField)
    (C : FieldCode SpawnField) :
    (∀ (ms : List GreeterMessage) (segs : List (List UInt8)),
      segs.flatten = ms.flatMap (GreeterMessage.pack G) →
        (segs.map (GreeterMessage.unpack G) = ms.map some ↔
          segs = ms.map (GreeterMessage.pack G))) ∧
    (∀ (ms : List ServerMessage) (segs : List (List UInt8)),
      segs.flatten = ms.flatMap (ServerMessage.pack S) →
        (segs.map (ServerMessage.unpack S) = ms.map some ↔
          segs = ms.map (ServerMessage.pack S))) ∧
    (∀ (ms : List SpawnMessage) (segs : List (List UInt8)),
      segs.flatten = ms.flatMap (SpawnMessage.pack C) →
        (segs.map (SpawnMessage.unpack C) = ms.map some ↔
          segs = ms.map (SpawnMessage.pack C))) :=
  ⟨fun _ _ h => greeterFormat.unpack_eq_iff G h, fun _ _ h => serverFormat.unpack_eq_iff S h,
    fun _ _ h => spawnFormat.unpack_eq_iff C h⟩

end Spawny.Protocol.Streams
