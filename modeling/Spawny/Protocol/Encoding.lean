import Spawny.Lib.Protobuf
import Spawny.Protocol.Messages

/-! # The bytes of the fields

The codes for the fields of `session_spawn.proto` and `server.proto` as protobuf writes them: the
field numbers and enumeration values of the `.proto` files, texts as UTF-8, submessages as bytes.
Only what `pack` writes is read back: the fields of a submessage in the order of their numbers. -/

namespace Spawny.Protocol.Encoding

open Spawny.Lib.Wire Spawny.Lib.Protobuf Spawny.Protocol.Messages

/-! ### Texts -/

def utf8 (s : String) : List UInt8 := s.toByteArray.data.toList

def ofUtf8 (bs : List UInt8) : Option String := String.fromUTF8? ⟨bs.toArray⟩

theorem ofUtf8_utf8 (s : String) : ofUtf8 (utf8 s) = some s := by
  unfold ofUtf8 utf8
  simp [String.fromUTF8?, s.isValidUTF8]
  rfl

/-! ### session_spawn.proto -/

def SpawnType.toNat : SpawnType → ℕ
  | .connect => 0
  | .setupDone => 1
  | .sessionActive => 2
  | .errorExit => 3

def SpawnType.ofNat : ℕ → Option SpawnType
  | 0 => some .connect
  | 1 => some .setupDone
  | 2 => some .sessionActive
  | 3 => some .errorExit
  | _ => none

def SpawnField.toRaw : SpawnField → RawField
  | .type t => .varint 1 (SpawnType.toNat t)
  | .exit s => .bytes 2 (utf8 s)

def SpawnField.ofRaw : RawField → Option SpawnField
  | .varint 1 n => (SpawnType.ofNat n).map .type
  | .bytes 2 bs => (ofUtf8 bs).map .exit
  | _ => none

theorem SpawnField.ofRaw_toRaw (f : SpawnField) : ofRaw (toRaw f) = some f := by
  rcases f with (_ | _ | _ | _) | s
  iterate 4 rfl
  · simp [toRaw, ofRaw, ofUtf8_utf8]

/-- **The fields of `session_spawn.proto`.** -/
def spawnCode : FieldCode SpawnField :=
  comap rawCode SpawnField.toRaw SpawnField.ofRaw SpawnField.ofRaw_toRaw

/-! ### server.proto -/

def ServerType.toNat : ServerType → ℕ
  | .dataUpdate => 0
  | .loginFeedback => 1
  | .leave => 2

def ServerType.ofNat : ℕ → Option ServerType
  | 0 => some .dataUpdate
  | 1 => some .loginFeedback
  | 2 => some .leave
  | _ => none

def RequestFeedback.toRaw (fb : RequestFeedback) : List RawField :=
  [.varint 1 fb.success.toNat, .bytes 2 (utf8 fb.msg)]

def RequestFeedback.ofRaw : List RawField → Option RequestFeedback
  | [.varint 1 n, .bytes 2 bs] => (ofUtf8 bs).map fun msg => ⟨n != 0, msg⟩
  | _ => none

def SessionTemplate.toRaw (t : SessionTemplate) : List RawField :=
  [.bytes 1 (utf8 t.id), .bytes 2 (utf8 t.name), .bytes 3 (utf8 t.icon)]

def Session.toRaw (s : Session) : List RawField :=
  [.bytes 1 (utf8 s.id), .bytes 2 (utf8 s.user), .bytes 3 (utf8 s.name), .bytes 4 (utf8 s.icon)]

def User.toRaw (u : User) : List RawField :=
  [.varint 1 u.uid, .bytes 2 (utf8 u.name), .bytes 3 (utf8 u.icon),
    .bytes 4 (utf8 u.preferedSession)]

def SessionTemplate.ofRaw : List RawField → Option SessionTemplate
  | [.bytes 1 id, .bytes 2 name, .bytes 3 icon] => do
    some ⟨← ofUtf8 id, ← ofUtf8 name, ← ofUtf8 icon⟩
  | _ => none

def Session.ofRaw : List RawField → Option Session
  | [.bytes 1 id, .bytes 2 user, .bytes 3 name, .bytes 4 icon] => do
    some ⟨← ofUtf8 id, ← ofUtf8 user, ← ofUtf8 name, ← ofUtf8 icon⟩
  | _ => none

def User.ofRaw : List RawField → Option User
  | [.varint 1 uid, .bytes 2 name, .bytes 3 icon, .bytes 4 session] => do
    some ⟨uid, ← ofUtf8 name, ← ofUtf8 icon, ← ofUtf8 session⟩
  | _ => none

theorem RequestFeedback.ofRaw_toRaw (fb : RequestFeedback) : ofRaw (toRaw fb) = some fb := by
  obtain ⟨success, msg⟩ := fb
  cases success <;> simp [toRaw, ofRaw, ofUtf8_utf8]

theorem SessionTemplate.ofRaw_toRaw (t : SessionTemplate) : ofRaw (toRaw t) = some t := by
  simp [toRaw, ofRaw, ofUtf8_utf8]

theorem Session.ofRaw_toRaw (s : Session) : ofRaw (toRaw s) = some s := by
  simp [toRaw, ofRaw, ofUtf8_utf8]

theorem User.ofRaw_toRaw (u : User) : ofRaw (toRaw u) = some u := by
  simp [toRaw, ofRaw, ofUtf8_utf8]

def Data.ofTemplate (t : SessionTemplate) : RawField :=
  .bytes 1 (rawCode.encode (SessionTemplate.toRaw t))

def Data.ofSession (s : Session) : RawField := .bytes 2 (rawCode.encode (Session.toRaw s))

def Data.ofUser (u : User) : RawField := .bytes 3 (rawCode.encode (User.toRaw u))

/-- Each entry of a `Data` is a field of its own. -/
def Data.toRaw (d : Data) : List RawField :=
  d.templates.map Data.ofTemplate ++ (d.sessions.map Data.ofSession ++ d.users.map Data.ofUser)

/-- The `Data` of one field. -/
def Data.ofField : RawField → Option Data
  | .bytes 1 bs => ((rawCode.decode bs).bind SessionTemplate.ofRaw).map fun t => ⟨[t], [], []⟩
  | .bytes 2 bs => ((rawCode.decode bs).bind Session.ofRaw).map fun s => ⟨[], [s], []⟩
  | .bytes 3 bs => ((rawCode.decode bs).bind User.ofRaw).map fun u => ⟨[], [], [u]⟩
  | _ => none

def Data.ofRaw : List RawField → Option Data
  | [] => some ⟨[], [], []⟩
  | f :: fs => (Data.ofField f).bind fun d => (Data.ofRaw fs).map d.merge

theorem Data.ofField_ofTemplate (t : SessionTemplate) :
    ofField (ofTemplate t) = some ⟨[t], [], []⟩ := by
  rw [ofTemplate, ofField, rawCode.decode_encode, Option.bind_some, SessionTemplate.ofRaw_toRaw,
    Option.map_some]

theorem Data.ofField_ofSession (s : Session) : ofField (ofSession s) = some ⟨[], [s], []⟩ := by
  rw [ofSession, ofField, rawCode.decode_encode, Option.bind_some, Session.ofRaw_toRaw,
    Option.map_some]

theorem Data.ofField_ofUser (u : User) : ofField (ofUser u) = some ⟨[], [], [u]⟩ := by
  rw [ofUser, ofField, rawCode.decode_encode, Option.bind_some, User.ofRaw_toRaw, Option.map_some]

theorem Data.ofRaw_append (fs gs : List RawField) :
    ofRaw (fs ++ gs) = (ofRaw fs).bind fun d => (ofRaw gs).map d.merge := by
  induction fs with
  | nil =>
    cases h : ofRaw gs with
    | none => simp [ofRaw, h]
    | some e => simp [ofRaw, h, Data.merge]
  | cons f fs ih =>
    rw [List.cons_append, ofRaw, ofRaw, ih]
    cases ofField f with
    | none => rfl
    | some d =>
      cases ofRaw fs with
      | none => rfl
      | some e => cases ofRaw gs <;> simp [Data.merge]

theorem Data.ofRaw_templates (ts : List SessionTemplate) :
    ofRaw (ts.map ofTemplate) = some ⟨ts, [], []⟩ := by
  induction ts with
  | nil => rfl
  | cons t ts ih =>
    rw [List.map_cons, ofRaw, ofField_ofTemplate, Option.bind_some, ih, Option.map_some]
    rfl

theorem Data.ofRaw_sessions (ss : List Session) : ofRaw (ss.map ofSession) = some ⟨[], ss, []⟩ := by
  induction ss with
  | nil => rfl
  | cons s ss ih =>
    rw [List.map_cons, ofRaw, ofField_ofSession, Option.bind_some, ih, Option.map_some]
    rfl

theorem Data.ofRaw_users (us : List User) : ofRaw (us.map ofUser) = some ⟨[], [], us⟩ := by
  induction us with
  | nil => rfl
  | cons u us ih =>
    rw [List.map_cons, ofRaw, ofField_ofUser, Option.bind_some, ih, Option.map_some]
    rfl

theorem Data.ofRaw_toRaw (d : Data) : ofRaw (toRaw d) = some d := by
  rw [toRaw, ofRaw_append, ofRaw_append, ofRaw_templates, ofRaw_sessions, ofRaw_users]
  simp [Data.merge]

def ServerField.toRaw : ServerField → RawField
  | .type t => .varint 1 (ServerType.toNat t)
  | .feedback fb => .bytes 2 (rawCode.encode (RequestFeedback.toRaw fb))
  | .data d => .bytes 3 (rawCode.encode (Data.toRaw d))

def ServerField.ofRaw : RawField → Option ServerField
  | .varint 1 n => (ServerType.ofNat n).map .type
  | .bytes 2 bs => ((rawCode.decode bs).bind RequestFeedback.ofRaw).map .feedback
  | .bytes 3 bs => ((rawCode.decode bs).bind Data.ofRaw).map .data
  | _ => none

theorem ServerField.ofRaw_toRaw (f : ServerField) : ofRaw (toRaw f) = some f := by
  rcases f with (_ | _ | _) | fb | d
  iterate 3 rfl
  · rw [toRaw, ofRaw, rawCode.decode_encode, Option.bind_some, RequestFeedback.ofRaw_toRaw,
      Option.map_some]
  · rw [toRaw, ofRaw, rawCode.decode_encode, Option.bind_some, Data.ofRaw_toRaw, Option.map_some]

/-- **The fields of `server.proto`.** -/
def serverCode : FieldCode ServerField :=
  comap rawCode ServerField.toRaw ServerField.ofRaw ServerField.ofRaw_toRaw

-- the type, and a feedback with its two fields inside
example : ServerMessage.pack serverCode ⟨.loginFeedback, some ⟨true, "ok"⟩, none⟩ =
    [8, 1, 18, 6, 8, 1, 18, 2, 111, 107] := by decide

end Spawny.Protocol.Encoding
