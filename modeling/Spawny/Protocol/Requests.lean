import Spawny.Daemon.State
import Spawny.Protocol.Encoding

/-! # The requests of clients

`greeter.proto` on the wire, and the part of `_client_data` that takes a request from the socket. A
client may have written several requests by the time the daemon reads.

* `greeterCode`: the bytes of the fields;
* `clientRead_joined`: **all requests that lie in the socket are taken for one**, with the type of the
  last one and the last payload of each kind;
* `clientRead_pack`: a request that comes alone arrives as it was sent. -/

namespace Spawny.Protocol.Requests

open Spawny.Lib.Wire Spawny.Lib.Protobuf Spawny.Protocol.Messages Spawny.Protocol.Encoding
open Spawny.Daemon.State

/-! ### greeter.proto -/

/-- The fields of `Message`. -/
inductive GreeterField
  | type (t : GreeterType)
  | login (l : Login)
  | session (s : String)
  deriving DecidableEq, Repr

def GreeterField.type? : GreeterField → Option GreeterType
  | .type t => some t
  | _ => none

def GreeterField.login? : GreeterField → Option Login
  | .login l => some l
  | _ => none

def GreeterField.session? : GreeterField → Option String
  | .session s => some s
  | _ => none

/-- The fields in the order they are packed in; an absent payload is not packed. -/
def GreeterMessage.fields (m : GreeterMessage) : List GreeterField :=
  .type m.type :: ((m.login.map GreeterField.login).toList ++
    (m.session.map GreeterField.session).toList)

/-- The message of a sequence of fields: none without a type. The fields of a login are required, so
its merge is the last one. -/
def GreeterMessage.assemble (fs : List GreeterField) : Option GreeterMessage :=
  ((fs.filterMap GreeterField.type?).getLast?).map fun t =>
    ⟨t, (fs.filterMap GreeterField.login?).getLast?, (fs.filterMap GreeterField.session?).getLast?⟩

/-- `spawny__greeter__message__pack`. -/
def GreeterMessage.pack (G : FieldCode GreeterField) (m : GreeterMessage) : List UInt8 :=
  G.encode (GreeterMessage.fields m)

/-- `spawny__greeter__message__unpack`; `none` is the `NULL` it returns on a bad buffer. -/
def GreeterMessage.unpack (G : FieldCode GreeterField) (bs : List UInt8) : Option GreeterMessage :=
  (G.decode bs).bind GreeterMessage.assemble

/-- What several messages in one buffer are read as. -/
def GreeterMessage.joined (ms : List GreeterMessage) : Option GreeterMessage :=
  ms.getLast?.map fun m => ⟨m.type, (ms.filterMap GreeterMessage.login).getLast?,
    (ms.filterMap GreeterMessage.session).getLast?⟩

/-! ### The bytes of the fields -/

/-- The number of an unknown type is above those of the enumeration. -/
def GreeterType.toNat : GreeterType → ℕ
  | .hello => 0
  | .loginTry => 1
  | .sessionActivation => 2
  | .greeterStart => 3
  | .unknown n => n + 4

-- an enumeration is open on the wire
def GreeterType.ofNat : ℕ → GreeterType
  | 0 => .hello
  | 1 => .loginTry
  | 2 => .sessionActivation
  | 3 => .greeterStart
  | n + 4 => .unknown n

def Login.toRaw (l : Login) : List RawField :=
  [.bytes 1 (utf8 l.user), .bytes 2 (utf8 l.password), .bytes 3 (utf8 l.templateId)]

def Login.ofRaw : List RawField → Option Login
  | [.bytes 1 user, .bytes 2 password, .bytes 3 templateId] => do
    some ⟨← ofUtf8 user, ← ofUtf8 password, ← ofUtf8 templateId⟩
  | _ => none

theorem Login.ofRaw_toRaw (l : Login) : ofRaw (toRaw l) = some l := by
  simp [toRaw, ofRaw, ofUtf8_utf8]

def GreeterField.toRaw : GreeterField → RawField
  | .type t => .varint 1 (GreeterType.toNat t)
  | .login l => .bytes 2 (rawCode.encode (Login.toRaw l))
  | .session s => .bytes 3 (utf8 s)

def GreeterField.ofRaw : RawField → Option GreeterField
  | .varint 1 n => some (.type (GreeterType.ofNat n))
  | .bytes 2 bs => ((rawCode.decode bs).bind Login.ofRaw).map .login
  | .bytes 3 bs => (ofUtf8 bs).map .session
  | _ => none

theorem GreeterField.ofRaw_toRaw (f : GreeterField) : ofRaw (toRaw f) = some f := by
  cases f with
  | type t => cases t <;> rfl
  | login l =>
    rw [toRaw, ofRaw, rawCode.decode_encode, Option.bind_some, Login.ofRaw_toRaw, Option.map_some]
  | session s => rw [toRaw, ofRaw, ofUtf8_utf8, Option.map_some]

/-- **The fields of `greeter.proto`.** -/
def greeterCode : FieldCode GreeterField :=
  comap rawCode GreeterField.toRaw GreeterField.ofRaw GreeterField.ofRaw_toRaw

/-! ### Several messages in one buffer -/

variable {G : FieldCode GreeterField}

theorem filterMap_type_fields (ms : List GreeterMessage) :
    (ms.flatMap GreeterMessage.fields).filterMap GreeterField.type? =
      ms.map GreeterMessage.type := by
  induction ms with
  | nil => rfl
  | cons m ms ih =>
    rw [List.flatMap_cons, List.filterMap_append, ih, List.map_cons]
    rcases m with ⟨t, _ | l, _ | s⟩ <;> rfl

theorem filterMap_login_fields (ms : List GreeterMessage) :
    (ms.flatMap GreeterMessage.fields).filterMap GreeterField.login? =
      ms.filterMap GreeterMessage.login := by
  induction ms with
  | nil => rfl
  | cons m ms ih =>
    rw [List.flatMap_cons, List.filterMap_append, ih]
    rcases m with ⟨t, _ | l, _ | s⟩ <;> rfl

theorem filterMap_session_fields (ms : List GreeterMessage) :
    (ms.flatMap GreeterMessage.fields).filterMap GreeterField.session? =
      ms.filterMap GreeterMessage.session := by
  induction ms with
  | nil => rfl
  | cons m ms ih =>
    rw [List.flatMap_cons, List.filterMap_append, ih]
    rcases m with ⟨t, _ | l, _ | s⟩ <;> rfl

theorem assemble_fields (ms : List GreeterMessage) :
    GreeterMessage.assemble (ms.flatMap GreeterMessage.fields) = GreeterMessage.joined ms := by
  rw [GreeterMessage.assemble, filterMap_type_fields, filterMap_login_fields,
    filterMap_session_fields, GreeterMessage.joined, List.getLast?_map, Option.map_map]
  rfl

/-- **Requests that lie in one buffer are read as one.** -/
theorem unpack_joined (ms : List GreeterMessage) :
    GreeterMessage.unpack G (ms.flatMap (GreeterMessage.pack G)) = GreeterMessage.joined ms := by
  have hbytes : ms.flatMap (GreeterMessage.pack G) =
      G.encode (ms.flatMap GreeterMessage.fields) := by
    rw [FieldCode.encode, List.flatMap_assoc]
    rfl
  rw [GreeterMessage.unpack, hbytes, G.decode_encode, Option.bind_some, assemble_fields]

theorem joined_singleton (m : GreeterMessage) : GreeterMessage.joined [m] = some m := by
  rcases m with ⟨t, _ | l, _ | s⟩ <;> rfl

theorem pack_ne_nil (m : GreeterMessage) : GreeterMessage.pack G m ≠ [] := by
  rw [GreeterMessage.pack, Ne, G.encode_eq_nil]
  exact List.cons_ne_nil _ _

/-! ### _client_data -/

def MAX_MSG_SIZE : ℕ := 4096

/-- What `_client_data` takes from a socket with the bytes `stream`: one `read`, and one `unpack`. -/
def clientRead (G : FieldCode GreeterField) (stream : List UInt8) : ClientInput :=
  let buf := stream.take MAX_MSG_SIZE
  if buf.length = 0 then .eof
  else
    match GreeterMessage.unpack G buf with
    | none => .bad
    | some m => .msg m

/-- **All requests that lie in the socket are taken for one**, if they fit into the buffer. -/
theorem clientRead_joined {ms : List GreeterMessage} {m : GreeterMessage}
    (hm : GreeterMessage.joined ms = some m)
    (hsize : (ms.flatMap (GreeterMessage.pack G)).length ≤ MAX_MSG_SIZE) :
    clientRead G (ms.flatMap (GreeterMessage.pack G)) = .msg m := by
  have hne : ms ≠ [] := by
    rintro rfl
    cases hm
  have hlen : (ms.flatMap (GreeterMessage.pack G)).length ≠ 0 := by
    intro hnil
    obtain ⟨m', ms', rfl⟩ := List.exists_cons_of_ne_nil hne
    rw [List.flatMap_cons, List.length_eq_zero_iff] at hnil
    exact pack_ne_nil m' (List.append_eq_nil_iff.mp hnil).1
  rw [clientRead, List.take_of_length_le hsize, if_neg hlen, unpack_joined, hm]

/-- A request that comes alone arrives as it was sent. -/
theorem clientRead_pack {m : GreeterMessage} (hsize : (GreeterMessage.pack G m).length ≤ MAX_MSG_SIZE) :
    clientRead G (GreeterMessage.pack G m) = .msg m := by
  have h := clientRead_joined (G := G) (joined_singleton m)
  rw [List.flatMap_singleton] at h
  exact h hsize

end Spawny.Protocol.Requests
