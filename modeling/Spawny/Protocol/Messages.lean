import Spawny.Lib.Wire
import Mathlib.Data.Nat.Notation

/-! # The three protocols

The messages of `session_spawn.proto` (a spawned child to the daemon, over its pipe),
`greeter.proto` (a client to the daemon) and `server.proto` (the daemon to a client). All three are
proto2: a message on the wire is a sequence of fields without a length, a later scalar field wins
over an earlier one, and a repeated submessage is merged. `pack` and `unpack` are
`..._pack` and `..._unpack` of the generated code; the code for a single field is a parameter.

* `unpack_pack`: one whole message is read back;
* `unpack_joined`: several whole messages in one buffer are read as one message, their join. -/

namespace Spawny.Protocol.Messages

open Spawny.Lib.Wire

/-! ### session_spawn.proto -/

/-- `Message_Type`. -/
inductive SpawnType
  | connect
  | setupDone
  | sessionActive
  | errorExit
  deriving DecidableEq, Repr

/-- `Message`: the type is required, the exit text is not. -/
structure SpawnMessage where
  type : SpawnType
  exit : Option String
  deriving DecidableEq, Repr

/-- The fields of `Message`. -/
inductive SpawnField
  | type (t : SpawnType)
  | exit (s : String)
  deriving DecidableEq, Repr

def SpawnField.type? : SpawnField → Option SpawnType
  | .type t => some t
  | .exit _ => none

def SpawnField.exit? : SpawnField → Option String
  | .type _ => none
  | .exit s => some s

/-- The fields in the order they are packed in; an absent text is not packed. -/
def SpawnMessage.fields (m : SpawnMessage) : List SpawnField :=
  .type m.type :: (m.exit.map SpawnField.exit).toList

/-- The message of a sequence of fields: none without a type, the last field of a kind wins. -/
def SpawnMessage.assemble (fs : List SpawnField) : Option SpawnMessage :=
  ((fs.filterMap SpawnField.type?).getLast?).map fun t =>
    ⟨t, (fs.filterMap SpawnField.exit?).getLast?⟩

/-- `spawny__spawn__message__pack`. -/
def SpawnMessage.pack (C : FieldCode SpawnField) (m : SpawnMessage) : List UInt8 :=
  C.encode m.fields

/-- `spawny__spawn__message__unpack`; `none` is the `NULL` it returns on a bad buffer. -/
def SpawnMessage.unpack (C : FieldCode SpawnField) (bs : List UInt8) : Option SpawnMessage :=
  (C.decode bs).bind SpawnMessage.assemble

/-- What several messages in one buffer are read as: the type of the last one with the last text. -/
def SpawnMessage.joined (ms : List SpawnMessage) : Option SpawnMessage :=
  ms.getLast?.map fun m => ⟨m.type, (ms.filterMap SpawnMessage.exit).getLast?⟩

theorem filterMap_type_fields (ms : List SpawnMessage) :
    (ms.flatMap SpawnMessage.fields).filterMap SpawnField.type? = ms.map SpawnMessage.type := by
  induction ms with
  | nil => rfl
  | cons m ms ih =>
    rw [List.flatMap_cons, List.filterMap_append, ih, List.map_cons]
    cases hm : m.exit <;> simp [SpawnMessage.fields, hm, SpawnField.type?]

theorem filterMap_exit_fields (ms : List SpawnMessage) :
    (ms.flatMap SpawnMessage.fields).filterMap SpawnField.exit? =
      ms.filterMap SpawnMessage.exit := by
  induction ms with
  | nil => rfl
  | cons m ms ih =>
    rw [List.flatMap_cons, List.filterMap_append, ih, List.filterMap_cons]
    cases hm : m.exit with
    | none => simp [SpawnMessage.fields, hm, SpawnField.exit?]
    | some s => simp [SpawnMessage.fields, hm, SpawnField.exit?, List.filterMap_cons]

/-- **Messages that lie in one buffer are read as one.** -/
theorem SpawnMessage.unpack_joined (C : FieldCode SpawnField) (ms : List SpawnMessage) :
    unpack C (ms.flatMap (pack C)) = joined ms := by
  have hbytes : ms.flatMap (pack C) = C.encode (ms.flatMap fields) := by
    simp only [FieldCode.encode, List.flatMap_assoc]
    rfl
  rw [unpack, hbytes, C.decode_encode, Option.bind_some, assemble, filterMap_type_fields,
    filterMap_exit_fields, joined, List.getLast?_map, Option.map_map]
  rfl

theorem SpawnMessage.joined_singleton (m : SpawnMessage) : joined [m] = some m := by
  rcases m with ⟨t, _ | s⟩ <;> rfl

theorem SpawnMessage.unpack_pack (C : FieldCode SpawnField) (m : SpawnMessage) :
    unpack C (pack C m) = some m := by
  have h := unpack_joined C [m]
  rwa [List.flatMap_singleton, joined_singleton] at h

/-! ### greeter.proto -/

/-- `Message_Type`; any other number on the wire is `unknown`. -/
inductive GreeterType
  | hello
  | loginTry
  | sessionActivation
  | greeterStart
  | unknown (n : ℕ)
  deriving DecidableEq, Repr

/-- `Login`. -/
structure Login where
  user : String
  password : String
  templateId : String
  deriving DecidableEq, Repr

/-- `Message`: the payloads are optional and independent of the type. -/
structure GreeterMessage where
  type : GreeterType
  login : Option Login
  session : Option String
  deriving DecidableEq, Repr

/-! ### server.proto -/

/-- `Session`. -/
structure Session where
  id : String
  user : String
  name : String
  icon : String
  deriving DecidableEq, Repr

/-- `Session_Template`. -/
structure SessionTemplate where
  id : String
  name : String
  icon : String
  deriving DecidableEq, Repr

/-- `User`. -/
structure User where
  uid : ℕ
  name : String
  icon : String
  preferedSession : String
  deriving DecidableEq, Repr

/-- `Data`. -/
structure Data where
  templates : List SessionTemplate
  sessions : List Session
  users : List User
  deriving DecidableEq, Repr

/-- `Request_Feedback`. -/
structure RequestFeedback where
  success : Bool
  msg : String
  deriving DecidableEq, Repr

/-- `Message_Type`. -/
inductive ServerType
  | dataUpdate
  | loginFeedback
  | leave
  deriving DecidableEq, Repr

/-- `Message`: the payloads are optional and independent of the type. -/
structure ServerMessage where
  type : ServerType
  feedback : Option RequestFeedback
  data : Option Data
  deriving DecidableEq, Repr

/-- The fields of `Message`. -/
inductive ServerField
  | type (t : ServerType)
  | feedback (fb : RequestFeedback)
  | data (d : Data)
  deriving DecidableEq, Repr

def ServerField.type? : ServerField → Option ServerType
  | .type t => some t
  | _ => none

def ServerField.feedback? : ServerField → Option RequestFeedback
  | .feedback fb => some fb
  | _ => none

def ServerField.data? : ServerField → Option Data
  | .data d => some d
  | _ => none

/-- Merging two `Data` submessages joins their repeated fields. -/
def Data.merge (d e : Data) : Data :=
  ⟨d.templates ++ e.templates, d.sessions ++ e.sessions, d.users ++ e.users⟩

/-- The merge of all `Data` submessages of a buffer, if there is one. -/
def Data.mergeAll : List Data → Option Data
  | [] => none
  | d :: ds => some (ds.foldl Data.merge d)

/-- The fields in the order they are packed in; an absent payload is not packed. -/
def ServerMessage.fields (m : ServerMessage) : List ServerField :=
  .type m.type :: ((m.feedback.map ServerField.feedback).toList ++
    (m.data.map ServerField.data).toList)

/-- The message of a sequence of fields: none without a type. Both fields of a feedback are
required, so its merge is the last one. -/
def ServerMessage.assemble (fs : List ServerField) : Option ServerMessage :=
  ((fs.filterMap ServerField.type?).getLast?).map fun t =>
    ⟨t, (fs.filterMap ServerField.feedback?).getLast?, Data.mergeAll (fs.filterMap ServerField.data?)⟩

/-- `spawny__server__message__pack`. -/
def ServerMessage.pack (C : FieldCode ServerField) (m : ServerMessage) : List UInt8 :=
  C.encode m.fields

/-- `spawny__server__message__unpack`; `none` is the `NULL` it returns on a bad buffer. -/
def ServerMessage.unpack (C : FieldCode ServerField) (bs : List UInt8) : Option ServerMessage :=
  (C.decode bs).bind ServerMessage.assemble

theorem ServerMessage.unpack_pack (C : FieldCode ServerField) (m : ServerMessage) :
    unpack C (pack C m) = some m := by
  rw [unpack, pack, C.decode_encode, Option.bind_some]
  rcases m with ⟨t, _ | fb, _ | d⟩ <;> rfl

end Spawny.Protocol.Messages
